import BandDecoder.Cat

namespace BandDecoder.ApCommand

open CStrings SwitchConfig Config Cat

def Count (command : Bytes) (n : Nat) : Prop :=
  command ≠ [] ∧ (∀ b ∈ command, isDigit b) ∧ digitsValue command = n ∧ 1 ≤ n ∧ n ≤ MAX_ANTENNA_PORTS

/-- An `AP` command sets the number of ports that its text says, and one that says
none changes nothing. -/
structure Exact (command : Bytes) (d : Device) : Prop where
  accepts : ∀ n, Count command n → (processApCommand .success command d).1 = .ok ∧
    (processApCommand .success command d).2.configManager.currentConfig =
      { d.configManager.currentConfig with numAntennaPorts := UInt8.ofNat n }
  refuses : (¬ ∃ n, Count command n) → (processApCommand .success command d).1 ≠ .ok ∧
    (processApCommand .success command d).2 = d

/-- What `strtoul` and the narrowing make a number of ports: blanks, a sign and digits
up to the end of the C string, with a low byte in range. -/
def Lenient (command : Bytes) : Prop :=
  ∃ n t v, command = n ++ t ∧ Numeral n v ∧ (∀ b ∈ t.head?, b = 0) ∧ v.natAbs < 2 ^ 32 ∧
    1 ≤ v % 256 ∧ v % 256 ≤ MAX_ANTENNA_PORTS

theorem Count.numeral {command : Bytes} {n : Nat} (h : Count command n) : Numeral command n := by
  obtain ⟨hne, hd, hv, -⟩ := h
  refine ⟨[], [], command, rfl, fun b hb => absurd hb List.not_mem_nil, Or.inl rfl, hne, hd, ?_⟩
  rw [if_neg (List.cons_ne_nil _ _).symm, hv]

theorem Count.lenient {command : Bytes} {n : Nat} (h : Count command n) : Lenient command := by
  have hn := h.numeral
  obtain ⟨-, -, -, h1, h8⟩ := h
  rw [MAX_ANTENNA_PORTS] at h8
  refine ⟨command, [], n, (List.append_nil _).symm, hn, fun b hb => absurd hb (Option.not_mem_none b),
    ?_, ?_, ?_⟩
  · rw [Int.natAbs_natCast]
    omega
  · omega
  · rw [MAX_ANTENNA_PORTS]
    omega

theorem charAt_append (n t : Bytes) : charAt (n ++ t) n.length = t.head?.getD 0 := by
  rw [charAt, List.getD_eq_getElem?_getD, List.getElem?_append_right le_rfl, Nat.sub_self,
    List.head?_eq_getElem?]

theorem strtoul_lenient {n t : Bytes} {v : Int} (hn : Numeral n v) (ht : ∀ b ∈ t.head?, b = 0)
    (hv : v.natAbs < 2 ^ 32) :
    strtoul 32 (n ++ t) = ((v % (2 ^ 32 : Nat)).toNat, n.length) ∧
      charAt (n ++ t) n.length = 0 := by
  have hd : ∀ b ∈ t.head?, isDigit b = false := by
    intro b hb
    rw [ht b hb]
    rfl
  rw [strtoul_numeral 32 hn hd, if_neg (Nat.not_le.mpr hv), charAt_append]
  refine ⟨rfl, ?_⟩
  cases hh : t.head? with
  | none => rfl
  | some b => exact ht b hh

theorem processApCommand_stopped {command : Bytes}
    (h : charAt command (strtoul 32 command).2 ≠ 0) (d : Device) :
    processApCommand .success command d = (.invalidArg, d) := by
  rw [processApCommand]
  exact if_pos h

theorem processApCommand_parsed {command : Bytes}
    (h : charAt command (strtoul 32 command).2 = 0) (d : Device) :
    processApCommand .success command d =
      ((updateConfig .success { d.configManager.currentConfig with
          numAntennaPorts := UInt8.ofNat (strtoul 32 command).1 } d.configManager).1,
        { d with configManager := (updateConfig .success { d.configManager.currentConfig with
          numAntennaPorts := UInt8.ofNat (strtoul 32 command).1 } d.configManager).2 }) := by
  rw [processApCommand]
  exact if_neg (not_not.mpr h)

/-- The configuration an `AP` command builds passes the checks exactly for a port
number in range behind the narrowing. -/
theorem checked_ports_iff {c : AntennaSwitchConfig} (h1 : 1 ≤ c.numBands.toNat)
    (h10 : c.numBands.toNat ≤ MAX_BANDS) (ports : Nat) :
    ({ c with numAntennaPorts := UInt8.ofNat ports } : AntennaSwitchConfig).Checked ↔
      1 ≤ ports % 256 ∧ ports % 256 ≤ MAX_ANTENNA_PORTS := by
  have hp : (UInt8.ofNat ports).toNat = ports % 256 := UInt8.toNat_ofNat'
  rw [AntennaSwitchConfig.Checked]
  dsimp only
  rw [hp]
  tauto

theorem processApCommand_ok_iff {command : Bytes} {d : Device}
    (h1 : 1 ≤ d.configManager.currentConfig.numBands.toNat)
    (h10 : d.configManager.currentConfig.numBands.toNat ≤ MAX_BANDS) :
    (processApCommand .success command d).1 = .ok ↔ Lenient command := by
  constructor
  · intro hok
    by_cases hs : charAt command (strtoul 32 command).2 = 0
    · rw [processApCommand_parsed hs, updateConfig_fst_ok_iff, checked_ports_iff h1 h10] at hok
      obtain ⟨⟨hp, hp8⟩, -⟩ := hok
      have hstop : (strtoul 32 command).2 ≠ 0 := by
        intro h0
        rw [strtoul_of_stop h0] at hp
        exact absurd hp (by decide)
      obtain ⟨n, t, v, rfl, hn, ht⟩ := strtoul_sound hstop
      rw [strtoul_numeral 32 hn ht] at hs hp hp8
      dsimp only at hs hp hp8
      rw [charAt_append] at hs
      by_cases hv : 2 ^ 32 ≤ v.natAbs
      · rw [if_pos hv] at hp8
        exact absurd hp8 (by decide)
      · rw [if_neg hv] at hp hp8
        refine ⟨n, t, v, rfl, hn, ?_, Nat.lt_of_not_le hv, ?_, ?_⟩
        · intro b hb
          rw [Option.mem_def.mp hb] at hs
          exact hs
        · omega
        · omega
    · rw [processApCommand_stopped hs] at hok
      cases hok
  · rintro ⟨n, t, v, rfl, hn, ht, hv, h, h8⟩
    obtain ⟨hl, hc⟩ := strtoul_lenient hn ht hv
    have hs : charAt (n ++ t) (strtoul 32 (n ++ t)).2 = 0 := by
      rw [hl]
      exact hc
    rw [processApCommand_parsed hs, hl, updateConfig_fst_ok_iff, checked_ports_iff h1 h10]
    dsimp only
    refine ⟨?_, rfl⟩
    omega

theorem processApCommand_refused {command : Bytes} {d : Device}
    (h : (processApCommand .success command d).1 ≠ .ok) :
    (processApCommand .success command d).2 = d := by
  by_cases hs : charAt command (strtoul 32 command).2 = 0
  · rw [processApCommand_parsed hs] at h ⊢
    have hc := fun hc => h (updateConfig_fst_ok_iff.mpr ⟨hc, rfl⟩)
    rw [updateConfig_refused hc]
  · rw [processApCommand_stopped hs]

theorem processApCommand_count {command : Bytes} {n : Nat} (h : Count command n) {d : Device}
    (h1 : 1 ≤ d.configManager.currentConfig.numBands.toNat)
    (h10 : d.configManager.currentConfig.numBands.toNat ≤ MAX_BANDS) :
    (processApCommand .success command d).1 = .ok ∧
      (processApCommand .success command d).2.configManager.currentConfig =
        { d.configManager.currentConfig with numAntennaPorts := UInt8.ofNat n } := by
  obtain ⟨hne, hd, hv, hn, h8⟩ := h
  rw [MAX_ANTENNA_PORTS] at h8
  have hl := strtoul_digits 32 hne hd (by omega)
  have hs : charAt command (strtoul 32 command).2 = 0 := by
    rw [hl]
    exact charAt_length command
  have hc : ({ d.configManager.currentConfig with
      numAntennaPorts := UInt8.ofNat n } : AntennaSwitchConfig).Checked := by
    rw [checked_ports_iff h1 h10, MAX_ANTENNA_PORTS]
    omega
  rw [processApCommand_parsed hs, hl, hv, updateConfig_success hc]
  exact ⟨rfl, rfl⟩

/-- The command is exact on the port numbers and on every text that the lenient
reading refuses too, and on no other. -/
theorem exact_iff_count (command : Bytes) (d : Device)
    (h1 : 1 ≤ d.configManager.currentConfig.numBands.toNat)
    (h10 : d.configManager.currentConfig.numBands.toNat ≤ MAX_BANDS) :
    Exact command d ↔ (∃ n, Count command n) ∨ ¬ Lenient command := by
  constructor
  · intro he
    by_contra h
    rw [not_or, not_not] at h
    exact (he.refuses h.1).1 ((processApCommand_ok_iff h1 h10).mpr h.2)
  · rintro (⟨n, hn⟩ | hl)
    · exact ⟨fun m hm => processApCommand_count hm h1 h10, fun hno => absurd ⟨n, hn⟩ hno⟩
    · have hf : (processApCommand .success command d).1 ≠ .ok :=
        fun hok => hl ((processApCommand_ok_iff h1 h10).mp hok)
      exact ⟨fun n hn => absurd hn.lenient hl, fun _ => ⟨hf, processApCommand_refused hf⟩⟩

def firstStart : Device :=
  ⟨⟨defaults AntennaSwitchConfig.zero, [], []⟩,
    ⟨defaults AntennaSwitchConfig.zero, 0, -1, false, .unset⟩, Relay.construct⟩

theorem exact_iff_count_four :
    Exact (text "4") firstStart ↔ (∃ n, Count (text "4") n) ∨ ¬ Lenient (text "4") :=
  exact_iff_count (text "4") firstStart (by decide) (by decide)

/-- 257 ports are taken as one. -/
theorem exact_fails : ¬ ∀ (command : Bytes) (d : Device),
    1 ≤ d.configManager.currentConfig.numBands.toNat →
    d.configManager.currentConfig.numBands.toNat ≤ MAX_BANDS → Exact command d := by
  intro h
  have he := h (text "257") firstStart (by decide) (by decide)
  have hno : ¬ ∃ n, Count (text "257") n := by
    rintro ⟨n, -, -, hv, -, h8⟩
    have hv' : digitsValue (text "257") = 257 := by decide
    rw [hv'] at hv
    rw [MAX_ANTENNA_PORTS] at h8
    omega
  exact (he.refuses hno).1 (by decide)

end BandDecoder.ApCommand
