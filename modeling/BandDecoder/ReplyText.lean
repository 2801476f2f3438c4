import BandDecoder.Relay

namespace BandDecoder.ReplyText

open CStrings SwitchConfig Relay StateReply

theorem toNat_combine (d1 d0 : UInt8) : (combine d1 d0).toNat = 256 * d1.toNat + d0.toNat := by
  have h1 := d1.toNat_lt
  have h0 := d0.toNat_lt
  have hor := Nat.shiftLeft_add_eq_or_of_lt (i := 8) h0 d1.toNat
  have hlow : d1.toNat <<< 8 = 256 * d1.toNat := by rw [Nat.shiftLeft_eq, Nat.mul_comm]
  have hhigh : d1.toNat <<< 8 % 2 ^ 16 = d1.toNat <<< 8 := Nat.mod_eq_of_lt (by omega)
  rw [combine, BitVec.toNat_or, BitVec.toNat_shiftLeft, BitVec.toNat_setWidth, BitVec.toNat_setWidth,
    UInt8.toNat_toBitVec, UInt8.toNat_toBitVec, Nat.mod_eq_of_lt (show d1.toNat < 2 ^ 16 by omega),
    Nat.mod_eq_of_lt (show d0.toNat < 2 ^ 16 by omega), hhigh, ← hor, hlow]

structure Shows (c : RelayController) (pattern : Nat) : Prop where
  bitfield : c.relayStateBitfield.toNat = pattern
  states : ∀ i : Nat, 1 ≤ i → i ≤ 16 → c.relayStates i = some (pattern.testBit (i - 1))
  selected :
    (∃ i : Nat, 1 ≤ i ∧ i ≤ 16 ∧ c.currentlySelectedRelay = i ∧ pattern.testBit (i - 1) ∧
      ∀ j, 1 ≤ j → j < i → pattern.testBit (j - 1) = false) ∨
    (c.currentlySelectedRelay = 0 ∧ ∀ i, 1 ≤ i → i ≤ 16 → pattern.testBit (i - 1) = false)

theorem shows_takePattern (v : BitVec 16) (c : RelayController) :
    Shows (takePattern v c) v.toNat := by
  have hbit (i : Nat) : v.toNat.testBit i = v.getLsbD i := rfl
  refine ⟨rfl, ?_, ?_⟩
  · intro i h1 h16
    have hr : (1 : Int) ≤ i ∧ (i : Int) ≤ NUM_RELAYS := by
      simp only [NUM_RELAYS]
      omega
    have hi : ((i : Int) - 1).toNat = i - 1 := by omega
    simp only [takePattern, writeStates, if_pos hr, hi, hbit]
  · change (∃ i : Nat, 1 ≤ i ∧ i ≤ 16 ∧ (ffs v : Int) = i ∧ _) ∨ ((ffs v : Int) = 0 ∧ _)
    cases hf : ffs v with
    | zero =>
        refine Or.inr ⟨rfl, fun i h1 h16 => ?_⟩
        rw [hbit]
        exact ffs_eq_zero_iff.mp hf (i - 1) (by simp only [NUM_RELAYS]; omega)
    | succ k =>
        obtain ⟨hk, hset, hlow⟩ := ffs_eq_succ_iff.mp hf
        simp only [NUM_RELAYS] at hk
        refine Or.inl ⟨k + 1, by omega, by omega, rfl, by rw [hbit]; exact hset, fun j h1 hj => ?_⟩
        rw [hbit]
        exact hlow (j - 1) (by omega)

/-- A reply as it stands in the stream, with other text around it and behind its header. -/
def noisy (p header w : Bytes) (d1 d0 : UInt8) (s : Bytes) : Bytes :=
  p ++ (header ++ (w ++ 44 :: (decimal d1.toNat ++ 44 :: (decimal d0.toNat ++ (text ",OK" ++ s)))))

theorem relay_header {header : Bytes} (h : header = stateHeader ∨ header = setAllHeader) :
    text "RELAY-" <+: header := by
  rcases h with rfl | rfl <;> decide

theorem parse_noisy {header : Bytes} (h : header = stateHeader ∨ header = setAllHeader)
    (d1 d0 : UInt8) (p : Bytes) {w : Bytes} (hw : 44 ∉ w) (s : Bytes)
    (hlast : ∀ i, p.length < i → ¬ text "RELAY-" <+: (noisy p header w d1 d0 s).drop i) :
    parse (noisy p header w d1 d0 s) = some (combine d1 d0) := by
  have hpos : rfind (text "RELAY-") (noisy p header w d1 d0 s) = some p.length := by
    refine rfind_eq_some_iff.mpr ⟨?_, ?_, fun i _ hi => hlast i hi⟩
    · rw [noisy, List.length_append]
      exact Nat.le_add_right _ _
    · rw [noisy, List.drop_left]
      exact (relay_header h).trans (List.prefix_append _ _)
  rw [parse, hpos]
  dsimp only
  rw [noisy, List.drop_left]
  exact parseLast_reply h d1 d0 hw s

/-- Decoding undoes the encoding of the board, whatever stands around the reply. -/
theorem parseRelayStateResponse_noisy {header : Bytes}
    (h : header = stateHeader ∨ header = setAllHeader) (d1 d0 : UInt8) (p w : Bytes) (hw : 44 ∉ w)
    (s : Bytes)
    (hlast : ∀ i, p.length < i → ¬ text "RELAY-" <+: (noisy p header w d1 d0 s).drop i)
    (c : RelayController) :
    (parseRelayStateResponse (noisy p header w d1 d0 s) c).1 = .ok ∧
      Shows (parseRelayStateResponse (noisy p header w d1 d0 s) c).2
        (256 * d1.toNat + d0.toNat) ∧
      parseRelayStateResponse (noisy p header w d1 d0 s) c =
        parseRelayStateResponse (reply header d1 d0) c := by
  rw [parseRelayStateResponse, parseRelayStateResponse, parse_noisy h d1 d0 p hw s hlast,
    parse_reply h]
  dsimp only
  refine ⟨rfl, ?_, rfl⟩
  rw [← toNat_combine]
  exact shows_takePattern _ c

theorem parseRelayStateResponse_noisy_cut :
    (parseRelayStateResponse (noisy (text "RELAY-STATE-255,7,7,OK RELAY-S") stateHeader [13] 1 4 [10])
        construct).1 = .ok ∧
      Shows (parseRelayStateResponse
        (noisy (text "RELAY-STATE-255,7,7,OK RELAY-S") stateHeader [13] 1 4 [10]) construct).2 260 ∧
      parseRelayStateResponse (noisy (text "RELAY-STATE-255,7,7,OK RELAY-S") stateHeader [13] 1 4 [10])
          construct =
        parseRelayStateResponse (reply stateHeader 1 4) construct :=
  parseRelayStateResponse_noisy (Or.inl rfl) 1 4 (text "RELAY-STATE-255,7,7,OK RELAY-S") [13]
    (by decide) [10]
    (by
      intro i hi hp
      have hlen : 6 ≤ _ := hp.length_le
      rw [List.length_drop] at hlen
      have hlate : ∀ i < 60, 30 < i → ¬ text "RELAY-" <+:
          (noisy (text "RELAY-STATE-255,7,7,OK RELAY-S") stateHeader [13] 1 4 [10]).drop i := by
        decide
      exact hlate i (by
        have hsize : (noisy (text "RELAY-STATE-255,7,7,OK RELAY-S") stateHeader [13] 1 4 [10]).length =
          54 := by decide
        omega) hi hp)
    construct

/-- What the caller is promised: a success shows the two numbers behind one of the two
headers, a failure leaves the controller's copy alone. -/
structure Sound (response : Bytes) (c : RelayController) : Prop where
  accepted : (parseRelayStateResponse response c).1 = .ok →
    ∃ pos header t d1 d0, rfind (text "RELAY-") response = some pos ∧
      (header = stateHeader ∨ header = setAllHeader) ∧ response.drop pos = header ++ t ∧
      Fields t d1 d0 ∧
      Shows (parseRelayStateResponse response c).2 (256 * d1.toNat + d0.toNat)
  rejected : (parseRelayStateResponse response c).1 = .fail →
    (parseRelayStateResponse response c).2.relayStateBitfield = c.relayStateBitfield ∧
    (parseRelayStateResponse response c).2.currentlySelectedRelay = c.currentlySelectedRelay ∧
    (parseRelayStateResponse response c).2.relayStates = c.relayStates

/-- From its last `RELAY-` on the text begins `RELAY-S`, but with neither header, and
fields stand behind its first `-255`. -/
def Forged (response : Bytes) : Prop :=
  ∃ pos, rfind (text "RELAY-") response = some pos ∧ 18 ≤ (response.drop pos).length ∧
    charAt (response.drop pos) 6 = 83 ∧ ¬ stateHeader <+: response.drop pos ∧
    ¬ setAllHeader <+: response.drop pos ∧
    ∃ at' d1 d0, strstr (response.drop pos) (text "-255") = some at' ∧
      Fields ((response.drop pos).drop (at' + 4)) d1 d0

/-- Acceptance, with the last `RELAY-` found. -/
theorem parse_iff {response : Bytes} {v : BitVec 16} :
    parse response = some v ↔
      ∃ pos, rfind (text "RELAY-") response = some pos ∧ 18 ≤ (response.drop pos).length ∧
        charAt (response.drop pos) 6 = 83 ∧
        ∃ at' d1 d0, strstr (response.drop pos) (text "-255") = some at' ∧
          Fields ((response.drop pos).drop (at' + 4)) d1 d0 ∧ v = combine d1 d0 := by
  rw [parse]
  cases hpos : rfind (text "RELAY-") response with
  | none => simp
  | some pos =>
      have hp := (rfind_eq_some_iff.mp hpos).2.1
      dsimp only
      rw [parseLast_iff]
      constructor
      · rintro ⟨hlen, -, -, hS, hf⟩
        exact ⟨pos, rfl, hlen, hS, hf⟩
      · rintro ⟨_, hpos', hlen, hS, hf⟩
        cases hpos'
        obtain ⟨t, ht⟩ := hp
        refine ⟨hlen, ?_, ?_, hS, hf⟩ <;> rw [← ht] <;> rfl

theorem parse_of_header {response header t : Bytes} {pos : Nat}
    (hpos : rfind (text "RELAY-") response = some pos)
    (h : header = stateHeader ∨ header = setAllHeader) (ht : response.drop pos = header ++ t)
    {v : BitVec 16} (hv : parse response = some v) : ∃ d1 d0, Fields t d1 d0 ∧ v = combine d1 d0 := by
  obtain ⟨_, hpos', -, -, at', d1, d0, hat, hf, rfl⟩ := parse_iff.mp hv
  rw [hpos] at hpos'
  cases hpos'
  obtain ⟨pos', -, -, -, -, -, hstr, hdrop⟩ := parseLast_header h t
  rw [ht] at hat hf
  rw [hstr] at hat
  cases hat
  rw [hdrop] at hf
  exact ⟨d1, d0, hf, rfl⟩

theorem parseRelayStateResponse_ok_iff {response : Bytes} {c : RelayController} :
    (parseRelayStateResponse response c).1 = .ok ↔ ∃ v, parse response = some v := by
  rw [parseRelayStateResponse]
  cases parse response with
  | none => exact ⟨nofun, fun ⟨_, h⟩ => nomatch h⟩
  | some v => exact ⟨fun _ => ⟨v, rfl⟩, fun _ => rfl⟩

theorem parseRelayStateResponse_some {response : Bytes} {v : BitVec 16} (h : parse response = some v)
    (c : RelayController) : (parseRelayStateResponse response c).2 = takePattern v c := by
  rw [parseRelayStateResponse, h]

/-- The parser is sound and atomic on every text but a forged one. -/
theorem sound_iff (response : Bytes) (c : RelayController) : Sound response c ↔ ¬ Forged response := by
  constructor
  · rintro hs ⟨pos, hpos, hlen, hS, hstate, hsetAll, at', d1, d0, hat, hf⟩
    have hv : parse response = some (combine d1 d0) :=
      parse_iff.mpr ⟨pos, hpos, hlen, hS, at', d1, d0, hat, hf, rfl⟩
    obtain ⟨pos', header, t, -, -, hpos', hh, ht, -⟩ :=
      hs.accepted (parseRelayStateResponse_ok_iff.mpr ⟨_, hv⟩)
    rw [hpos] at hpos'
    cases hpos'
    rcases hh with rfl | rfl
    · exact hstate ⟨t, ht.symm⟩
    · exact hsetAll ⟨t, ht.symm⟩
  · intro hn
    refine ⟨fun hok => ?_, fun hfail => ?_⟩
    · obtain ⟨v, hv⟩ := parseRelayStateResponse_ok_iff.mp hok
      obtain ⟨pos, hpos, hlen, hS, at', d1, d0, hat, hf, -⟩ := parse_iff.mp hv
      obtain ⟨header, hh, t, ht⟩ : ∃ header, (header = stateHeader ∨ header = setAllHeader) ∧
          header <+: response.drop pos := by
        by_contra hno
        refine hn ⟨pos, hpos, hlen, hS, ?_, ?_, at', d1, d0, hat, hf⟩
        · exact fun hp => hno ⟨_, Or.inl rfl, hp⟩
        · exact fun hp => hno ⟨_, Or.inr rfl, hp⟩
      obtain ⟨e1, e0, he, rfl⟩ := parse_of_header hpos hh ht.symm hv
      refine ⟨pos, header, t, e1, e0, hpos, hh, ht.symm, he, ?_⟩
      rw [parseRelayStateResponse_some hv, ← toNat_combine]
      exact shows_takePattern _ c
    · have hnone : parse response = none := by
        cases hp : parse response with
        | none => rfl
        | some v =>
            rw [parseRelayStateResponse_ok_iff.mpr ⟨v, hp⟩] at hfail
            cases hfail
      rw [parseRelayStateResponse, hnone]
      exact ⟨rfl, rfl, rfl⟩

/-- The answer to a command for one relay passes for the state of all sixteen. -/
theorem sound_fails : ¬ ∀ (response : Bytes) (c : RelayController), Sound response c := by
  intro h
  have hv : parse (text "RELAY-SET-255,3,1,OK") = some (combine 3 1) := by decide
  have hpos : rfind (text "RELAY-") (text "RELAY-SET-255,3,1,OK") = some 0 := by decide
  obtain ⟨pos, header, t, -, -, hpos', hh, ht, -⟩ :=
    (h (text "RELAY-SET-255,3,1,OK") construct).accepted
      (parseRelayStateResponse_ok_iff.mpr ⟨_, hv⟩)
  rw [hpos] at hpos'
  cases hpos'
  have hno : ¬ stateHeader <+: text "RELAY-SET-255,3,1,OK" ∧
      ¬ setAllHeader <+: text "RELAY-SET-255,3,1,OK" := by decide
  rcases hh with rfl | rfl
  · exact hno.1 ⟨t, ht.symm⟩
  · exact hno.2 ⟨t, ht.symm⟩

end BandDecoder.ReplyText
