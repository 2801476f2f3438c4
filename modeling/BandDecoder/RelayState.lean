import BandDecoder.Runs
import BandDecoder.SendCommand

namespace BandDecoder.RelayState

open CStrings SwitchConfig Tcp StateReply Relay SendCommand Runs

/-- The calls that can change a controller, each with what the network does
during it. `connection` stands for any reconnect or loss in between. -/
inductive RelayOp
  | turnOffAllRelays (x : Exchange)
  | turnOffAllRelaysExcept (x : Exchange) (relay : Int)
  | updateRelayStates (x : Exchange)
  | executeRelayChange (x : Exchange) (relay band : Int)
  | setRelayForAntenna (relay band : Int)
  | setRelay (relay : Int) (state : Bool)
  | connection (tcp : TcpClient)

def next (c : RelayController) : RelayOp → RelayController
  | .turnOffAllRelays x => (turnOffAllRelays x c).2
  | .turnOffAllRelaysExcept x relay => (turnOffAllRelaysExcept x relay c).2
  | .updateRelayStates x => (updateRelayStates x c).2
  | .executeRelayChange x relay band => (executeRelayChange x relay band c).2
  | .setRelayForAntenna relay band => (setRelayForAntenna relay band c).2
  | .setRelay relay state => (setRelay relay state c).2
  | .connection tcp => { c with tcpClient := tcp }

def Step (c : RelayController) (op : RelayOp) (c' : RelayController) : Prop := c' = next c op

structure Untouched (c c' : RelayController) : Prop where
  states : c'.relayStates = c.relayStates
  selected : c'.currentlySelectedRelay = c.currentlySelectedRelay
  bitfield : c'.relayStateBitfield = c.relayStateBitfield

theorem Untouched.of_sameRelays {c c' : RelayController} (h : SameRelays c c') :
    Untouched c c' := by
  rw [h]
  exact ⟨rfl, rfl, rfl⟩

theorem untouched_setRelayForAntenna (relay band : Int) (c : RelayController) :
    Untouched c (setRelayForAntenna relay band c).2 := by
  rcases setRelayForAntenna_cases relay band c with ⟨-, hn⟩ | ⟨-, -, hn⟩
  · rw [hn]
    exact ⟨rfl, rfl, rfl⟩
  · rw [hn]
    exact ⟨rfl, rfl, rfl⟩

theorem untouched_setRelay (relay : Int) (state : Bool) (c : RelayController) :
    Untouched c (setRelay relay state c).2 := by
  rw [setRelay]
  split
  · exact ⟨rfl, rfl, rfl⟩
  · split <;> exact ⟨rfl, rfl, rfl⟩

theorem isOn_writeStates (f : Int → Bool) {c c' : RelayController} {i : Int} (h1 : 1 ≤ i)
    (h16 : i ≤ NUM_RELAYS) (h : c'.relayStates = writeStates f c.relayStates) : isOn c' i = f i := by
  simp only [isOn, h, writeStates, h1, h16, and_self, if_true, Option.getD_some]

theorem isOn_recordOnly (relay : Int) (c : RelayController) {i : Int} (h1 : 1 ≤ i)
    (h16 : i ≤ NUM_RELAYS) : isOn (recordOnly relay c) i = decide (i = relay) :=
  isOn_writeStates (fun i => decide (i = relay)) (c := c) h1 h16 rfl

theorem isOn_takePattern (v : BitVec 16) (c : RelayController) {i : Int} (h1 : 1 ≤ i)
    (h16 : i ≤ NUM_RELAYS) : isOn (takePattern v c) i = v.getLsbD (i - 1).toNat :=
  isOn_writeStates (fun i => v.getLsbD (i - 1).toNat) (c := c) h1 h16 rfl

theorem relearn_bitfield (c : RelayController) :
    (relearn c).relayStateBitfield = (parse (cstr c.response)).getD c.relayStateBitfield := by
  rw [relearn, parseRelayStateResponse]
  cases parse (cstr c.response) <;> rfl

/-- A SET_ALL reply that counts as a confirmation must teach the very pattern, or
none while the bitfield already holds it. -/
def ReplyTeaches (x : Exchange) (relay : Int) (c : RelayController) : Prop :=
  1 ≤ relay → relay ≤ NUM_RELAYS → ∀ received c', setAllAnswer x relay c = some (received, c') →
    text ",OK" <:+: cstr c'.response →
    (parse (cstr c'.response)).getD c.relayStateBitfield = only relay.toNat

def KeepsCopies (c : RelayController) : RelayOp → Prop
  | .turnOffAllRelays x => ∀ received c',
      answered x (text "RELAY-AOF-255,1,1") 500 c = some (received, c') →
      text "255,1,1,OK" <:+: cstr c'.response → c.relayStateBitfield = 0
  | .turnOffAllRelaysExcept x relay => ReplyTeaches x relay c
  | .executeRelayChange x relay _ => relay ≠ c.currentlySelectedRelay → ReplyTeaches x relay c
  | _ => True

theorem replyTeaches_iff {x : Exchange} {relay : Int} {c c' : RelayController} {received : Bytes}
    (h1 : 1 ≤ relay) (h16 : relay ≤ NUM_RELAYS) (hc : Untouched c c')
    (ha : setAllAnswer x relay c = some (received, c')) (hok : text ",OK" <:+: cstr c'.response) :
    ReplyTeaches x relay c ↔ (relearn c').relayStateBitfield = only relay.toNat := by
  rw [relearn_bitfield, hc.bitfield]
  constructor
  · intro h
    exact h h1 h16 received c' ha hok
  · intro h _ _ received' c'' ha' _
    obtain ⟨-, rfl⟩ := Prod.mk.inj (Option.some.inj (ha.symm.trans ha'))
    exact h

theorem turnOffAllRelaysExcept_teaches (x : Exchange) (relay : Int) (c : RelayController) :
    (ReplyTeaches x relay c ∧
      ∃ e c', e ≠ .ok ∧ SameRelays c c' ∧ turnOffAllRelaysExcept x relay c = (e, c')) ∨
    (1 ≤ relay ∧ relay ≤ NUM_RELAYS ∧
      ∃ c', (ReplyTeaches x relay c ↔ (relearn c').relayStateBitfield = only relay.toNat) ∧
        turnOffAllRelaysExcept x relay c = (.ok, recordOnly relay (relearn c'))) := by
  by_cases hr : 1 ≤ relay ∧ relay ≤ NUM_RELAYS
  · rcases turnOffAllRelaysExcept_cases x hr.1 hr.2 c with
      ⟨e, c', he, hc, hno, ht⟩ | ⟨received, c', hc, ha, hok, ht⟩
    · exact Or.inl ⟨fun _ _ r c₁ ha hok => absurd hok (hno r c₁ ha), e, c', he, hc, ht⟩
    · exact Or.inr ⟨hr.1, hr.2, c', replyTeaches_iff hr.1 hr.2 (.of_sameRelays hc) ha hok, ht⟩
  · exact Or.inl ⟨fun h1 h16 => absurd ⟨h1, h16⟩ hr, .invalidArg, c, EspErr.noConfusion, rfl,
      turnOffAllRelaysExcept_range x hr c⟩

/-- What one call can do to the three copies: nothing, adopt a reported pattern,
clear the map, or record one relay over what the SET_ALL reply taught. -/
theorem next_cases (c : RelayController) (op : RelayOp) :
    (KeepsCopies c op ∧ Untouched c (next c op)) ∨
    (KeepsCopies c op ∧ ∃ c' v, Untouched (takePattern v c') (next c op)) ∨
    (∃ c' : RelayController, (KeepsCopies c op ↔ c'.relayStateBitfield = 0) ∧ next c op =
      { c' with
        relayStates := writeStates (fun _ => false) c'.relayStates
        currentlySelectedRelay := 0 }) ∨
    (∃ (relay : Int) (c' : RelayController), 1 ≤ relay ∧ relay ≤ NUM_RELAYS ∧
      (KeepsCopies c op ↔ (relearn c').relayStateBitfield = only relay.toNat) ∧
      Untouched (recordOnly relay (relearn c')) (next c op)) := by
  cases op with
  | turnOffAllRelays x =>
      rcases turnOffAllRelays_cases x c with
        ⟨e, c', -, hc, hno, ht⟩ | ⟨received, c', hc, ha, hok, ht⟩
      · refine Or.inl ⟨fun r c₁ ha hok => absurd hok (hno r c₁ ha), ?_⟩
        simp only [next, ht]
        exact .of_sameRelays hc
      · refine Or.inr (Or.inr (Or.inl ⟨c', ?_, by simp only [next, ht]⟩))
        rw [(Untouched.of_sameRelays hc).bitfield]
        refine ⟨fun h => h received c' ha hok, fun h _ _ _ _ => h⟩
  | turnOffAllRelaysExcept x relay =>
      rcases turnOffAllRelaysExcept_teaches x relay c with
        ⟨hk, e, c', -, hc, ht⟩ | ⟨h1, h16, c', hk, ht⟩
      · refine Or.inl ⟨hk, ?_⟩
        simp only [next, ht]
        exact .of_sameRelays hc
      · refine Or.inr (Or.inr (Or.inr ⟨relay, c', h1, h16, hk, ?_⟩))
        simp only [next, ht]
        exact ⟨rfl, rfl, rfl⟩
  | updateRelayStates x =>
      rcases updateRelayStates_cases x c with ⟨e, c', hc, hu⟩ | ⟨c', v, hc, hu⟩
      · refine Or.inl ⟨trivial, ?_⟩
        simp only [next, hu]
        exact .of_sameRelays hc
      · refine Or.inr (Or.inl ⟨trivial, c', v, ?_⟩)
        simp only [next, hu]
        exact ⟨rfl, rfl, rfl⟩
  | executeRelayChange x relay band =>
      by_cases hsel : relay = c.currentlySelectedRelay
      · refine Or.inl ⟨fun hne => absurd hsel hne, ?_⟩
        simp only [next, executeRelayChange, if_pos hsel]
        exact ⟨rfl, rfl, rfl⟩
      · rcases turnOffAllRelaysExcept_teaches x relay c with
          ⟨hk, e, c', he, hc, ht⟩ | ⟨h1, h16, c', hk, ht⟩
        · refine Or.inl ⟨fun _ => hk, ?_⟩
          simp only [next, executeRelayChange_failed band hsel he ht]
          exact .of_sameRelays hc
        · refine Or.inr (Or.inr (Or.inr ⟨relay, c', h1, h16, ?_, ?_⟩))
          · rw [← hk]
            exact ⟨fun h => h hsel, fun h _ => h⟩
          · simp only [next, executeRelayChange_eq x band hsel, ht]
            exact ⟨rfl, rfl, rfl⟩
  | setRelayForAntenna relay band =>
      exact Or.inl ⟨trivial, untouched_setRelayForAntenna relay band c⟩
  | setRelay relay state => exact Or.inl ⟨trivial, untouched_setRelay relay state c⟩
  | connection tcp => exact Or.inl ⟨trivial, ⟨rfl, rfl, rfl⟩⟩

theorem Untouched.isOn {c c' : RelayController} (h : Untouched c c') (i : Int) :
    Relay.isOn c' i = Relay.isOn c i := by
  rw [Relay.isOn, Relay.isOn, h.states]

/-! Exclusive selection -/

def SelectedOn (c : RelayController) : Prop :=
  c.currentlySelectedRelay = 0 ∨
    (1 ≤ c.currentlySelectedRelay ∧ c.currentlySelectedRelay ≤ NUM_RELAYS ∧
      isOn c c.currentlySelectedRelay = true)

theorem SelectedOn.of_untouched {c c' : RelayController} (h : SelectedOn c) (hc : Untouched c c') :
    SelectedOn c' := by
  rw [SelectedOn, hc.selected, hc.isOn]
  exact h

theorem selectedOn_takePattern (v : BitVec 16) (c : RelayController) :
    SelectedOn (takePattern v c) := by
  cases hv : ffs v with
  | zero => exact Or.inl (congrArg Nat.cast hv)
  | succ i =>
      obtain ⟨hi, hbit, -⟩ := ffs_eq_succ_iff.mp hv
      have hs : (takePattern v c).currentlySelectedRelay = (i + 1 : Nat) := congrArg Nat.cast hv
      refine Or.inr ?_
      rw [hs]
      refine ⟨by omega, by omega, ?_⟩
      rw [isOn_takePattern v c (by omega) (by omega)]
      simpa using hbit

theorem selectedOn_recordOnly {relay : Int} (h1 : 1 ≤ relay) (h16 : relay ≤ NUM_RELAYS)
    (c : RelayController) : SelectedOn (recordOnly relay c) := by
  refine Or.inr ⟨h1, h16, ?_⟩
  exact (isOn_recordOnly relay c h1 h16).trans (decide_eq_true rfl)

theorem SelectedOn.next {c : RelayController} (h : SelectedOn c) (op : RelayOp) :
    SelectedOn (next c op) := by
  rcases next_cases c op with ⟨-, hu⟩ | ⟨-, c', v, hu⟩ | ⟨c', -, hn⟩ | ⟨relay, c', h1, h16, -, hu⟩
  · exact h.of_untouched hu
  · exact (selectedOn_takePattern v c').of_untouched hu
  · rw [hn]
    exact Or.inl rfl
  · exact (selectedOn_recordOnly h1 h16 _).of_untouched hu

/-- A relay change that succeeds leaves exactly its relay recorded as on, unless it
takes the shortcut while another relay is recorded as on beside it. -/
theorem executeRelayChange_exclusive (c : RelayController) (hc : Reachable Step construct c)
    (x : Exchange) (relay band : Int) (h1 : 1 ≤ relay) (h16 : relay ≤ NUM_RELAYS) :
    ((executeRelayChange x relay band c).1 = .ok →
      ∀ i : Int, 1 ≤ i → i ≤ NUM_RELAYS →
        (isOn (executeRelayChange x relay band c).2 i = true ↔ i = relay)) ↔
    ¬ (relay = c.currentlySelectedRelay ∧
      ∃ i : Int, 1 ≤ i ∧ i ≤ NUM_RELAYS ∧ i ≠ relay ∧ isOn c i = true) := by
  have hs : SelectedOn c := by
    refine hc.invariant SelectedOn (Or.inl rfl) ?_
    rintro c op c' h rfl
    exact h.next op
  by_cases hsel : relay = c.currentlySelectedRelay
  · have hon : isOn c relay = true := by
      rcases hs with h0 | ⟨-, -, hon⟩
      · omega
      · rw [hsel]
        exact hon
    rw [executeRelayChange, if_pos hsel]
    constructor
    · rintro h ⟨-, i, hi1, hi16, hne, hi⟩
      exact hne ((h rfl i hi1 hi16).mp hi)
    · intro h _ i hi1 hi16
      refine ⟨fun hi => ?_, fun hi => ?_⟩
      · by_contra hne
        exact h ⟨hsel, i, hi1, hi16, hne, hi⟩
      · rw [hi]
        exact hon
  · refine iff_of_true ?_ fun h => hsel h.1
    rcases turnOffAllRelaysExcept_cases x h1 h16 c with
      ⟨e, c', he, -, -, ht⟩ | ⟨received, c', -, -, -, ht⟩
    · rw [executeRelayChange_failed band hsel he ht]
      exact fun hok => absurd hok he
    · rw [executeRelayChange_eq x band hsel, ht]
      intro _ i hi1 hi16
      have hi := isOn_recordOnly relay (relearn c') hi1 hi16
      change isOn (recordOnly relay (relearn c')) i = true ↔ i = relay
      rw [hi, decide_eq_true_iff]

def twoOn : RelayController :=
  next (next construct (.connection linkUp))
    (.updateRelayStates (exchange [.data (text "RELAY-STATE-255,0,3,OK")]))

theorem reachable_twoOn : Reachable Step construct twoOn :=
  .tail (.single ⟨_, rfl⟩) ⟨_, rfl⟩

def confirmed : Exchange := exchange [.data (text "RELAY-SET_ALL-255,0,4,OK")]

theorem executeRelayChange_exclusive_other :
    (executeRelayChange confirmed 3 0 twoOn).1 = .ok ∧
      ∀ i : Int, 1 ≤ i → i ≤ NUM_RELAYS →
        (isOn (executeRelayChange confirmed 3 0 twoOn).2 i = true ↔ i = 3) := by
  have h := executeRelayChange_exclusive twoOn reachable_twoOn confirmed 3 0 (by decide) (by decide)
  have hok : (executeRelayChange confirmed 3 0 twoOn).1 = .ok := by decide +kernel
  exact ⟨hok, h.mpr (fun hn => absurd hn.1 (by decide)) hok⟩

/-- The shortcut on relay 1 leaves relay 2 recorded as on. -/
theorem executeRelayChange_not_exclusive :
    ¬ ∀ c, Reachable Step construct c → ∀ (x : Exchange) (relay band : Int), 1 ≤ relay →
      relay ≤ NUM_RELAYS → (executeRelayChange x relay band c).1 = .ok →
        ∀ i : Int, 1 ≤ i → i ≤ NUM_RELAYS →
          (isOn (executeRelayChange x relay band c).2 i = true ↔ i = relay) := by
  intro h
  have h2 := h twoOn reachable_twoOn (exchange []) 1 0 (by decide) (by decide) (by decide) 2
    (by decide) (by decide)
  exact absurd h2 (by decide)

/-! The three copies -/

structure Coherent (c : RelayController) : Prop where
  states : ∀ i : Int, 1 ≤ i → i ≤ NUM_RELAYS →
    isOn c i = c.relayStateBitfield.getLsbD (i - 1).toNat
  zero : c.currentlySelectedRelay = 0 ↔ c.relayStateBitfield = 0
  lowest : c.relayStateBitfield ≠ 0 → ∃ k < NUM_RELAYS, c.currentlySelectedRelay = k + 1 ∧
    c.relayStateBitfield.getLsbD k = true ∧ ∀ j < k, c.relayStateBitfield.getLsbD j = false

theorem ffs_zero_iff (v : BitVec 16) : ffs v = 0 ↔ v = 0 := by
  rw [ffs_eq_zero_iff]
  constructor
  · intro h
    apply BitVec.eq_of_getLsbD_eq
    intro i hi
    rw [h i hi]
    exact BitVec.getLsbD_zero.symm
  · rintro rfl i _
    exact BitVec.getLsbD_zero

theorem Coherent.of_ffs {c : RelayController}
    (hs : ∀ i : Int, 1 ≤ i → i ≤ NUM_RELAYS →
      isOn c i = c.relayStateBitfield.getLsbD (i - 1).toNat)
    (hf : c.currentlySelectedRelay = ffs c.relayStateBitfield) : Coherent c := by
  refine ⟨hs, ?_, fun hne => ?_⟩
  · rw [hf, ← ffs_zero_iff]
    exact Int.natCast_eq_zero
  · obtain ⟨k, hk⟩ := Nat.exists_eq_succ_of_ne_zero (mt (ffs_zero_iff _).mp hne)
    obtain ⟨h16, hbit, hlow⟩ := ffs_eq_succ_iff.mp hk
    exact ⟨k, h16, by rw [hf, hk]; rfl, hbit, hlow⟩

theorem Coherent.of_untouched {c c' : RelayController} (h : Coherent c) (hc : Untouched c c') :
    Coherent c' := by
  refine ⟨fun i h1 h16 => ?_, ?_, ?_⟩
  · rw [hc.isOn, hc.bitfield]
    exact h.states i h1 h16
  · rw [hc.selected, hc.bitfield]
    exact h.zero
  · rw [hc.selected, hc.bitfield]
    exact h.lowest

theorem Untouched.symm {c c' : RelayController} (h : Untouched c c') : Untouched c' c :=
  ⟨h.states.symm, h.selected.symm, h.bitfield.symm⟩

theorem coherent_takePattern (v : BitVec 16) (c : RelayController) : Coherent (takePattern v c) :=
  .of_ffs (fun _ h1 h16 => isOn_takePattern v c h1 h16) rfl

theorem coherent_cleared_iff (c : RelayController) :
    Coherent
      { c with
        relayStates := writeStates (fun _ => false) c.relayStates
        currentlySelectedRelay := 0 } ↔ c.relayStateBitfield = 0 := by
  constructor
  · intro h
    exact h.zero.mp rfl
  · intro h
    refine .of_ffs (fun i h1 h16 => ?_) ?_
    · rw [isOn_writeStates (fun _ => false) h1 h16 rfl]
      change false = c.relayStateBitfield.getLsbD (i - 1).toNat
      rw [h]
      exact BitVec.getLsbD_zero.symm
    · change (0 : Int) = ffs c.relayStateBitfield
      rw [(ffs_zero_iff _).mpr h]
      rfl

theorem coherent_recordOnly_iff {relay : Int} (h1 : 1 ≤ relay) (h16 : relay ≤ NUM_RELAYS)
    (c : RelayController) :
    Coherent (recordOnly relay c) ↔ c.relayStateBitfield = only relay.toNat := by
  have hr : 1 ≤ relay.toNat ∧ relay.toNat ≤ NUM_RELAYS := by omega
  constructor
  · intro h
    rw [eq_only_iff hr.1 hr.2]
    intro i hi
    have hs := h.states (i + 1) (by omega) (by omega)
    rw [isOn_recordOnly relay c (by omega) (by omega)] at hs
    have hb : c.relayStateBitfield.getLsbD i = decide ((i : Int) + 1 = relay) := by
      rw [hs]
      exact congrArg c.relayStateBitfield.getLsbD (by omega)
    rw [hb, decide_eq_true_iff]
    omega
  · intro h
    refine .of_ffs (fun i hi1 hi16 => ?_) ?_
    · rw [isOn_recordOnly relay c hi1 hi16]
      change decide (i = relay) = c.relayStateBitfield.getLsbD (i - 1).toNat
      rw [h, getLsbD_only hr.1 hr.2, decide_eq_decide]
      omega
    · change relay = ffs c.relayStateBitfield
      rw [h, ffs_only hr.1 hr.2]
      omega

theorem Coherent.next_iff {c : RelayController} (h : Coherent c) (op : RelayOp) :
    Coherent (next c op) ↔ KeepsCopies c op := by
  rcases next_cases c op with ⟨hk, hu⟩ | ⟨hk, c', v, hu⟩ | ⟨c', hk, hn⟩ | ⟨relay, c', h1, h16, hk, hu⟩
  · exact iff_of_true (h.of_untouched hu) hk
  · exact iff_of_true ((coherent_takePattern v c').of_untouched hu) hk
  · rw [hn, hk, coherent_cleared_iff]
  · rw [hk, ← coherent_recordOnly_iff h1 h16]
    exact ⟨fun hc => hc.of_untouched hu.symm, fun hc => hc.of_untouched hu⟩

/-- From a first parsed state reply on, the three copies agree along a run exactly
when no confirmed turn-off finds bits set and every confirmed SET_ALL teaches the
pattern of its relay. -/
theorem coherent_iff (reply : Bytes) (c₀ c : RelayController)
    (hp : parseRelayStateResponse reply c₀ = (.ok, c)) (t : List (RelayOp × RelayController))
    (h : Run Step c t) :
    (Coherent c ∧ ∀ x ∈ t, Coherent x.2) ↔ Guarded KeepsCopies c t := by
  have hc : Coherent c := by
    rw [parseRelayStateResponse] at hp
    split at hp
    · cases hp
    · cases hp
      exact coherent_takePattern _ c₀
  rw [and_iff_right hc]
  refine h.forall_iff_guarded Coherent (fun _ => Coherent) hc ?_ ?_
  · rintro c op c' hc rfl hok
    have hn := (hc.next_iff op).mpr hok
    exact ⟨hn, hn⟩
  · rintro c op c' hc rfl hok
    exact fun hn => hok ((hc.next_iff op).mp hn)

def oneOn : RelayController :=
  (parseRelayStateResponse (text "RELAY-STATE-255,0,1,OK")
    { construct with tcpClient := linkUp }).2

def turnOff : RelayOp :=
  .turnOffAllRelays (exchange [.data (text "RELAY-AOF-255,1,1,OK")])

theorem coherent_iff_turnOff :
    (Coherent oneOn ∧ ∀ x ∈ [(turnOff, next oneOn turnOff)], Coherent x.2) ↔
      Guarded KeepsCopies oneOn [(turnOff, next oneOn turnOff)] :=
  coherent_iff (text "RELAY-STATE-255,0,1,OK") { construct with tcpClient := linkUp } oneOn
    (Prod.ext (by decide) rfl) _ (.cons rfl (.nil _))

/-- A confirmed turn-off leaves the bitfield behind. -/
theorem coherent_fails :
    ¬ ∀ (reply : Bytes) (c₀ c : RelayController), parseRelayStateResponse reply c₀ = (.ok, c) →
      ∀ t : List (RelayOp × RelayController), Run Step c t → ∀ x ∈ t, Coherent x.2 := by
  intro h
  have hc := h (text "RELAY-STATE-255,0,1,OK") { construct with tcpClient := linkUp } oneOn
    (Prod.ext (by decide) rfl) [(turnOff, next oneOn turnOff)] (.cons rfl (.nil _)) _
    List.mem_cons_self
  exact absurd hc.zero (by decide)

end BandDecoder.RelayState
