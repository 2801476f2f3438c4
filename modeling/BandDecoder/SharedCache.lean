import BandDecoder.TruthfulBoard
import Mathlib.Logic.Function.Basic

namespace BandDecoder.SharedCache

open CStrings SwitchConfig StateReply Relay SendCommand RelayState TruthfulBoard Runs

abbrev RelayId := { relay : Int // 1 ≤ relay ∧ relay ≤ NUM_RELAYS }

inductive Call
  | turnOffAllRelays
  | turnOffAllRelaysExcept (relay : RelayId)
  | updateRelayStates

inductive Update
  | none
  | only (relay : RelayId)

def Update.apply : Update → RelayController → RelayController
  | .none, c =>
      { c with
        relayStates := writeStates (fun _ => false) c.relayStates
        currentlySelectedRelay := 0 }
  | .only relay, c => recordOnly relay c

def Update.pattern : Update → BitVec 16
  | .none => 0
  | .only relay => StateReply.only relay.val.toNat

/-- The part of a call under the mutex. -/
def exchange (x : Exchange) : Call → RelayController → EspErr × RelayController
  | .turnOffAllRelays => sendCommand x aofCommand (text "255,1,1,OK") 500
  | .turnOffAllRelaysExcept relay =>
      sendCommand x (setAllCommand (dataByte1 relay) (dataByte0 relay))
        (setAllSuffix (dataByte1 relay) (dataByte0 relay)) 500
  | .updateRelayStates => sendCommand x stateCmd (text "OK") 500

def rest : Call → Option Update
  | .turnOffAllRelays => some .none
  | .turnOffAllRelaysExcept relay => some (.only relay)
  | .updateRelayStates => none

def run (x : Exchange) : Call → RelayController → EspErr × RelayController
  | .turnOffAllRelays => turnOffAllRelays x
  | .turnOffAllRelaysExcept relay => turnOffAllRelaysExcept x relay
  | .updateRelayStates => updateRelayStates x

theorem run_eq (x : Exchange) (call : Call) (c : RelayController) :
    run x call c =
      match exchange x call c with
      | (.ok, c) => (.ok, ((rest call).elim id Update.apply) c)
      | (e, c) => (e, c) := by
  cases call with
  | turnOffAllRelays => rfl
  | turnOffAllRelaysExcept relay =>
      have hr : ¬ (relay.val < 1 ∨ NUM_RELAYS < relay.val) := by
        have := relay.property
        omega
      rw [run, turnOffAllRelaysExcept, if_neg hr]
      rfl
  | updateRelayStates => rfl

def execute : Call → BitVec 16 → BitVec 16
  | .turnOffAllRelays, _ => 0
  | .turnOffAllRelaysExcept relay, _ => StateReply.only relay.val.toNat
  | .updateRelayStates, outputs => outputs

def Truthful (x : Exchange) (outputs : BitVec 16) (c : RelayController) : Call → Prop
  | .turnOffAllRelays => Answers x aofCommand 500 aofReply c
  | .turnOffAllRelaysExcept relay => AnswersSetAll x relay c
  | .updateRelayStates => Answers x stateCmd 500 (stateReply outputs) c

theorem exchange_ok {x : Exchange} {outputs : BitVec 16} {c : RelayController} {call : Call}
    (h : Truthful x outputs c call) : (exchange x call c).1 = .ok := by
  cases call with
  | turnOffAllRelays =>
      obtain ⟨c', -, hs⟩ := sendCommand_aof h
      exact congrArg Prod.fst hs
  | turnOffAllRelaysExcept relay =>
      obtain ⟨c', -, hs⟩ := sendCommand_setAll relay.property.1 relay.property.2 h
      exact congrArg Prod.fst hs
  | updateRelayStates =>
      obtain ⟨c', -, hs⟩ := sendCommand_state h
      exact congrArg Prod.fst hs

theorem run_truthful {x : Exchange} {outputs : BitVec 16} {c : RelayController} {call : Call}
    (h : Truthful x outputs c call) :
    run x call c = (.ok, ((rest call).elim id Update.apply) (exchange x call c).2) := by
  have hs : exchange x call c = (.ok, (exchange x call c).2) := Prod.ext (exchange_ok h) rfl
  rw [run_eq, hs]

structure Describes (c : RelayController) (outputs : BitVec 16) : Prop where
  states : ∀ i : Int, 1 ≤ i → i ≤ NUM_RELAYS → isOn c i = outputs.getLsbD (i - 1).toNat
  selected : c.currentlySelectedRelay = ffs outputs

theorem describes_takePattern (v : BitVec 16) (c : RelayController) :
    Describes (takePattern v c) v :=
  ⟨fun _ h1 h16 => isOn_takePattern v c h1 h16, rfl⟩

theorem Describes.of_untouched {c c' : RelayController} {v : BitVec 16} (h : Describes c v)
    (hc : Untouched c c') : Describes c' v := by
  refine ⟨fun i h1 h16 => ?_, ?_⟩
  · rw [hc.isOn]
    exact h.states i h1 h16
  · rw [hc.selected]
    exact h.selected

theorem Describes.unique {c : RelayController} {v v' : BitVec 16} (h : Describes c v)
    (h' : Describes c v') : v = v' := by
  apply BitVec.eq_of_getLsbD_eq
  intro i hi
  have hv := h.states (i + 1) (by omega) (by simp only [NUM_RELAYS]; omega)
  have hv' := h'.states (i + 1) (by omega) (by simp only [NUM_RELAYS]; omega)
  rw [hv] at hv'
  simpa using hv'

theorem describes_apply (u : Update) (c : RelayController) : Describes (u.apply c) u.pattern := by
  cases u with
  | none =>
      refine ⟨fun i h1 h16 => ?_, ?_⟩
      · rw [isOn_writeStates (fun _ => false) (c := c) h1 h16 rfl]
        exact BitVec.getLsbD_zero.symm
      · exact congrArg Nat.cast ((ffs_zero_iff 0).mpr rfl).symm
  | only relay =>
      obtain ⟨relay, h1, h16⟩ := relay
      have hr : 1 ≤ relay.toNat ∧ relay.toNat ≤ NUM_RELAYS := by omega
      refine ⟨fun i hi1 hi16 => ?_, ?_⟩
      · rw [Update.apply, isOn_recordOnly _ c hi1 hi16, Update.pattern, getLsbD_only hr.1 hr.2,
          decide_eq_decide]
        dsimp only
        omega
      · change relay = ffs (StateReply.only relay.toNat)
        rw [ffs_only hr.1 hr.2]
        omega

theorem describes_apply_iff (u : Update) (c : RelayController) (v : BitVec 16) :
    Describes (u.apply c) v ↔ u.pattern = v := by
  constructor
  · exact fun h => (describes_apply u c).unique h
  · rintro rfl
    exact describes_apply u c

/-! Any number of tasks, each in at most one call. -/

variable {T : Type*} [DecidableEq T]

/-- `pending i` is what task `i` has yet to write. -/
structure Shared (T : Type*) where
  controller : RelayController
  outputs : BitVec 16
  pending : T → Option Update

inductive Action (T : Type*)
  | exchange (i : T) (call : Call) (x : Exchange)
  | update (i : T)

inductive Step : Shared T → Action T → Shared T → Prop
  | exchange {s : Shared T} (i : T) (call : Call) (x : Exchange) (hi : s.pending i = none)
      (h : Truthful x (execute call s.outputs) s.controller call) :
      Step s (.exchange i call x)
        ⟨(exchange x call s.controller).2, execute call s.outputs,
          Function.update s.pending i (rest call)⟩
  | update {s : Shared T} (i : T) (u : Update) (hi : s.pending i = some u) :
      Step s (.update i) ⟨u.apply s.controller, s.outputs, Function.update s.pending i none⟩

/-- With no call in progress the cache shows the outputs. -/
def Described (_ : Action T) (s : Shared T) : Prop :=
  (∀ i, s.pending i = none) → Describes s.controller s.outputs

/-- The call that is the last to write wrote what the board last did. It did not where, between
its exchange and its writes, another call had the board set the outputs otherwise. -/
def WritesLast (s : Shared T) : Action T → Prop
  | .exchange .. => True
  | .update i => ∀ u, s.pending i = some u → (∀ j, j ≠ i → s.pending j = none) →
      u.pattern = s.outputs

theorem described_iff {s s' : Shared T} {a : Action T} (h : Step s a s') :
    Described a s' ↔ WritesLast s a := by
  cases h with
  | exchange i call x hi ht =>
      refine iff_of_true (fun hq => ?_) trivial
      have hq := hq i
      simp only [Function.update_self] at hq
      cases call with
      | updateRelayStates =>
          obtain ⟨c', hc, hs⟩ := sendCommand_state ht
          dsimp only [exchange]
          rw [hs]
          exact (describes_takePattern _ _).of_untouched (.of_sameRelays hc)
      | _ => cases hq
  | update i u hi =>
      have hquiet : (∀ j, Function.update s.pending i none j = none) ↔
          ∀ j, j ≠ i → s.pending j = none := by
        constructor
        · intro hq j hj
          rw [← hq j, Function.update_of_ne hj]
        · intro hq j
          by_cases hj : j = i
          · rw [hj, Function.update_self]
          · rw [Function.update_of_ne hj, hq j hj]
      rw [Described, WritesLast, describes_apply_iff, hquiet]
      constructor
      · intro h v hv
        obtain rfl := Option.some.inj (hi.symm.trans hv)
        exact h
      · exact fun h => h u hi

/-- Whenever no call is in progress, the cache shows the outputs, exactly if every call
that ends alone wrote what the board last did. -/
theorem described_iff_writesLast (s : Shared T) (t : List (Action T × Shared T)) (h : Run Step s t) :
    (∀ x ∈ t, Described x.1 x.2) ↔ Guarded WritesLast s t :=
  h.forall_iff_guarded (fun _ => True) Described trivial
    (fun _ _ _ _ hs hok => ⟨trivial, (described_iff hs).mpr hok⟩)
    (fun _ _ _ _ hs hok => fun hp => hok ((described_iff hs).mp hp))

/-! Two tasks -/

def idle : Shared Bool := ⟨{ construct with tcpClient := linkUp }, 0, fun _ => none⟩

def two : RelayId := ⟨2, by decide⟩

def offReply : Exchange := SendCommand.exchange [.data aofReply]

def twoReply : Exchange := SendCommand.exchange [.data (text "RELAY-SET_ALL-255,0,2,OK")]

theorem described_iff_writesLast_sequence :
    ∃ t, Run Step idle t ∧ t.map Prod.fst =
        [.exchange true .turnOffAllRelays offReply, .update true,
          .exchange false (.turnOffAllRelaysExcept two) twoReply, .update false] ∧
      ∀ x ∈ t, Described x.1 x.2 := by
  have h : Run Step idle _ :=
    .cons (.exchange true .turnOffAllRelays offReply rfl ⟨_, rfl⟩) <|
      .cons (.update true .none rfl) <|
      .cons (.exchange false (.turnOffAllRelaysExcept two) twoReply rfl ⟨_, rfl⟩) <|
      .cons (.update false (.only two) rfl) <| .nil _
  refine ⟨_, h, rfl, (described_iff_writesLast idle _ h).mpr ⟨trivial, ?_, trivial, ?_, trivial⟩⟩
  · intro u hu _
    cases hu
    rfl
  · intro u hu _
    cases hu
    rfl

/-- Relay 2 is the last thing the board switches, and "all off" the last thing that is
written. -/
theorem described_fails :
    ¬ ∀ (s : Shared Bool) t, (∀ i, s.pending i = none) → Describes s.controller s.outputs →
      Run Step s t → ∀ x ∈ t, Described x.1 x.2 := by
  intro h
  have hidle : Describes idle.controller idle.outputs := by
    refine ⟨fun i _ _ => ?_, rfl⟩
    exact BitVec.getLsbD_zero.symm
  have hr : Run Step idle _ :=
    .cons (.exchange true .turnOffAllRelays offReply rfl ⟨_, rfl⟩) <|
      .cons (.exchange false (.turnOffAllRelaysExcept two) twoReply rfl ⟨_, rfl⟩) <|
      .cons (.update false (.only two) rfl) <| .cons (.update true .none rfl) <| .nil _
  have hs := h idle _ (fun _ => rfl) hidle hr _ (.tail _ <| .tail _ <| .tail _ <| .head _)
  have hd := hs fun i => by cases i <;> rfl
  exact absurd hd.selected (by decide)

end BandDecoder.SharedCache
