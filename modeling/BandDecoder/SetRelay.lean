import BandDecoder.Passes

namespace BandDecoder.SetRelay

open CStrings SwitchConfig StateReply Relay SendCommand TcpTask TruthfulBoard Passes Runs
open RelayState hiding Step next

def bit (relay : Int) (c : RelayController) : Bool := c.relayStateBitfield.getLsbD (relay - 1).toNat

def asked (relay : Int) (state : Bool) (w : Worker) : Worker :=
  { w with controller := (setRelay relay state w.controller).2 }

/-- Where the relay is as wanted already, the change still pending must leave it so,
or its state be known; where it is not, it must be wanted on, and relay and band 0 must
not be the request processed last. -/
def Achievable (relay : Int) (state : Bool) (w : Worker) : Prop :=
  if bit relay w.controller = state then
    if Sends w then state = decide (relay = (request w).relayId)
    else (w.controller.relayStates relay).isSome
  else state = true ∧ ⟨relay, 0⟩ ≠ w.lastProcessed

theorem setRelay_eq {relay : Int} (h1 : 1 ≤ relay) (h16 : relay ≤ NUM_RELAYS) (state : Bool)
    (c : RelayController) : setRelay relay state c =
      (.ok, if bit relay c = state then c else { c with latestRequest := ⟨relay, 0⟩ }) := by
  rw [setRelay, if_neg (by omega), bit]
  split <;> rfl

theorem getRelayState_eq {relay : Int} (h1 : 1 ≤ relay) (h16 : relay ≤ NUM_RELAYS)
    (c : RelayController) : getRelayState relay c = c.relayStates relay := by
  rw [getRelayState, if_neg (by omega)]

theorem writeStates_inside (f : Int → Bool) (states : Int → Option Bool) {i : Int} (h1 : 1 ≤ i)
    (h16 : i ≤ NUM_RELAYS) : writeStates f states i = some (f i) := by
  rw [writeStates, if_pos ⟨h1, h16⟩]

theorem bit_selected {c : RelayController} (h : Coherent c) {relay : Int} (h1 : 1 ≤ relay)
    (hsel : relay = c.currentlySelectedRelay) : bit relay c = true := by
  have hne : c.relayStateBitfield ≠ 0 := fun h0 => by
    have := h.zero.mpr h0
    omega
  obtain ⟨k, -, hk, hon, -⟩ := h.lowest hne
  rw [bit, hsel, hk, Int.add_sub_cancel, Int.toNat_natCast]
  exact hon

theorem relayStates_some {c : RelayController} (h : Coherent c) {relay : Int} (h1 : 1 ≤ relay)
    (h16 : relay ≤ NUM_RELAYS) {b : Bool} (hb : c.relayStates relay = some b) : bit relay c = b := by
  have hs := h.states relay h1 h16
  rw [isOn, hb, Option.getD_some] at hs
  rw [bit, ← hs]

/-- From a coherent state, a relay that `set_relay` was asked for has the wanted state
once the task is idle exactly in the achievable cases. A relay that is on is never
switched off. -/
theorem setRelay_achieves_iff (w : Worker) (hc : Coherent w.controller) (relay : Int)
    (h1 : 1 ≤ relay) (h16 : relay ≤ NUM_RELAYS) (state : Bool) (is : List Iteration)
    (hidle : Idle (passes is (asked relay state w))) :
    getRelayState relay (passes is (asked relay state w)).controller = some state ↔
      Achievable relay state w := by
  have hs := passes_served is (asked relay state w) hidle
  rw [getRelayState_eq h1 h16, Achievable]
  by_cases hb : bit relay w.controller = state
  · have ha : asked relay state w = w := by rw [asked, setRelay_eq h1 h16, if_pos hb]
    rw [ha] at hs ⊢
    rw [if_pos hb]
    by_cases hp : Sends w
    · rw [if_pos hp, (hs.sent hp).2, writeStates_inside _ _ h1 h16, Option.some.injEq, eq_comm]
    · rw [if_neg hp, (hs.kept hp).2]
      constructor
      · intro h
        rw [h]
        rfl
      · intro h
        obtain ⟨b, hsome⟩ := Option.isSome_iff_exists.mp h
        rw [hsome, ← relayStates_some hc h1 h16 hsome, hb]
  · have ha : request (asked relay state w) = ⟨relay, 0⟩ := by
      rw [request, asked, setRelay_eq h1 h16, if_neg hb]
    have hk : (asked relay state w).controller =
        { w.controller with latestRequest := ⟨relay, 0⟩ } := by
      rw [asked, setRelay_eq h1 h16, if_neg hb]
    have hpos : ¬ relay ≤ 0 := by omega
    have hsend : Sends (asked relay state w) ↔
        ⟨relay, 0⟩ ≠ w.lastProcessed ∧ relay ≠ w.controller.currentlySelectedRelay := by
      rw [Sends, Idle, ha, hk, not_or]
      exact and_congr_left fun _ => and_iff_left hpos
    rw [if_neg hb]
    by_cases hp : Sends (asked relay state w)
    · rw [(hs.sent hp).2, ha, writeStates_inside _ _ h1 h16, decide_eq_true rfl, Option.some.injEq,
        eq_comm]
      exact (and_iff_left (hsend.mp hp).1).symm
    · rw [(hs.kept hp).2, hk]
      refine iff_of_false (fun h => hb (relayStates_some hc h1 h16 h)) ?_
      rintro ⟨rfl, hne⟩
      exact hp (hsend.mpr ⟨hne, fun hsel => hb (bit_selected hc h1 hsel)⟩)

def query : RelayOp := .updateRelayStates (exchange [.data (text "RELAY-STATE-255,0,1,OK")])

def firstOn : Worker := next (started linkUp) (.call query)

theorem coherent_firstOn : Coherent firstOn.controller :=
  ((coherent_started linkUp).next_iff query).mpr trivial

def quietPass : Iteration := ⟨none, exchange [], undisturbed⟩

theorem setRelay_achieves_iff_three :
    getRelayState 3 (passes [⟨none, exchange [.data (text "RELAY-SET_ALL-255,0,4,OK")], undisturbed⟩]
      (asked 3 true firstOn)).controller = some true ↔ Achievable 3 true firstOn :=
  setRelay_achieves_iff firstOn coherent_firstOn 3 (by decide) (by decide) true _ (by decide)

/-- Relay 1 is to be switched off; the task takes the request for relay 1 as one to
select it, and stays on it. -/
theorem setRelay_leaves_on :
    ¬ ∀ tcp w, Reachable Step (started tcp) w → Coherent w.controller →
      ∀ (relay : Int) (state : Bool), 1 ≤ relay → relay ≤ NUM_RELAYS →
        (setRelay relay state w.controller).1 = .ok →
          ∀ is, TruthfulPasses is (asked relay state w) → Idle (passes is (asked relay state w)) →
            getRelayState relay (passes is (asked relay state w)).controller = some state := by
  intro h
  have hreach : Reachable Step (started linkUp) firstOn := .single ⟨_, rfl⟩
  have htrue : TruthfulPasses [quietPass] (asked 1 false firstOn) :=
    ⟨fun _ _ hsel => absurd (by decide) hsel, trivial⟩
  have hf := h linkUp firstOn hreach coherent_firstOn 1 false (by decide) (by decide) (by decide)
    [quietPass] htrue (by decide)
  exact absurd hf (by decide)

end BandDecoder.SetRelay
