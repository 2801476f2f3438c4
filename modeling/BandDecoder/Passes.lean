import BandDecoder.TcpTask
import BandDecoder.TruthfulBoard

namespace BandDecoder.Passes

open CStrings SwitchConfig Tcp StateReply Relay SendCommand RelayState TcpTask TruthfulBoard Runs

structure Worker where
  controller : RelayController
  lastProcessed : RelayChangeRequest

def started (tcp : TcpClient) : Worker := ⟨{ construct with tcpClient := tcp }, noRequest⟩

def request (w : Worker) : RelayChangeRequest := w.controller.latestRequest

def pass (i : Iteration) (w : Worker) : Worker :=
  ⟨(iterate i w.lastProcessed w.controller).2, (iterate i w.lastProcessed w.controller).1⟩

inductive Action
  | call (op : RelayOp)
  | pass (i : Iteration)

def next (w : Worker) : Action → Worker
  | .call op => { w with controller := RelayState.next w.controller op }
  | .pass i => pass i w

def Step (w : Worker) (a : Action) (w' : Worker) : Prop := w' = next w a

def Idle (w : Worker) : Prop := request w = w.lastProcessed ∨ (request w).relayId ≤ 0

instance (w : Worker) : Decidable (Idle w) := inferInstanceAs (Decidable (_ ∨ _))

def checked (i : Iteration) (c : RelayController) : RelayController :=
  match i.check with
  | some (e, retry) => checkConnection e retry c
  | none => c

def TruthfulAction (w : Worker) : Action → Prop
  | .call op => Truthful w.controller op
  | .pass i => ¬ Idle w → (request w).relayId ≤ NUM_RELAYS →
      (request w).relayId ≠ w.controller.currentlySelectedRelay →
      AnswersSetAll i.change (request w).relayId (checked i w.controller)

theorem checked_sameRelays (i : Iteration) (c : RelayController) : SameRelays c (checked i c) := by
  rw [checked]
  split
  · exact checkConnection_sameRelays _ _ c
  · rfl

theorem executeRelayChange_cases (x : Exchange) {relay : Int} (hpos : 0 < relay) (band : Int)
    (c : RelayController) :
    (∃ e c', e ≠ .ok ∧ SameRelays c c' ∧ executeRelayChange x relay band c = (e, c')) ∨
    (relay = c.currentlySelectedRelay ∧
      executeRelayChange x relay band c = (.ok, recordForBand band relay c)) ∨
    (relay ≠ c.currentlySelectedRelay ∧ relay ≤ NUM_RELAYS ∧ ∃ c', SameRelays c c' ∧
      executeRelayChange x relay band c =
        (.ok, recordForBand band relay (recordOnly relay (relearn c')))) := by
  by_cases hsel : relay = c.currentlySelectedRelay
  · exact Or.inr (Or.inl ⟨hsel, by rw [executeRelayChange, if_pos hsel]⟩)
  · by_cases h16 : relay ≤ NUM_RELAYS
    · rcases turnOffAllRelaysExcept_cases x hpos h16 c with
        ⟨e, c', he, hc, -, ht⟩ | ⟨received, c', hc, -, -, ht⟩
      · exact Or.inl ⟨e, c', he, hc, executeRelayChange_failed band hsel he ht⟩
      · exact Or.inr (Or.inr ⟨hsel, h16, c', hc, by rw [executeRelayChange_eq x band hsel, ht]⟩)
    · exact Or.inl ⟨.invalidArg, c, EspErr.noConfusion, rfl, executeRelayChange_failed band hsel
        EspErr.noConfusion (turnOffAllRelaysExcept_range x (fun h => h16 h.2) c)⟩

theorem iterate_checked (i : Iteration) (last : RelayChangeRequest) (c : RelayController) :
    iterate i last c =
      let request := (checked i c).latestRequest
      if request ≠ last ∧ 0 < request.relayId then
        match executeRelayChange i.change request.relayId request.bandNumber (checked i c) with
        | (.ok, c) => (request, c)
        | (e, c) => (last, recover e i.reconnect c)
      else (last, checked i c) := rfl

/-- What one pass can do: leave everything but the connection as it is, take the
shortcut, or have the requested relay confirmed. -/
theorem pass_cases (i : Iteration) (w : Worker) :
    (SameRelays w.controller (pass i w).controller ∧ (pass i w).lastProcessed = w.lastProcessed) ∨
    (¬ Idle w ∧ (request w).relayId = w.controller.currentlySelectedRelay ∧
      (pass i w).lastProcessed = request w ∧ SameRelays
        (recordForBand (request w).bandNumber (request w).relayId w.controller)
        (pass i w).controller) ∨
    (¬ Idle w ∧ (request w).relayId ≠ w.controller.currentlySelectedRelay ∧
      (request w).relayId ≤ NUM_RELAYS ∧ (pass i w).lastProcessed = request w ∧
      ∃ c', SameRelays w.controller c' ∧ (pass i w).controller =
        recordForBand (request w).bandNumber (request w).relayId
          (recordOnly (request w).relayId (relearn c'))) := by
  have hc := checked_sameRelays i w.controller
  have hreq : (checked i w.controller).latestRequest = request w := by rw [hc, request]
  have hsel : (checked i w.controller).currentlySelectedRelay =
      w.controller.currentlySelectedRelay := by rw [hc]
  have hpass := iterate_checked i w.lastProcessed w.controller
  rw [hreq] at hpass
  simp only [pass, hpass]
  by_cases hidle : Idle w
  · have hno : ¬ (request w ≠ w.lastProcessed ∧ 0 < (request w).relayId) := by
      rintro ⟨hne, hpos⟩
      exact hidle.elim hne (Int.not_le.mpr hpos)
    rw [if_neg hno]
    exact Or.inl ⟨hc, rfl⟩
  · have hyes : request w ≠ w.lastProcessed ∧ 0 < (request w).relayId := by
      rw [Idle, not_or, Int.not_le] at hidle
      exact hidle
    rw [if_pos hyes]
    rcases executeRelayChange_cases i.change hyes.2 (request w).bandNumber
      (checked i w.controller) with
      ⟨e, c', he, hc', hx⟩ | ⟨hs, hx⟩ | ⟨hs, h16, c', hc', hx⟩
    · have hr := recover_sameRelays e i.reconnect c'
      rw [hx]
      cases e with
      | ok => exact absurd rfl he
      | _ => exact Or.inl ⟨(hc.trans hc').trans hr, rfl⟩
    · rw [hx]
      refine Or.inr (Or.inl ⟨hidle, hs.trans hsel, rfl, ?_⟩)
      rw [hc]
      rfl
    · rw [hx]
      exact Or.inr (Or.inr ⟨hidle, fun h => hs (h.trans hsel.symm), h16, rfl, c', hc.trans hc', rfl⟩)

/-- A pass keeps the request, and the selection and `last_processed` too unless it
serves the request. -/
theorem pass_selected (i : Iteration) (w : Worker) : request (pass i w) = request w ∧
    (((pass i w).controller.currentlySelectedRelay = w.controller.currentlySelectedRelay ∧
        (pass i w).lastProcessed = w.lastProcessed) ∨
      (¬ Idle w ∧ (pass i w).controller.currentlySelectedRelay = (request w).relayId ∧
        (pass i w).lastProcessed = request w)) := by
  rw [request]
  rcases pass_cases i w with ⟨hc, hl⟩ | ⟨hidle, hsel, hl, hc⟩ | ⟨hidle, -, -, hl, c', hc', hc⟩
  · rw [hc]
    exact ⟨rfl, Or.inl ⟨rfl, hl⟩⟩
  · rw [hc]
    exact ⟨rfl, Or.inr ⟨hidle, hsel.symm, hl⟩⟩
  · rw [hc]
    refine ⟨?_, Or.inr ⟨hidle, rfl, hl⟩⟩
    change (relearn c').latestRequest = _
    rw [relearn_latestRequest, hc']
    rfl

theorem coherent_started (tcp : TcpClient) : Coherent (started tcp).controller := by
  refine .of_ffs (fun i _ _ => ?_) ?_
  · exact BitVec.getLsbD_zero.symm
  · exact congrArg Nat.cast ((ffs_zero_iff 0).mpr rfl).symm

/-! Passes until nothing is left to do -/

def passes (is : List Iteration) (w : Worker) : Worker := is.foldl (fun w i => pass i w) w

def TruthfulPasses : List Iteration → Worker → Prop
  | [], _ => True
  | i :: is, w => TruthfulAction w (.pass i) ∧ TruthfulPasses is (pass i w)

def Sends (w : Worker) : Prop :=
  ¬ Idle w ∧ (request w).relayId ≠ w.controller.currentlySelectedRelay

instance (w : Worker) : Decidable (Sends w) := inferInstanceAs (Decidable (_ ∧ _))

structure Served (w w' : Worker) : Prop where
  request : request w' = request w
  sent : Sends w → w'.controller.currentlySelectedRelay = (Passes.request w).relayId ∧
    w'.controller.relayStates =
      writeStates (fun i => decide (i = (Passes.request w).relayId)) w.controller.relayStates
  kept : ¬ Sends w → w'.controller.currentlySelectedRelay = w.controller.currentlySelectedRelay ∧
    w'.controller.relayStates = w.controller.relayStates

theorem Served.of_idle {w : Worker} (h : Idle w) : Served w w :=
  ⟨rfl, fun hs => absurd h hs.1, fun _ => ⟨rfl, rfl⟩⟩

theorem sends_congr {w w₁ : Worker} (hc : SameRelays w.controller w₁.controller)
    (hl : w₁.lastProcessed = w.lastProcessed) : Sends w₁ ↔ Sends w := by
  simp only [Sends, Idle, request, hl]
  rw [hc]

theorem Served.of_sameRelays {w w₁ w' : Worker} (hc : SameRelays w.controller w₁.controller)
    (hl : w₁.lastProcessed = w.lastProcessed) (h : Served w₁ w') : Served w w' := by
  obtain ⟨hreq, hsent, hkept⟩ := h
  rw [sends_congr hc hl] at hsent hkept
  have hr : Passes.request w₁ = Passes.request w := by
    rw [Passes.request, hc]
    rfl
  rw [hr] at hreq hsent
  rw [hc] at hsent hkept
  exact ⟨hreq, hsent, hkept⟩

theorem writeStates_writeStates (f g : Int → Bool) (states : Int → Option Bool) :
    writeStates f (writeStates g states) = writeStates f states := by
  funext i
  by_cases h : 1 ≤ i ∧ i ≤ NUM_RELAYS
  · simp only [writeStates, if_pos h]
  · simp only [writeStates, if_neg h]

theorem writeStates_relearn (f : Int → Bool) (c : RelayController) :
    writeStates f (relearn c).relayStates = writeStates f c.relayStates := by
  rw [relearn, parseRelayStateResponse]
  cases parse (cstr c.response) with
  | none => rfl
  | some v => exact writeStates_writeStates f _ c.relayStates

/-- The passes of a run to idleness serve the request they start with; the first pass
that ends in success makes the worker idle, and the others change nothing. -/
theorem passes_served (is : List Iteration) (w : Worker) (h : Idle (passes is w)) :
    Served w (passes is w) := by
  induction is generalizing w with
  | nil => exact .of_idle h
  | cons i is ih =>
      change Idle (passes is (pass i w)) at h
      change Served w (passes is (pass i w))
      have hserved := ih (pass i w) h
      have hreq := (pass_selected i w).1
      rcases pass_cases i w with
        ⟨hc, hl⟩ | ⟨hidle, hsel, hl, hc⟩ | ⟨hidle, hsel, -, hl, c', hc', hc⟩
      · exact hserved.of_sameRelays hc hl
      · have hno : ¬ Sends (pass i w) := fun hs => hs.1 (Or.inl (hreq.trans hl.symm))
        obtain ⟨hs, ht⟩ := hserved.kept hno
        rw [hc] at hs ht
        exact ⟨hserved.request.trans hreq, fun hs => absurd hsel hs.2, fun _ => ⟨hs, ht⟩⟩
      · have hno : ¬ Sends (pass i w) := fun hs => hs.1 (Or.inl (hreq.trans hl.symm))
        obtain ⟨hs, ht⟩ := hserved.kept hno
        refine ⟨hserved.request.trans hreq, fun _ => ⟨?_, ?_⟩, fun hn => absurd ⟨hidle, hsel⟩ hn⟩
        · rw [hs, hc]
          rfl
        · rw [ht, hc]
          change writeStates _ (relearn c').relayStates = _
          rw [writeStates_relearn, hc']

end BandDecoder.Passes
