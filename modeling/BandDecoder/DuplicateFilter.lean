import BandDecoder.Passes

namespace BandDecoder.DuplicateFilter

open CStrings SwitchConfig StateReply Relay SendCommand TcpTask TruthfulBoard Passes Runs
open RelayState hiding Step next

/-- `asked` is the relay of the last operation, if that was an accepted
`set_relay_for_antenna` and only passes of the task have followed. -/
structure History where
  worker : Worker
  asked : Option Int

def note (w : Worker) (asked : Option Int) : Action → Option Int
  | .pass _ => asked
  | .call (.connection _) => asked
  | .call (.setRelayForAntenna relay band) =>
      if (setRelayForAntenna relay band w.controller).1 = .ok then some relay else none
  | .call _ => none

def Step (h : History) (a : Action) (h' : History) : Prop :=
  h' = ⟨next h.worker a, note h.worker h.asked a⟩

/-- Once the task is idle, the relay asked for is the selected one. -/
def Honoured (h : History) : Prop :=
  ∀ relay, h.asked = some relay → Idle h.worker → h.worker.controller.currentlySelectedRelay = relay

/-- A request that repeats the one processed last is for the selected relay. -/
def Repeats (h : History) : Action → Prop
  | .call (.setRelayForAntenna relay band) => 1 ≤ relay → relay ≤ NUM_RELAYS →
      ⟨relay, band⟩ = h.worker.lastProcessed → h.worker.controller.currentlySelectedRelay = relay
  | _ => True

def Inv (h : History) : Prop :=
  ∀ relay, h.asked = some relay → 0 < relay ∧ (request h.worker).relayId = relay ∧
    (request h.worker = h.worker.lastProcessed → h.worker.controller.currentlySelectedRelay = relay)

theorem Inv.honoured {h : History} (hi : Inv h) : Honoured h := by
  intro relay ha hidle
  obtain ⟨hpos, hreq, hsel⟩ := hi relay ha
  rcases hidle with hlast | h0
  · exact hsel hlast
  · omega

theorem Inv.pass {h : History} (hi : Inv h) (i : Iteration) :
    Inv ⟨Passes.pass i h.worker, h.asked⟩ := by
  intro relay ha
  obtain ⟨hpos, hreq, hsel⟩ := hi relay ha
  obtain ⟨hr, ⟨hs, hl⟩ | ⟨-, hs, -⟩⟩ := pass_selected i h.worker
  · rw [hr, hl, hs]
    exact ⟨hpos, hreq, hsel⟩
  · rw [hr, hs]
    exact ⟨hpos, hreq, fun _ => hreq⟩

theorem Inv.step {h h' : History} {a : Action} (hi : Inv h) (hs : Step h a h')
    (hok : Repeats h a) : Inv h' := by
  cases hs
  cases a with
  | pass i => exact hi.pass i
  | call op =>
      cases op with
      | connection tcp => exact hi
      | setRelayForAntenna relay band =>
          rcases setRelayForAntenna_cases relay band h.worker.controller with
            ⟨-, hn⟩ | ⟨h1, h16, hn⟩
          · intro r ha
            simp only [note, hn, reduceCtorEq, if_false] at ha
          · intro r ha
            simp only [note, hn, if_true, Option.some.injEq] at ha
            subst ha
            simp only [next, RelayState.next, hn, request]
            exact ⟨by omega, trivial, hok h1 h16⟩
      | _ =>
          intro r ha
          cases ha

/-- A run honours every request exactly when none that repeats the request processed
last finds another relay selected. -/
theorem honoured_iff (tcp : Tcp.TcpClient) (t : List (Action × History))
    (h : Run Step ⟨started tcp, none⟩ t) :
    (∀ x ∈ t, Honoured x.2) ↔ Guarded Repeats ⟨started tcp, none⟩ t := by
  refine h.forall_iff_guarded Inv (fun _ => Honoured) nofun ?_ ?_
  · intro s a s' hi hs hok
    exact ⟨hi.step hs hok, (hi.step hs hok).honoured⟩
  · intro s a s' hi hs hok hh
    cases hs
    cases a with
    | pass i => exact hok trivial
    | call op =>
        cases op with
        | setRelayForAntenna relay band =>
            refine hok fun h1 h16 hlast => ?_
            rcases setRelayForAntenna_cases relay band s.worker.controller with
              ⟨hr, -⟩ | ⟨-, -, hn⟩
            · exact absurd ⟨h1, h16⟩ hr
            · have hsel := hh relay (by simp only [note, hn, if_true])
              simp only [next, RelayState.next, hn] at hsel
              exact hsel (Or.inl hlast)
        | _ => exact hok trivial

def after (h : History) (a : Action) : History := ⟨next h.worker a, note h.worker h.asked a⟩

theorem step_after (h : History) (a : Action) : Step h a (after h a) := rfl

def ask : Action := .call (.setRelayForAntenna 1 0)

def select : Action :=
  .pass ⟨none, exchange [.data (text "RELAY-SET_ALL-255,0,1,OK")], undisturbed⟩

def clear : Action := .call (.turnOffAllRelays (exchange [.data aofReply]))

theorem honoured_iff_one :
    (∀ x ∈ trace after ⟨started linkUp, none⟩ [ask, select], Honoured x.2) ↔
      Guarded Repeats ⟨started linkUp, none⟩ (trace after ⟨started linkUp, none⟩ [ask, select]) :=
  honoured_iff linkUp _ (run_trace step_after _ _)

/-- Relay 1 is selected, all relays are turned off, and relay 1 is asked for again:
the request is skipped as a duplicate. -/
theorem honoured_fails :
    ¬ ∀ tcp t, Run Step ⟨started tcp, none⟩ t →
      Guarded (fun h a => TruthfulAction h.worker a) ⟨started tcp, none⟩ t →
        ∀ x ∈ t, Honoured x.2 := by
  intro h
  have hrun : Run Step ⟨started linkUp, none⟩
      (trace after ⟨started linkUp, none⟩ [ask, select, clear, ask]) := run_trace step_after _ _
  have htrue : Guarded (fun h a => TruthfulAction h.worker a) ⟨started linkUp, none⟩
      (trace after ⟨started linkUp, none⟩ [ask, select, clear, ask]) :=
    ⟨trivial, fun _ _ _ => ⟨_, rfl⟩, ⟨_, rfl⟩, trivial, trivial⟩
  have hh := h linkUp _ hrun htrue _ (List.getLast_mem (by simp [trace])) 1
  exact absurd (hh rfl (by decide)) (by decide)

end BandDecoder.DuplicateFilter
