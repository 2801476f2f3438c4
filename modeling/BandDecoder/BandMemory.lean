import BandDecoder.RelayLookup
import BandDecoder.TcpTask

namespace BandDecoder.BandMemory

open CStrings SwitchConfig Tcp StateReply Relay SendCommand TcpTask Runs
open RelayLookup (Op)

/-- The task with three notes: whether the request in the mailbox was made through
`set_relay_for_antenna`, the same of the request the task is serving, and for each band
the relay of the last request so made that was completed. -/
structure Bands where
  task : Task
  chosen : Bool
  serving : Bool
  expected : Int → Int

inductive Action
  | antenna (relay band : Int)
  | manual (relay : Int) (state : Bool)
  | start (ensure : EnsureScript) (send : SendScript) (now : Int) (reconnect : EnsureScript)
  | hear (r : Round) (reconnect : EnsureScript)
  | call (op : Op)

def request (s : Bands) : RelayChangeRequest := s.task.controller.latestRequest

def withController (c : RelayController) (s : Bands) : Bands :=
  { s with task := { s.task with controller := c } }

def awaits (q : RelayChangeRequest) (s : Bands) : Bool := match s.task.phase with
  | .idle => false
  | .waiting current _ _ => decide (current = q)

def noted (made : Bool) (q : RelayChangeRequest) (expected : Int → Int) : Int → Int :=
  fun band => if made = true ∧ band = q.bandNumber then q.relayId else expected band

/-- A request through `set_relay_for_antenna` for what the task is serving already
counts as the one that is served. -/
def next (s : Bands) : Action → Bands
  | .antenna relay band => match setRelayForAntenna relay band s.task.controller with
    | (.ok, c) => { withController c s with
        chosen := true, serving := s.serving || awaits ⟨relay, band⟩ s }
    | (_, c) => withController c s
  | .manual relay state =>
      let c := (setRelay relay state s.task.controller).2
      { withController c s with chosen := s.chosen && decide (c.latestRequest = request s) }
  | .start ensure send now reconnect =>
      let (result, task) := s.task.begin ensure send now reconnect
      { s with
        task, serving := s.chosen
        expected := if result = some .ok then noted s.chosen (request s) s.expected else s.expected }
  | .hear r reconnect =>
      let (result, task) := s.task.hear r reconnect
      match s.task.phase with
      | .idle => { s with task }
      | .waiting current _ _ => { s with
          task
          expected := if result = some .ok then noted s.serving current s.expected else s.expected }
  | .call op => withController (RelayLookup.next s.task.controller op) s

def Apart : Op → Prop
  | .relay (.executeRelayChange _ _ _) => False
  | .relay (.setRelayForAntenna _ _) => False
  | .relay (.setRelay _ _) => False
  | _ => True

def Possible (s : Bands) : Action → Prop
  | .start _ _ _ _ => s.task.phase = .idle
  | .call op => Apart op
  | _ => True

def Step (s : Bands) (a : Action) (s' : Bands) : Prop := Possible s a ∧ s' = next s a

def start : Bands := ⟨⟨construct, noRequest, .idle⟩, false, false, fun _ => 0⟩

/-- The memory of each band is the relay last chosen for it, and a relay that counts as
correct for a band was last chosen for that band. -/
structure Remembers (s : Bands) : Prop where
  memory : ∀ band, getLastSelectedRelayForBand band s.task.controller = s.expected band
  correct : ∀ band, isCorrectRelaySet band s.task.controller = true →
    s.task.controller.currentlySelectedRelay = s.expected band ∧ s.expected band ≠ 0

def Shortcut (s : Bands) : Prop := request s ≠ s.task.lastProcessed ∧ 0 < (request s).relayId ∧
  (request s).relayId = s.task.controller.currentlySelectedRelay

/-- A manual request is completed only for the relay that was last chosen for band 0. -/
def Honest (s : Bands) : Action → Prop
  | .start _ _ _ _ => s.chosen = false → Shortcut s → (request s).relayId = s.expected 0
  | .hear r _ => s.serving = false → ∀ current now received,
      s.task.phase = .waiting current now received →
      ∀ status reply, s.task.waitEnd r = some (status, reply) → Confirms status reply →
      current.relayId = s.expected 0
  | _ => True

structure Inv (s : Bands) : Prop where
  memory : ∀ band, getLastSelectedRelayForBand band s.task.controller = s.expected band
  mailbox : s.chosen = false → 0 < (request s).relayId → (request s).bandNumber = 0
  served : s.serving = false → ∀ current now received,
    s.task.phase = .waiting current now received → current.bandNumber = 0

structure SameBands (c c' : RelayController) : Prop where
  memory : c'.lastSelectedRelayForBand = c.lastSelectedRelayForBand
  request : c'.latestRequest = c.latestRequest

theorem SameBands.refl (c : RelayController) : SameBands c c := ⟨rfl, rfl⟩

theorem SameBands.of_sameRelays {c c' : RelayController} (h : SameRelays c c') : SameBands c c' := by
  rw [h]
  exact ⟨rfl, rfl⟩

theorem SameBands.trans {c c' c'' : RelayController} (h : SameBands c c') (h' : SameBands c' c'') :
    SameBands c c'' := ⟨h'.memory.trans h.memory, h'.request.trans h.request⟩

theorem sameBands_relearn (c : RelayController) : SameBands c (relearn c) :=
  ⟨relearn_lastSelectedRelayForBand c, relearn_latestRequest c⟩

theorem stateQuery_sameBands (x : Exchange) (timeout : Int) (c : RelayController) :
    SameBands c (sendCommand x stateCmd (text "OK") timeout c).2 := by
  rcases stateQuery_cases x timeout c with ⟨e, c', -, hc, -, hs⟩ | ⟨received, c', v, hc, -, -, hs⟩
  · rw [hs]
    exact .of_sameRelays hc
  · rw [hs]
    exact (SameBands.of_sameRelays hc).trans ⟨rfl, rfl⟩

theorem turnOffAllRelays_sameBands (x : Exchange) (c : RelayController) :
    SameBands c (turnOffAllRelays x c).2 := by
  rcases turnOffAllRelays_cases x c with ⟨e, c', -, hc, -, ht⟩ | ⟨received, c', hc, -, -, ht⟩
  · rw [ht]
    exact .of_sameRelays hc
  · rw [ht]
    exact (SameBands.of_sameRelays hc).trans ⟨rfl, rfl⟩

theorem turnOffAllRelaysExcept_sameBands (x : Exchange) (relay : Int) (c : RelayController) :
    SameBands c (turnOffAllRelaysExcept x relay c).2 := by
  by_cases hr : 1 ≤ relay ∧ relay ≤ NUM_RELAYS
  · rcases turnOffAllRelaysExcept_cases x hr.1 hr.2 c with
      ⟨e, c', -, hc, -, ht⟩ | ⟨received, c', hc, -, -, ht⟩
    · rw [ht]
      exact .of_sameRelays hc
    · rw [ht]
      exact ((SameBands.of_sameRelays hc).trans (sameBands_relearn c')).trans ⟨rfl, rfl⟩
  · rw [turnOffAllRelaysExcept_range x hr]
    exact .refl c

theorem init_sameBands (s : InitScript) (c : RelayController) :
    SameBands c (RelayController.init s c).2 := by
  rw [RelayController.init]
  split
  · exact .refl c
  · split
    · rename_i tcp _
      have hq : SameBands { c with tcpClient := tcp } _ :=
        queryStates_keeps SameBands.refl SameBands.trans
          (fun x c => stateQuery_sameBands x 500 c) (List.ofFn s.queries) { c with tcpClient := tcp }
      exact ⟨hq.memory, hq.request⟩
    · exact ⟨rfl, rfl⟩

theorem updateTcpSettings_sameBands (s : SettingsScript) (host : Bytes) (port : UInt16)
    (c : RelayController) : SameBands c (updateTcpSettings s host port c).2 := by
  rw [updateTcpSettings]
  split
  · split
    · rename_i tcp _
      have hq := stateQuery_sameBands s.verify 500
        { c with tcpHost := host, tcpPort := port, tcpClient := tcp }
      exact ⟨hq.memory, hq.request⟩
    · exact ⟨rfl, rfl⟩
  · exact .refl c

theorem apart_sameBands (c : RelayController) {op : Op} (h : Apart op) :
    SameBands c (RelayLookup.next c op) := by
  cases op with
  | relay op =>
      cases op with
      | turnOffAllRelays x => exact turnOffAllRelays_sameBands x c
      | turnOffAllRelaysExcept x relay => exact turnOffAllRelaysExcept_sameBands x relay c
      | updateRelayStates x =>
          change SameBands c (updateRelayStates x c).2
          rw [RelayLookup.updateRelayStates_snd]
          exact stateQuery_sameBands x 500 c
      | connection tcp => exact ⟨rfl, rfl⟩
      | executeRelayChange x relay band => exact absurd h id
      | setRelayForAntenna relay band => exact absurd h id
      | setRelay relay state => exact absurd h id
  | init s => exact init_sameBands s c
  | updateTcpSettings s host port => exact updateTcpSettings_sameBands s host port c
  | setTcpHost host => exact ⟨rfl, rfl⟩
  | setTcpPort port => exact ⟨rfl, rfl⟩
  | stateQuery x timeout => exact stateQuery_sameBands x timeout c

theorem remembers_of_memory {s : Bands}
    (h : ∀ band, getLastSelectedRelayForBand band s.task.controller = s.expected band) :
    Remembers s := by
  refine ⟨h, fun band hc => ?_⟩
  obtain ⟨hsel, hne⟩ := of_decide_eq_true hc
  rw [h band] at hsel hne
  exact ⟨hsel, hne⟩

theorem SameBands.get {c c' : RelayController} (h : SameBands c c') (band : Int) :
    getLastSelectedRelayForBand band c' = getLastSelectedRelayForBand band c := by
  rw [getLastSelectedRelayForBand, h.memory, getLastSelectedRelayForBand]

theorem getLast_recordForBand (band relay b : Int) (c : RelayController) :
    getLastSelectedRelayForBand b (recordForBand band relay c) =
      if b = band then relay else getLastSelectedRelayForBand b c := by
  simp only [getLastSelectedRelayForBand, recordForBand]
  split <;> rfl

/-- Recording a completed request is right exactly when it was made for the band, or
when the entry of band 0 is the requested relay anyway. -/
theorem recorded_iff {c : RelayController} {made : Bool} {q : RelayChangeRequest}
    {expected : Int → Int} (hm : ∀ band, getLastSelectedRelayForBand band c = expected band)
    (hb : made = false → q.bandNumber = 0) :
    (∀ band, getLastSelectedRelayForBand band (recordForBand q.bandNumber q.relayId c) =
        noted made q expected band) ↔ (made = false → q.relayId = expected 0) := by
  simp only [getLast_recordForBand, noted, hm]
  cases made with
  | true => simp
  | false =>
      have hz := hb rfl
      constructor
      · intro h _
        have h0 := h 0
        simpa [hz] using h0
      · intro h band
        by_cases hband : band = q.bandNumber
        · rw [if_pos hband, hband, hz]
          simpa using h rfl
        · rw [if_neg hband]
          simp

/-- `set_relay` leaves the request alone or puts one for band 0 in its place. -/
theorem setRelay_request (relay : Int) (state : Bool) (c : RelayController) :
    (setRelay relay state c).2 = c ∨
      (setRelay relay state c).2 = { c with latestRequest := ⟨relay, 0⟩ } := by
  rw [setRelay]
  split
  · exact Or.inl rfl
  · split
    · exact Or.inl rfl
    · exact Or.inr rfl

theorem Shortcut.result {s : Bands} (h : Shortcut s) (ensure : EnsureScript) (send : SendScript)
    (now : Int) (reconnect : EnsureScript) :
    (s.task.begin ensure send now reconnect).1 = some .ok := by
  obtain ⟨hnew, hpos, hsel⟩ := h
  rw [request] at hnew hpos hsel
  rw [Task.begin, if_pos ⟨hnew, hpos⟩, beginChange, if_pos hsel]

def Serves (s : Bands) (made : Bool) (q : RelayChangeRequest) : Prop :=
  (made = s.chosen ∧ q = request s ∧ 0 < q.relayId) ∨
    (made = s.serving ∧ ∃ now received, s.task.phase = .waiting q now received)

inductive Effect (s : Bands) (a : Action) : Bands → Prop
  | asked (c : RelayController) (chosen serving : Bool)
      (hm : c.lastSelectedRelayForBand = s.task.controller.lastSelectedRelayForBand)
      (hq : chosen = false → s.chosen = false ∧ c.latestRequest = request s ∨
        c.latestRequest.bandNumber = 0)
      (hs : serving = false → s.serving = false) (ha : Honest s a) :
      Effect s a ⟨{ s.task with controller := c }, chosen, serving, s.expected⟩
  | worked (c : RelayController) (last : RelayChangeRequest) (phase : Phase) (serving : Bool)
      (hc : SameBands s.task.controller c)
      (hs : ∀ q now received, phase = .waiting q now received → Serves s serving q)
      (ha : Honest s a) : Effect s a ⟨⟨c, last, phase⟩, s.chosen, serving, s.expected⟩
  | completed (c : RelayController) (made : Bool) (q : RelayChangeRequest)
      (hc : SameBands s.task.controller c) (hs : Serves s made q)
      (ha : Honest s a ↔ (made = false → q.relayId = s.expected 0)) :
      Effect s a ⟨⟨recordForBand q.bandNumber q.relayId c, q, .idle⟩, s.chosen, made,
        noted made q s.expected⟩

theorem antenna_effect (s : Bands) (relay band : Int) :
    Effect s (.antenna relay band) (next s (.antenna relay band)) := by
  rcases setRelayForAntenna_cases relay band s.task.controller with ⟨-, hc⟩ | ⟨-, -, hc⟩
  · simp only [next, hc]
    exact .asked _ _ _ rfl (fun hf => Or.inl ⟨hf, rfl⟩) id trivial
  · simp only [next, hc]
    exact .asked _ _ _ rfl (fun hf => Bool.noConfusion hf)
      (fun hf => (Bool.or_eq_false_iff.mp hf).1) trivial

theorem manual_effect (s : Bands) (relay : Int) (state : Bool) :
    Effect s (.manual relay state) (next s (.manual relay state)) := by
  rcases setRelay_request relay state s.task.controller with hc | hc
  · simp only [next, hc]
    refine .asked _ _ _ rfl (fun hf => Or.inl ⟨?_, rfl⟩) id trivial
    simpa [request] using hf
  · simp only [next, hc]
    exact .asked _ _ _ rfl (fun _ => Or.inr rfl) id trivial

theorem start_effect {s : Bands} (hidle : s.task.phase = .idle) (ensure : EnsureScript)
    (send : SendScript) (now : Int) (reconnect : EnsureScript) :
    Effect s (.start ensure send now reconnect) (next s (.start ensure send now reconnect)) := by
  have hhonest : (s.task.begin ensure send now reconnect).1 ≠ some .ok →
      Honest s (.start ensure send now reconnect) := fun hr _ hs =>
    absurd (hs.result ensure send now reconnect) hr
  rcases begin_cases ensure send now reconnect s.task with
    ⟨-, hn⟩ | ⟨hnew, hpos, ⟨hsel, hn⟩ | ⟨c, hc, hn⟩ | ⟨e, c, he, hc, hn⟩⟩
  all_goals rw [hn] at hhonest; simp only [next, hn]
  · refine .worked s.task.controller s.task.lastProcessed s.task.phase s.chosen (.refl _) ?_
      (hhonest (Option.some_ne_none EspErr.ok).symm)
    intro q now received hq
    rw [hidle] at hq
    cases hq
  · exact .completed s.task.controller s.chosen (request s) (.refl _) (Or.inl ⟨rfl, rfl, hpos⟩)
      ⟨fun ha hm => ha hm ⟨hnew, hpos, hsel⟩, fun hr hm _ => hr hm⟩
  · refine .worked c s.task.lastProcessed _ s.chosen (.of_sameRelays hc) ?_
      (hhonest (Option.some_ne_none EspErr.ok).symm)
    intro q now received hq
    cases hq
    exact Or.inl ⟨rfl, rfl, hpos⟩
  · rw [if_neg fun h => he (Option.some.inj h)]
    refine .worked c s.task.lastProcessed .idle s.chosen (.of_sameRelays hc) ?_
      (hhonest fun h => he (Option.some.inj h))
    intro q now received hq
    cases hq

theorem hear_effect (s : Bands) (r : Round) (reconnect : EnsureScript) :
    Effect s (.hear r reconnect) (next s (.hear r reconnect)) := by
  cases hp : s.task.phase with
  | idle =>
      have hn : next s (.hear r reconnect) = s := by simp only [next, Task.hear, hp]
      rw [hn]
      refine .worked s.task.controller s.task.lastProcessed s.task.phase s.serving (.refl _) ?_ ?_
      · intro q now received hq
        exact Or.inr ⟨rfl, now, received, hq⟩
      · intro _ q now received hq
        rw [hp] at hq
        cases hq
  | waiting current now received =>
      have hserves : Serves s s.serving current := Or.inr ⟨rfl, now, received, hp⟩
      rcases hear_cases r reconnect hp with ⟨hw, got, hn⟩ | ⟨status, reply, hw, hno, e, c, he, hc, hn⟩ |
        ⟨status, reply, hw, hyes, c, ⟨hq, hl⟩, hn⟩
      all_goals simp only [next, hn, hp]
      · refine .worked s.task.controller s.task.lastProcessed _ s.serving (.refl _) ?_ ?_
        · intro q now' received' hq
          cases hq
          exact hserves
        · intro _ q now' received' _ status reply hend
          rw [hw] at hend
          cases hend
      · rw [if_neg fun h => he (Option.some.inj h)]
        refine .worked c s.task.lastProcessed .idle s.serving (.of_sameRelays hc) ?_ ?_
        · intro q now' received' hq
          cases hq
        · intro _ q now' received' _ status' reply' hend hyes
          rw [hw] at hend
          cases hend
          exact absurd hyes hno
      · refine .completed (recordOnly current.relayId c) s.serving current ⟨hl, hq⟩ hserves ?_
        constructor
        · exact fun ha hm => ha hm current now received hp status reply hw hyes
        · intro hr hm current' now' received' hp' _ _ _ _
          rw [hp] at hp'
          cases hp'
          exact hr hm

theorem next_effect {s : Bands} {a : Action} (hp : Possible s a) : Effect s a (next s a) := by
  cases a with
  | antenna relay band => exact antenna_effect s relay band
  | manual relay state => exact manual_effect s relay state
  | start ensure send now reconnect => exact start_effect hp ensure send now reconnect
  | hear r reconnect => exact hear_effect s r reconnect
  | call op =>
      have hc := apart_sameBands s.task.controller hp
      exact .asked _ s.chosen s.serving hc.memory (fun hf => Or.inl ⟨hf, hc.request⟩) id trivial

theorem Inv.band {s : Bands} (h : Inv s) {made : Bool} {q : RelayChangeRequest}
    (hs : Serves s made q) (hm : made = false) : q.bandNumber = 0 := by
  rcases hs with ⟨rfl, rfl, hpos⟩ | ⟨rfl, now, received, hw⟩
  · exact h.mailbox hm hpos
  · exact h.served hm q now received hw

theorem effect_memory {s s' : Bands} {a : Action} (h : Inv s) (he : Effect s a s') :
    (∀ band, getLastSelectedRelayForBand band s'.task.controller = s'.expected band) ↔ Honest s a := by
  cases he with
  | asked c chosen serving hm hq hs ha =>
      refine iff_of_true (fun band => ?_) ha
      rw [← h.memory band, getLastSelectedRelayForBand, hm, getLastSelectedRelayForBand]
  | worked c last phase serving hc hs ha =>
      refine iff_of_true (fun band => ?_) ha
      rw [← h.memory band]
      exact hc.get band
  | completed c made q hc hs ha =>
      have hm : ∀ band, getLastSelectedRelayForBand band c = s.expected band := fun band => by
        rw [hc.get band]
        exact h.memory band
      exact (recorded_iff hm (h.band hs)).trans ha.symm

theorem effect_inv {s s' : Bands} {a : Action} (h : Inv s) (he : Effect s a s')
    (hm : ∀ band, getLastSelectedRelayForBand band s'.task.controller = s'.expected band) : Inv s' := by
  cases he with
  | asked c chosen serving _ hq hs _ =>
      refine ⟨hm, fun hf hpos => ?_, fun hf => h.served (hs hf)⟩
      rcases hq hf with ⟨hchosen, hr⟩ | hband
      · change 0 < c.latestRequest.relayId at hpos
        change c.latestRequest.bandNumber = 0
        rw [hr] at hpos ⊢
        exact h.mailbox hchosen hpos
      · exact hband
  | worked c last phase serving hc hs _ =>
      refine ⟨hm, ?_, fun hf q now received hw => h.band (hs q now received hw) hf⟩
      rw [request, hc.request]
      exact h.mailbox
  | completed c made q hc hs _ =>
      refine ⟨hm, ?_, fun _ _ _ _ hw => by cases hw⟩
      change s.chosen = false → 0 < c.latestRequest.relayId → c.latestRequest.bandNumber = 0
      rw [hc.request]
      exact h.mailbox

theorem inv_start : Inv start :=
  ⟨fun _ => rfl, fun _ h => absurd h (by decide), fun _ _ _ _ h => by cases h⟩

/-- Along every run the memory is about bands exactly as long as each manual request
that is completed is for the relay last chosen for band 0. -/
theorem remembers_iff_honest {t : List (Action × Bands)} (h : Run Step start t) :
    (∀ x ∈ t, Remembers x.2) ↔ Guarded Honest start t := by
  refine h.forall_iff_guarded Inv (fun _ s => Remembers s) inv_start ?_ ?_
  · rintro s a s' hi ⟨hp, rfl⟩ hok
    have he := next_effect hp
    have hm := (effect_memory hi he).mpr hok
    exact ⟨effect_inv hi he hm, remembers_of_memory hm⟩
  · rintro s a s' hi ⟨hp, rfl⟩ hno hr
    exact hno ((effect_memory hi (next_effect hp)).mp hr.memory)

def turnOnThree : List Action :=
  [.call (.relay (.connection linkUp)), .manual 3 true,
    .start undisturbed ⟨undisturbed, [.wrote 64]⟩ 0 undisturbed,
    .hear ⟨0, .data (text "RELAY-SET_ALL-255,0,4,OK")⟩ undisturbed]

theorem run_turnOnThree : Run Step start (trace next start turnOnThree) :=
  .cons ⟨trivial, rfl⟩ (.cons ⟨trivial, rfl⟩ (.cons ⟨rfl, rfl⟩ (.cons ⟨trivial, rfl⟩ (.nil _))))

def chooseThree : List Action :=
  [.call (.relay (.connection linkUp)), .antenna 3 2,
    .start undisturbed ⟨undisturbed, [.wrote 64]⟩ 0 undisturbed,
    .hear ⟨0, .data (text "RELAY-SET_ALL-255,0,4,OK")⟩ undisturbed]

theorem run_chooseThree : Run Step start (trace next start chooseThree) :=
  .cons ⟨trivial, rfl⟩ (.cons ⟨trivial, rfl⟩ (.cons ⟨rfl, rfl⟩ (.cons ⟨trivial, rfl⟩ (.nil _))))

theorem remembers_iff_honest_three :
    Guarded Honest start (trace next start chooseThree) ∧
      (∀ x ∈ trace next start chooseThree, Remembers x.2) ∧
      isCorrectRelaySet 2 (chooseThree.foldl next start).task.controller = true := by
  have hhonest : Guarded Honest start (trace next start chooseThree) :=
    ⟨trivial, trivial, fun h => Bool.noConfusion h, fun h => Bool.noConfusion h, trivial⟩
  exact ⟨hhonest, (remembers_iff_honest run_chooseThree).mpr hhonest, by decide +kernel⟩

/-- Nothing was ever chosen for band 0, and its entry is relay 3. -/
theorem remembers_fails :
    ¬ ∀ t : List (Action × Bands), Run Step start t → ∀ x ∈ t, Remembers x.2 := by
  intro h
  have hr := h _ run_turnOnThree _ (List.getLast_mem (List.cons_ne_nil _ _))
  exact absurd (hr.memory 0) (by decide)

end BandDecoder.BandMemory
