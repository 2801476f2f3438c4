import BandDecoder.SendCommand

namespace BandDecoder.TcpTask

open CStrings SwitchConfig Tcp StateReply Relay SendCommand

def checkConnection (e retry : EnsureScript) (c : RelayController) : RelayController :=
  match ensureConnected e c.tcpClient with
  | (.ok, tcp) => { c with tcpClient := tcp }
  | (_, tcp) => { c with tcpClient := (ensureConnected retry (Tcp.close tcp)).2 }

def forceReconnect (e : EnsureScript) (c : RelayController) : RelayController :=
  { c with tcpClient := (ensureConnected e (Tcp.close c.tcpClient)).2 }

def recover (e : EspErr) (reconnect : EnsureScript) (c : RelayController) : RelayController :=
  if e = .timeout ∨ e = .invalidState then forceReconnect reconnect c else c

structure Iteration where
  check : Option (EnsureScript × EnsureScript)
  change : Exchange
  reconnect : EnsureScript

def iterate (i : Iteration) (lastProcessed : RelayChangeRequest) (c : RelayController) :
    RelayChangeRequest × RelayController :=
  let c := match i.check with
    | some (e, retry) => checkConnection e retry c
    | none => c
  let current := c.latestRequest
  if current ≠ lastProcessed ∧ 0 < current.relayId then
    match executeRelayChange i.change current.relayId current.bandNumber c with
    | (.ok, c) => (current, c)
    | (e, c) => (lastProcessed, recover e i.reconnect c)
  else (lastProcessed, c)

/-! The same pass cut where other tasks and the board can act -/

def beginChange (ensure : EnsureScript) (send : SendScript) (relay band : Int)
    (c : RelayController) : Option EspErr × RelayController :=
  if relay = c.currentlySelectedRelay then (some .ok, recordForBand band relay c)
  else if relay < 1 ∨ NUM_RELAYS < relay then (some .invalidArg, c)
  else match transmit ensure send (setAllCommand (dataByte1 relay) (dataByte0 relay)) c with
    | (.ok, c) => (none, c)
    | (e, c) => (some e, c)

/-- `execute_relay_change` from the end of its wait on. -/
def endChange (relay band : Int) (status : EspErr) (c : RelayController) :
    EspErr × RelayController :=
  match status with
  | .ok =>
      match processResponse (setAllCommand (dataByte1 relay) (dataByte0 relay))
        (setAllSuffix (dataByte1 relay) (dataByte0 relay)) c with
      | (.ok, c) => (.ok, recordForBand band relay (recordOnly relay c))
      | (e, c) => (e, c)
  | e => (e, c)

theorem executeRelayChange_split (x : Exchange) (relay band : Int) (c : RelayController) :
    executeRelayChange x relay band c =
      match beginChange x.ensure x.send relay band c with
      | (some e, c) => (e, c)
      | (none, c) => match awaitReply x.wait 1000 c with
        | (status, _, c) => endChange relay band status c := by
  by_cases hsel : relay = c.currentlySelectedRelay
  · rw [executeRelayChange, beginChange, if_pos hsel, if_pos hsel]
  · rw [executeRelayChange_eq x band hsel, beginChange, if_neg hsel, turnOffAllRelaysExcept]
    by_cases hr : relay < 1 ∨ NUM_RELAYS < relay
    · rw [if_pos hr, if_pos hr]
    · rw [if_neg hr, if_neg hr, sendCommand, commandTimeout_setAll]
      cases ht : transmit x.ensure x.send (setAllCommand (dataByte1 relay) (dataByte0 relay)) c with
      | mk e c₁ =>
          cases e with
          | ok =>
              cases ha : awaitReply x.wait 1000 c₁ with
              | mk status rest =>
                  cases status with
                  | ok =>
                      simp only [ha, endChange]
                      cases hp : processResponse (setAllCommand (dataByte1 relay) (dataByte0 relay))
                          (setAllSuffix (dataByte1 relay) (dataByte0 relay)) rest.2 with
                      | mk e c₂ => cases e <;> rfl
                  | _ => simp only [ha, endChange]
          | _ => rfl

inductive Phase
  | idle
  | waiting (current : RelayChangeRequest) (start : Int) (received : Bytes)

structure Task where
  controller : RelayController
  lastProcessed : RelayChangeRequest
  phase : Phase

def settle (current : RelayChangeRequest) (reconnect : EnsureScript) (last : RelayChangeRequest) :
    EspErr × RelayController → Task
  | (.ok, c) => ⟨c, current, .idle⟩
  | (e, c) => ⟨recover e reconnect c, last, .idle⟩

/-- A pass up to the wait for a reply. The result is that of the relay change, if
there was one and it is over. -/
def Task.begin (ensure : EnsureScript) (send : SendScript) (start : Int) (reconnect : EnsureScript)
    (t : Task) : Option EspErr × Task :=
  let current := t.controller.latestRequest
  if current ≠ t.lastProcessed ∧ 0 < current.relayId then
    match beginChange ensure send current.relayId current.bandNumber t.controller with
    | (none, c) => (none, ⟨c, t.lastProcessed, .waiting current start []⟩)
    | (some e, c) => (some e, settle current reconnect t.lastProcessed (e, c))
  else (none, t)

def takeReply (closed : Bool) (received : Bytes) (c : RelayController) : RelayController :=
  { c with
    tcpClient := if closed then { c.tcpClient with isConnected := false } else c.tcpClient
    response := if received = [] then c.response else received }

def Task.hear (r : Round) (reconnect : EnsureScript) (t : Task) : Option EspErr × Task :=
  match t.phase with
  | .idle => (none, t)
  | .waiting current start received => match receiveRound 256 1000 start received r with
    | .again received => (none, { t with phase := .waiting current start received })
    | .stop status got closed =>
        let result := endChange current.relayId current.bandNumber status
          (takeReply closed got t.controller)
        (some result.1, settle current reconnect t.lastProcessed result)

/-- The rounds of a whole wait; behind the last one the clock reads past the deadline. -/
def Task.hearAll (reconnect : EnsureScript) : List Round → Task → Task
  | [], t => match t.phase with
    | .idle => t
    | .waiting current _ received =>
        settle current reconnect t.lastProcessed
          (endChange current.relayId current.bandNumber .timeout
            (takeReply false received t.controller))
  | r :: rs, t => match t.phase with
    | .idle => t
    | .waiting _ _ _ => Task.hearAll reconnect rs (t.hear r reconnect).2

theorem awaitReply_eq (w : WaitScript) (c : RelayController) :
    awaitReply w 1000 c = match receiveLoop 256 1000 w.start w.rounds [] with
      | (status, received, closed) => (status, received, takeReply closed received c) := by
  rw [awaitReply, receiveMessage, if_neg (by decide)]
  rfl

theorem settle_idle (current : RelayChangeRequest) (reconnect : EnsureScript)
    (last : RelayChangeRequest) (result : EspErr × RelayController) :
    (settle current reconnect last result).phase = .idle := by
  obtain ⟨e, c⟩ := result
  cases e <;> rfl

theorem hearAll_idle (reconnect : EnsureScript) (rounds : List Round) {t : Task}
    (h : t.phase = .idle) : t.hearAll reconnect rounds = t := by
  cases rounds with
  | nil => rw [Task.hearAll, h]
  | cons r rs => rw [Task.hearAll, h]

/-- The rounds of a wait heard one by one end where the whole receive loop ends. -/
theorem hearAll_waiting (reconnect : EnsureScript) (rounds : List Round) (c : RelayController)
    (last current : RelayChangeRequest) (start : Int) (received : Bytes) :
    Task.hearAll reconnect rounds ⟨c, last, .waiting current start received⟩ =
      match receiveLoop 256 1000 start rounds received with
      | (status, got, closed) => settle current reconnect last
          (endChange current.relayId current.bandNumber status (takeReply closed got c)) := by
  induction rounds generalizing received with
  | nil => rfl
  | cons r rs ih =>
      rw [Task.hearAll, receiveLoop]
      simp only [Task.hear]
      cases hr : receiveRound 256 1000 start received r with
      | again got => exact ih got
      | stop status got closed => exact hearAll_idle reconnect rs (settle_idle _ _ _ _)

/-- A pass that nothing interrupts is the pass of the source. -/
theorem iterate_eq_hearAll (x : Exchange) (reconnect : EnsureScript) (last : RelayChangeRequest)
    (c : RelayController) :
    Task.hearAll reconnect x.wait.rounds
        (Task.begin x.ensure x.send x.wait.start reconnect ⟨c, last, .idle⟩).2 =
      ⟨(iterate ⟨none, x, reconnect⟩ last c).2, (iterate ⟨none, x, reconnect⟩ last c).1, .idle⟩ := by
  simp only [Task.begin, iterate]
  by_cases hcur : c.latestRequest ≠ last ∧ 0 < c.latestRequest.relayId
  · rw [if_pos hcur, if_pos hcur, executeRelayChange_split]
    cases hb : beginChange x.ensure x.send c.latestRequest.relayId c.latestRequest.bandNumber c with
    | mk result c₁ =>
        cases result with
        | none =>
            simp only
            rw [hearAll_waiting, awaitReply_eq]
            cases receiveLoop 256 1000 x.wait.start x.wait.rounds [] with
            | mk status rest =>
                simp only
                cases he : endChange c.latestRequest.relayId c.latestRequest.bandNumber status
                    (takeReply rest.2 rest.1 c₁) with
                | mk e c₂ => cases e <;> rfl
        | some e =>
            simp only
            rw [hearAll_idle reconnect _ (settle_idle _ _ _ _)]
            cases e <;> rfl
  · rw [if_neg hcur, if_neg hcur]
    exact hearAll_idle reconnect _ rfl

theorem checkConnection_sameRelays (e retry : EnsureScript) (c : RelayController) :
    SameRelays c (checkConnection e retry c) := by
  rw [checkConnection]
  split <;> rfl

theorem recover_sameRelays (e : EspErr) (reconnect : EnsureScript) (c : RelayController) :
    SameRelays c (recover e reconnect c) := by
  rw [recover]
  split <;> rfl

theorem settle_failed {e : EspErr} (he : e ≠ .ok) (current : RelayChangeRequest)
    (reconnect : EnsureScript) (last : RelayChangeRequest) (c : RelayController) :
    settle current reconnect last (e, c) = ⟨recover e reconnect c, last, .idle⟩ := by
  cases e with
  | ok => exact absurd rfl he
  | _ => rfl

theorem beginChange_cases (ensure : EnsureScript) (send : SendScript) {relay : Int} (band : Int)
    {c : RelayController} (h : relay ≠ c.currentlySelectedRelay) :
    ∃ result c', result ≠ some .ok ∧ SameRelays c c' ∧
      beginChange ensure send relay band c = (result, c') := by
  rw [beginChange, if_neg h]
  split
  · exact ⟨some .invalidArg, c, by decide, rfl, rfl⟩
  · have hs := transmit_sameRelays ensure send
      (setAllCommand (dataByte1 relay) (dataByte0 relay)) c
    split
    · rename_i c' ht
      rw [ht] at hs
      exact ⟨none, c', by decide, hs, rfl⟩
    · rename_i e c' hne ht
      rw [ht] at hs
      refine ⟨some e, c', ?_, hs, rfl⟩
      rintro h
      cases h
      exact hne rfl

/-- What a pass can do up to its wait: nothing, take the shortcut, wait for a reply,
or fail. -/
theorem begin_cases (ensure : EnsureScript) (send : SendScript) (start : Int)
    (reconnect : EnsureScript) (t : Task) :
    ((t.controller.latestRequest = t.lastProcessed ∨ t.controller.latestRequest.relayId ≤ 0) ∧
      t.begin ensure send start reconnect = (none, t)) ∨
    (t.controller.latestRequest ≠ t.lastProcessed ∧ 0 < t.controller.latestRequest.relayId ∧
      ((t.controller.latestRequest.relayId = t.controller.currentlySelectedRelay ∧
        t.begin ensure send start reconnect =
          (some .ok, ⟨recordForBand t.controller.latestRequest.bandNumber
            t.controller.latestRequest.relayId t.controller, t.controller.latestRequest, .idle⟩)) ∨
      (∃ c', SameRelays t.controller c' ∧ t.begin ensure send start reconnect =
        (none, ⟨c', t.lastProcessed, .waiting t.controller.latestRequest start []⟩)) ∨
      (∃ e c', e ≠ .ok ∧ SameRelays t.controller c' ∧ t.begin ensure send start reconnect =
        (some e, ⟨c', t.lastProcessed, .idle⟩)))) := by
  rw [Task.begin]
  by_cases hcur : t.controller.latestRequest ≠ t.lastProcessed ∧
      0 < t.controller.latestRequest.relayId
  · refine Or.inr ⟨hcur.1, hcur.2, ?_⟩
    rw [if_pos hcur]
    by_cases hsel : t.controller.latestRequest.relayId = t.controller.currentlySelectedRelay
    · refine Or.inl ⟨hsel, ?_⟩
      rw [beginChange, if_pos hsel]
      rfl
    · obtain ⟨result, c', hne, hc, hb⟩ := beginChange_cases ensure send
        t.controller.latestRequest.bandNumber hsel
      rw [hb]
      cases result with
      | none => exact Or.inr (Or.inl ⟨c', hc, rfl⟩)
      | some e =>
          have he : e ≠ .ok := fun he => hne (congrArg some he)
          exact Or.inr (Or.inr ⟨e, recover e reconnect c', he,
            hc.trans (recover_sameRelays e reconnect c'), by simp only [settle_failed he]⟩)
  · refine Or.inl ⟨?_, by rw [if_neg hcur]⟩
    by_cases hl : t.controller.latestRequest = t.lastProcessed
    · exact Or.inl hl
    · exact Or.inr (Int.not_lt.mp fun hpos => hcur ⟨hl, hpos⟩)

def Confirms (status : EspErr) (reply : Bytes) : Prop := status = .ok ∧ text ",OK" <:+: cstr reply

instance (status : EspErr) (reply : Bytes) : Decidable (Confirms status reply) :=
  inferInstanceAs (Decidable (_ ∧ _))

theorem endChange_cases (relay band : Int) (status : EspErr) (c : RelayController) :
    (¬ Confirms status c.response ∧ ∃ e, e ≠ .ok ∧ endChange relay band status c = (e, c)) ∨
    (Confirms status c.response ∧ endChange relay band status c =
      (.ok, recordForBand band relay (recordOnly relay (relearn c)))) := by
  cases status with
  | ok =>
      simp only [endChange, processResponse, if_pos (setAllCmd_setAllCommand _ _)]
      by_cases hok : text ",OK" <:+: cstr c.response
      · rw [if_pos hok]
        exact Or.inr ⟨⟨rfl, hok⟩, rfl⟩
      · rw [if_neg hok]
        exact Or.inl ⟨fun h => hok h.2, .fail, by decide, rfl⟩
  | _ => exact Or.inl ⟨fun h => EspErr.noConfusion h.1, _, EspErr.noConfusion, rfl⟩

theorem relearn_latestRequest (c : RelayController) :
    (relearn c).latestRequest = c.latestRequest := by
  rw [relearn, parseRelayStateResponse]
  cases parse (cstr c.response) <;> rfl

theorem relearn_lastSelectedRelayForBand (c : RelayController) :
    (relearn c).lastSelectedRelayForBand = c.lastSelectedRelayForBand := by
  rw [relearn, parseRelayStateResponse]
  cases parse (cstr c.response) <;> rfl

/-- How a round ends a wait, if it does: the status of `receive_message` and the text
in the response buffer behind it. -/
def Task.waitEnd (r : Round) (t : Task) : Option (EspErr × Bytes) :=
  match t.phase with
  | .idle => none
  | .waiting _ start received => match receiveRound 256 1000 start received r with
    | .again _ => none
    | .stop status got closed => some (status, (takeReply closed got t.controller).response)

/-- What one round can do to a wait: go on, end it in failure, or confirm the change. -/
theorem hear_cases (r : Round) (reconnect : EnsureScript) {t : Task} {current : RelayChangeRequest}
    {start : Int} {received : Bytes} (h : t.phase = .waiting current start received) :
    (t.waitEnd r = none ∧
      ∃ got, t.hear r reconnect = (none, { t with phase := .waiting current start got })) ∨
    (∃ status reply, t.waitEnd r = some (status, reply) ∧ ¬ Confirms status reply ∧
      ∃ e c', e ≠ .ok ∧ SameRelays t.controller c' ∧
        t.hear r reconnect = (some e, ⟨c', t.lastProcessed, .idle⟩)) ∨
    (∃ status reply, t.waitEnd r = some (status, reply) ∧ Confirms status reply ∧
      ∃ c', (c'.latestRequest = t.controller.latestRequest ∧
          c'.lastSelectedRelayForBand = t.controller.lastSelectedRelayForBand) ∧
        t.hear r reconnect = (some .ok, ⟨recordForBand current.bandNumber current.relayId
          (recordOnly current.relayId c'), current, .idle⟩)) := by
  simp only [Task.hear, Task.waitEnd, h]
  cases hr : receiveRound 256 1000 start received r with
  | again got => exact Or.inl ⟨rfl, got, rfl⟩
  | stop status got closed =>
      dsimp only
      rcases endChange_cases current.relayId current.bandNumber status
        (takeReply closed got t.controller) with ⟨hno, e, he, hc⟩ | ⟨hyes, hc⟩
      · refine Or.inr (Or.inl ⟨status, _, rfl, hno, e,
          recover e reconnect (takeReply closed got t.controller), he, ?_, ?_⟩)
        · have ht : SameRelays t.controller (takeReply closed got t.controller) := rfl
          exact ht.trans (recover_sameRelays e reconnect _)
        · rw [hc, settle_failed he]
      · refine Or.inr (Or.inr ⟨status, _, rfl, hyes,
          relearn (takeReply closed got t.controller), ⟨?_, ?_⟩, ?_⟩)
        · rw [relearn_latestRequest]
          rfl
        · rw [relearn_lastSelectedRelayForBand]
          rfl
        · rw [hc]
          rfl

end BandDecoder.TcpTask
