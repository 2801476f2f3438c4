import BandDecoder.Passes

namespace BandDecoder.Recovery

open CStrings SwitchConfig Tcp StateReply Relay SendCommand RelayState TcpTask TruthfulBoard Passes Runs

def CONNECTION_CHECK_INTERVAL : UInt32 := 500

def TASK_DELAY : Nat := 2

/-- `vTaskDelay` behind the `close` of a recovery. -/
def RECOVERY_DELAY : Nat := 100

/-- What one round of the loop of `tcp_task` meets: the network at each call, and the
ticks that go by in front of each call and behind the last, on top of the delays of the
task itself. -/
structure Turn where
  check : EnsureScript
  retry : EnsureScript
  change : Exchange
  reconnect : EnsureScript
  toCheck : Nat
  toRetry : Nat
  toChange : Nat
  toReconnect : Nat
  toEnd : Nat

/-- The worker on its clock, of which the code sees the lowest 32 bits. `served` and
`missed` count the rounds that found a request to serve, by whether they served it. -/
structure Watch where
  worker : Worker
  clock : Nat
  lastConnectionCheck : UInt32
  served : Nat
  missed : Nat

def client (s : Watch) : TcpClient := s.worker.controller.tcpClient

def script (e : EnsureScript) (tick : Nat) : EnsureScript := { e with now := UInt32.ofNat tick }

def due (s : Watch) : Prop :=
  CONNECTION_CHECK_INTERVAL ≤ UInt32.ofNat s.clock - s.lastConnectionCheck

instance (s : Watch) : Decidable (due s) := inferInstanceAs (Decidable (_ ≤ _))

section Turn

variable (x : Turn) (s : Watch)

def checkTick : Nat := s.clock + x.toCheck

def retryTick : Nat := checkTick x s + x.toRetry + RECOVERY_DELAY

def checkFails : Prop :=
  due s ∧ (ensureConnected (script x.check (checkTick x s)) (client s)).1 ≠ .ok

instance : Decidable (checkFails x s) := inferInstanceAs (Decidable (_ ∧ _))

def changeTick : Nat :=
  (if checkFails x s then retryTick x s else if due s then checkTick x s else s.clock) + x.toChange

def reconnectTick : Nat := changeTick x s + x.toReconnect + RECOVERY_DELAY

def iteration : Iteration where
  check := if due s then
    some (script x.check (checkTick x s), script x.retry (retryTick x s)) else none
  change := { x.change with ensure := script x.change.ensure (changeTick x s) }
  reconnect := script x.reconnect (reconnectTick x s)

def outcome : Option EspErr :=
  if Idle s.worker then none
  else some (executeRelayChange (iteration x s).change (request s.worker).relayId
    (request s.worker).bandNumber (checked (iteration x s) s.worker.controller)).1

def endTick : Nat :=
  (if outcome x s = some .timeout ∨ outcome x s = some .invalidState then reconnectTick x s
    else changeTick x s) + x.toEnd + TASK_DELAY

def turn : Watch where
  worker := pass (iteration x s) s.worker
  clock := endTick x s
  lastConnectionCheck := if due s then UInt32.ofNat s.clock else s.lastConnectionCheck
  served := s.served + if outcome x s = some .ok then 1 else 0
  missed := s.missed + if outcome x s = none ∨ outcome x s = some .ok then 0 else 1

end Turn

inductive Action
  | turn (x : Turn)
  | antenna (relay band : Int)
  | manual (relay : Int) (state : Bool)

def withController (s : Watch) (c : RelayController) : Watch :=
  { s with worker := { s.worker with controller := c } }

def next (s : Watch) : Action → Watch
  | .turn x => turn x s
  | .antenna relay band => withController s (setRelayForAntenna relay band s.worker.controller).2
  | .manual relay state => withController s (setRelay relay state s.worker.controller).2

/-! A network that works -/

structure Connects (e : EnsureScript) : Prop where
  soError : e.soError = false
  attempt : ∀ c, (connectToServer (e.attempts 0) c).1 = .ok

def wire (relay : Int) : Bytes :=
  (setAllCommand (dataByte1 relay) (dataByte0 relay)).take 126 ++ [10]

/-- The command goes out whole, and the board's reply comes back whole and in time. -/
structure Delivers (x : Exchange) (relay : Int) : Prop where
  sent : sendLoop (wire relay).length x.send.sends 0 0 = ((wire relay).length, false)
  received : receiveLoop 256 1000 x.wait.start x.wait.rounds [] = (.ok, setAllReply relay, false)

/-- The rounds are shorter than a month. -/
structure Turn.Works (x : Turn) (relay : Int) : Prop where
  check : Connects x.check
  retry : Connects x.retry
  ensure : Connects x.change.ensure
  reconnect : Connects x.reconnect
  delivers : Delivers x.change relay
  short : x.toCheck + x.toRetry + x.toChange + x.toReconnect + x.toEnd < 2 ^ 28

def Works (s : Watch) : Action → Prop
  | .turn x => x.Works (request s.worker).relayId
  | _ => True

def Step (s : Watch) (a : Action) (s' : Watch) : Prop := Works s a ∧ s' = next s a

/-- A run from the moment on at which the network works. The connection that stood then
need not: before any miss one round may run into it, whatever it meets there; `n` counts
that round. -/
inductive Follows (s₀ : Watch) : Nat → Watch → Prop
  | start : Follows s₀ 0 s₀
  | step {n : Nat} {s s' : Watch} {a : Action} (h : Follows s₀ n s) (hs : Step s a s') : Follows s₀ n s'
  | broken {s : Watch} (h : Follows s₀ 0 s) (hm : s.missed = 0) (x : Turn) : Follows s₀ 1 (turn x s)

/-! One call of `ensure_connected` -/

/-- `check_connection_status` looks at nothing else before it asks the socket. -/
def Up (c : TcpClient) : Prop := c.isConnected = true ∧ c.sock.isSome = true

instance (c : TcpClient) : Decidable (Up c) := inferInstanceAs (Decidable (_ ∧ _))

def age (c : TcpClient) (tick : Nat) : Nat := (UInt32.ofNat tick - c.lastReconnectAttempt).toNat

theorem toNat_ofNat_add_sub (a : UInt32) {t d : Nat}
    (h : (UInt32.ofNat t - a).toNat + d < 2 ^ 32) :
    (UInt32.ofNat (t + d) - a).toNat = (UInt32.ofNat t - a).toNat + d := by
  rw [UInt32.toNat_sub, UInt32.toNat_ofNat'] at h
  rw [UInt32.toNat_sub, UInt32.toNat_sub, UInt32.toNat_ofNat', UInt32.toNat_ofNat']
  omega

theorem age_add {c : TcpClient} {t t' : Nat} (ht : t ≤ t') (h : age c t + (t' - t) < 2 ^ 32) :
    age c t' = age c t + (t' - t) := by
  obtain ⟨d, rfl⟩ := Nat.exists_eq_add_of_le ht
  rw [Nat.add_sub_cancel_left] at h ⊢
  exact toNat_ofNat_add_sub c.lastReconnectAttempt h

theorem verifyConnection_up {v : VerifyScript} {c c' : TcpClient} (hc : Up c)
    (h : verifyConnection v c = (.ok, c')) : Up c' := by
  rw [verifyConnection, hc.1, if_neg (by decide)] at h
  split at h
  · cases h
  · split at h
    · cases h
    · split at h
      · cases h
        exact hc
      · cases h

theorem connectToServer_up {k : ConnectScript} {c c' : TcpClient} (h : connectToServer k c = (.ok, c')) :
    Up c' := by
  rw [connectToServer] at h
  split at h
  · cases h
  · dsimp only at h
    split at h
    · exact verifyConnection_up ⟨rfl, rfl⟩ h
    · cases h
    · split at h
      · cases h
      · cases h
      · split at h
        · cases h
        · exact verifyConnection_up ⟨rfl, rfl⟩ h

theorem checkConnectionStatus_eq (c : TcpClient) :
    checkConnectionStatus false c = (decide (Up c), c) := by
  obtain ⟨sock, host, port, isConnected, last⟩ := c
  cases isConnected <;> cases sock <;> rfl

/-- Where the network works, only the cooldown can refuse a connection. -/
theorem ensureConnected_cases {e : EnsureScript} (he : Connects e) (c : TcpClient) (tick : Nat) :
    (∃ c', ensureConnected (script e tick) c = (.ok, c') ∧ Up c') ∨
    (¬ Up c ∧ age c tick < 500 ∧ ensureConnected (script e tick) c = (.invalidState, c)) := by
  have hcheck : checkConnectionStatus (script e tick).soError c = (decide (Up c), c) := by
    rw [script, he.soError]
    exact checkConnectionStatus_eq c
  rw [ensureConnected, hcheck]
  by_cases hup : Up c
  · rw [decide_eq_true hup]
    exact Or.inl ⟨c, rfl, hup⟩
  · rw [decide_eq_false hup]
    dsimp only
    have hage : (script e tick).now - c.lastReconnectAttempt < RECONNECT_COOLDOWN_TICKS ↔
        age c tick < 500 := UInt32.lt_iff_toNat_lt
    by_cases hcool : (script e tick).now - c.lastReconnectAttempt < RECONNECT_COOLDOWN_TICKS
    · exact Or.inr ⟨hup, hage.mp hcool, if_pos hcool⟩
    · left
      rw [if_neg hcool, List.ofFn_succ, reconnect]
      have hok := he.attempt { close c with lastReconnectAttempt := UInt32.ofNat tick }
      cases hr : connectToServer (e.attempts 0)
          { close c with lastReconnectAttempt := UInt32.ofNat tick } with
      | mk status c' =>
          rw [hr] at hok
          obtain rfl : status = .ok := hok
          refine ⟨c', ?_, connectToServer_up hr⟩
          rw [show (script e tick).attempts 0 = e.attempts 0 from rfl,
            show (script e tick).now = UInt32.ofNat tick from rfl, hr]

/-! One relay change -/

theorem transmit_up {ensure : EnsureScript} {send : SendScript} {command : Bytes} {c : RelayController}
    {tcp : TcpClient} (he : ensureConnected ensure c.tcpClient = (.ok, tcp)) (hup : Up tcp)
    (hs : sendLoop (command.take 126 ++ [10]).length send.sends 0 0 =
      ((command.take 126 ++ [10]).length, false)) :
    transmit ensure send command c = (.ok, { c with tcpClient := tcp }) := by
  rw [transmit, he]
  dsimp only
  rw [sendMessage, if_pos hup.1]
  dsimp only
  rw [if_neg (not_not.mpr rfl), hs]
  dsimp only
  rw [if_pos rfl]

theorem awaitReply_whole {wait : WaitScript} {relay : Int}
    (hr : receiveLoop 256 1000 wait.start wait.rounds [] = (.ok, setAllReply relay, false))
    (c : RelayController) :
    awaitReply wait 1000 c = (.ok, setAllReply relay, { c with response := setAllReply relay }) := by
  rw [awaitReply, receiveMessage, if_neg (by decide), hr]
  dsimp only
  rw [if_neg (show setAllReply relay ≠ [] from reply_ne_nil _ _ _)]
  rfl

theorem processResponse_client (command expected : Bytes) (c : RelayController) :
    (processResponse command expected c).2.tcpClient = c.tcpClient := by
  rcases processResponse_snd command expected c with h | h
  · rw [h]
  · rw [h, relearn, parseRelayStateResponse]
    split <;> rfl

theorem executeRelayChange_up {x : Exchange} {relay : Int} (h1 : 1 ≤ relay) (h16 : relay ≤ NUM_RELAYS)
    (hd : Delivers x relay) (band : Int) {c : RelayController} {tcp : TcpClient}
    (hsel : relay ≠ c.currentlySelectedRelay)
    (he : ensureConnected x.ensure c.tcpClient = (.ok, tcp)) (hup : Up tcp) :
    ∃ c', executeRelayChange x relay band c = (.ok, c') ∧ c'.tcpClient = tcp := by
  let c₁ : RelayController := { c with tcpClient := tcp, response := setAllReply relay }
  have ht : transmit x.ensure x.send (setAllCommand (dataByte1 relay) (dataByte0 relay)) c =
      (.ok, { c with tcpClient := tcp }) := transmit_up he hup hd.sent
  have ha : awaitReply x.wait 1000 { c with tcpClient := tcp } = (.ok, setAllReply relay, c₁) :=
    awaitReply_whole hd.received _
  have hs : sendCommand x (setAllCommand (dataByte1 relay) (dataByte0 relay))
      (setAllSuffix (dataByte1 relay) (dataByte0 relay)) 500 c =
        processResponse (setAllCommand (dataByte1 relay) (dataByte0 relay))
          (setAllSuffix (dataByte1 relay) (dataByte0 relay)) c₁ := by
    rw [sendCommand, ht]
    dsimp only
    rw [commandTimeout_setAll, ha]
  have hanswers : AnswersSetAll x relay c := by
    refine ⟨c₁, ?_⟩
    rw [answered, ht]
    dsimp only
    rw [ha]
  obtain ⟨c', -, hok⟩ := sendCommand_setAll h1 h16 hanswers
  have hclient := processResponse_client (setAllCommand (dataByte1 relay) (dataByte0 relay))
    (setAllSuffix (dataByte1 relay) (dataByte0 relay)) c₁
  rw [← hs, hok] at hclient
  rw [executeRelayChange_eq x band hsel, turnOffAllRelaysExcept, if_neg (by omega), hok]
  exact ⟨_, rfl, hclient⟩

theorem executeRelayChange_refused {x : Exchange} {relay : Int} (h1 : 1 ≤ relay)
    (h16 : relay ≤ NUM_RELAYS) (band : Int) {c : RelayController}
    (hsel : relay ≠ c.currentlySelectedRelay)
    (he : ensureConnected x.ensure c.tcpClient = (.invalidState, c.tcpClient)) :
    executeRelayChange x relay band c = (.invalidState, c) := by
  rw [executeRelayChange_eq x band hsel, turnOffAllRelaysExcept, if_neg (by omega), sendCommand, transmit,
    he]

/-! One round -/

theorem pass_idle {i : Iteration} {w : Worker} (h : Idle w) :
    pass i w = ⟨checked i w.controller, w.lastProcessed⟩ := by
  have hreq : (checked i w.controller).latestRequest = request w := by rw [checked_sameRelays i, request]
  have hno : ¬ (request w ≠ w.lastProcessed ∧ 0 < (request w).relayId) := by
    rintro ⟨hne, hpos⟩
    exact h.elim hne (Int.not_le.mpr hpos)
  rw [Passes.pass, iterate_checked, hreq]
  dsimp only
  rw [if_neg hno]

theorem pass_busy {i : Iteration} {w : Worker} (h : ¬ Idle w) {e : EspErr} {c : RelayController}
    (hx : executeRelayChange i.change (request w).relayId (request w).bandNumber
      (checked i w.controller) = (e, c)) :
    pass i w = if e = .ok then ⟨c, request w⟩ else ⟨recover e i.reconnect c, w.lastProcessed⟩ := by
  have hreq : (checked i w.controller).latestRequest = request w := by rw [checked_sameRelays i, request]
  have hyes : request w ≠ w.lastProcessed ∧ 0 < (request w).relayId := by
    rw [Idle, not_or, Int.not_le] at h
    exact h
  rw [Passes.pass, iterate_checked, hreq]
  dsimp only
  rw [if_pos hyes, hx]
  cases e <;> rfl

section Turn

variable {x : Turn} {s : Watch}

/-- Behind the check of a round the connection stands, or the cooldown has refused it,
or nobody has looked. -/
theorem checked_client (hw : x.Works (request s.worker).relayId) :
    Up (checked (iteration x s) s.worker.controller).tcpClient ∨
    (¬ Up (client s) ∧ ¬ Up (checked (iteration x s) s.worker.controller).tcpClient ∧
      (checked (iteration x s) s.worker.controller).tcpClient.lastReconnectAttempt =
        (client s).lastReconnectAttempt ∧
      (due s → checkFails x s ∧ age (client s) (retryTick x s) < 500)) := by
  by_cases hdue : due s
  · have hc : checked (iteration x s) s.worker.controller = checkConnection
        (script x.check (checkTick x s)) (script x.retry (retryTick x s)) s.worker.controller := by
      rw [checked, iteration, if_pos hdue]
    rw [hc, checkConnection]
    rcases ensureConnected_cases hw.check (client s) (checkTick x s) with ⟨c, he, hup⟩ | ⟨hdown, -, he⟩
    · rw [show s.worker.controller.tcpClient = client s from rfl, he]
      exact Or.inl hup
    · rw [show s.worker.controller.tcpClient = client s from rfl, he]
      dsimp only
      rcases ensureConnected_cases hw.retry (Tcp.close (client s)) (retryTick x s) with
        ⟨c, he', hup⟩ | ⟨hclosed, hage, he'⟩
      · rw [he']
        exact Or.inl hup
      · rw [he']
        refine Or.inr ⟨hdown, hclosed, rfl, fun _ => ⟨⟨hdue, ?_⟩, hage⟩⟩
        rw [he]
        exact EspErr.noConfusion
  · have hc : checked (iteration x s) s.worker.controller = s.worker.controller := by
      rw [checked, iteration, if_neg hdue]
    rw [hc]
    by_cases hup : Up (client s)
    · exact Or.inl hup
    · exact Or.inr ⟨hup, hup, rfl, fun h => absurd h hdue⟩

/-- A round has nothing to do, or serves its request, or is refused by the cooldown; the
reconnection it forces then may be refused as well. -/
theorem outcome_cases (hw : x.Works (request s.worker).relayId)
    (hr : (request s.worker).relayId ≤ NUM_RELAYS) :
    ((outcome x s = none ∨ outcome x s = some .ok) ∧
      (client (turn x s) = (checked (iteration x s) s.worker.controller).tcpClient ∨
        Up (client (turn x s)))) ∨
    (outcome x s = some .invalidState ∧
      ¬ Up (checked (iteration x s) s.worker.controller).tcpClient ∧
      age (checked (iteration x s) s.worker.controller).tcpClient (changeTick x s) < 500 ∧
      (Up (client (turn x s)) ∨
        (client (turn x s) = Tcp.close (checked (iteration x s) s.worker.controller).tcpClient ∧
          age (checked (iteration x s) s.worker.controller).tcpClient (reconnectTick x s) < 500))) := by
  have hsame := checked_sameRelays (iteration x s) s.worker.controller
  by_cases hidle : Idle s.worker
  · refine Or.inl ⟨Or.inl (if_pos hidle), Or.inl ?_⟩
    rw [client, turn, pass_idle hidle]
  · have hpos : 0 < (request s.worker).relayId := by
      rw [Idle, not_or, Int.not_le] at hidle
      exact hidle.2
    have hbusy (e : EspErr) (c : RelayController)
        (hx : executeRelayChange (iteration x s).change (request s.worker).relayId
          (request s.worker).bandNumber (checked (iteration x s) s.worker.controller) = (e, c)) :
        outcome x s = some e ∧ client (turn x s) =
          (if e = .ok then c else recover e (iteration x s).reconnect c).tcpClient := by
      refine ⟨by rw [outcome, if_neg hidle, hx], ?_⟩
      rw [client, turn, pass_busy hidle hx]
      split <;> rfl
    by_cases hsel : (request s.worker).relayId =
        (checked (iteration x s) s.worker.controller).currentlySelectedRelay
    · obtain ⟨ho, hc⟩ := hbusy .ok _ (by rw [executeRelayChange, if_pos hsel])
      exact Or.inl ⟨Or.inr ho, Or.inl hc⟩
    · rcases ensureConnected_cases hw.ensure
        (checked (iteration x s) s.worker.controller).tcpClient (changeTick x s) with
        ⟨tcp, he, hup⟩ | ⟨hdown, hage, he⟩
      · have hd : Delivers (iteration x s).change (request s.worker).relayId := ⟨hw.delivers.1, hw.delivers.2⟩
        obtain ⟨c, hx, hc⟩ := executeRelayChange_up hpos hr hd (request s.worker).bandNumber hsel he hup
        obtain ⟨ho, hcl⟩ := hbusy .ok c hx
        refine Or.inl ⟨Or.inr ho, Or.inr ?_⟩
        rw [hcl, if_pos rfl, hc]
        exact hup
      · obtain ⟨ho, hcl⟩ := hbusy .invalidState _
          (executeRelayChange_refused hpos hr (request s.worker).bandNumber hsel he)
        refine Or.inr ⟨ho, hdown, hage, ?_⟩
        rw [if_neg EspErr.noConfusion, recover, if_pos (Or.inr rfl), forceReconnect] at hcl
        rcases ensureConnected_cases hw.reconnect
          (Tcp.close (checked (iteration x s) s.worker.controller).tcpClient) (reconnectTick x s) with
          ⟨tcp, he', hup⟩ | ⟨-, hage', he'⟩
        · left
          rw [hcl, show (iteration x s).reconnect = script x.reconnect (reconnectTick x s) from rfl, he']
          exact hup
        · right
          refine ⟨?_, hage'⟩
          rw [hcl, show (iteration x s).reconnect = script x.reconnect (reconnectTick x s) from rfl, he']

/-! The clock of a round -/

def sinceCheck (s : Watch) : Nat := (UInt32.ofNat s.clock - s.lastConnectionCheck).toNat

theorem due_iff : due s ↔ 500 ≤ sinceCheck s := UInt32.le_iff_toNat_le

theorem ticks_ordered (x : Turn) (s : Watch) :
    s.clock ≤ changeTick x s ∧ changeTick x s + 100 ≤ reconnectTick x s ∧
      changeTick x s + 2 ≤ (turn x s).clock ∧ (checkFails x s → retryTick x s ≤ changeTick x s) ∧
      s.clock ≤ retryTick x s := by
  have hretry : s.clock ≤ retryTick x s := by
    rw [retryTick, checkTick]
    omega
  have hchange : s.clock ≤ changeTick x s ∧ (checkFails x s → retryTick x s ≤ changeTick x s) := by
    rw [changeTick]
    split
    · exact ⟨by omega, fun _ => by omega⟩
    · rename_i hf
      refine ⟨?_, fun h => absurd h hf⟩
      rw [checkTick]
      split <;> omega
  have hend : changeTick x s + 2 ≤ (turn x s).clock := by
    change _ ≤ endTick x s
    rw [endTick, TASK_DELAY, reconnectTick]
    split <;> omega
  refine ⟨hchange.1, ?_, hend, hchange.2, hretry⟩
  rw [reconnectTick, RECOVERY_DELAY]
  omega

theorem reconnectTick_le (h : outcome x s = some .invalidState) :
    reconnectTick x s + 2 ≤ (turn x s).clock := by
  change _ ≤ endTick x s
  rw [endTick, if_pos (Or.inr h), TASK_DELAY]
  omega

theorem clock_turn_le (hw : x.Works (request s.worker).relayId) :
    (turn x s).clock ≤ s.clock + (2 ^ 28 + 202) := by
  have hshort := hw.short
  have hchange : changeTick x s ≤ s.clock + x.toCheck + x.toRetry + x.toChange + 100 := by
    rw [changeTick, retryTick, checkTick, RECOVERY_DELAY]
    split
    · omega
    · split <;> omega
  change endTick x s ≤ _
  rw [endTick, TASK_DELAY, reconnectTick, RECOVERY_DELAY]
  split <;> omega

theorem sinceCheck_turn (hw : x.Works (request s.worker).relayId) :
    sinceCheck (turn x s) ≤ 2 ^ 28 + 1000 ∧
      (¬ due s → sinceCheck (turn x s) = sinceCheck s + ((turn x s).clock - s.clock)) := by
  have hle := clock_turn_le hw
  obtain ⟨hlow, -, hend, -, -⟩ := ticks_ordered x s
  have hclock : s.clock + ((turn x s).clock - s.clock) = (turn x s).clock := by omega
  by_cases hdue : due s
  · refine ⟨?_, fun h => absurd hdue h⟩
    have hlast : (turn x s).lastConnectionCheck = UInt32.ofNat s.clock := if_pos hdue
    have hzero : (UInt32.ofNat s.clock - UInt32.ofNat s.clock).toNat = 0 := by simp
    have hadd := toNat_ofNat_add_sub (UInt32.ofNat s.clock) (t := s.clock)
      (d := (turn x s).clock - s.clock) (by omega)
    rw [sinceCheck, hlast, ← hclock, hadd]
    omega
  · have hlast : (turn x s).lastConnectionCheck = s.lastConnectionCheck := if_neg hdue
    have hsmall : sinceCheck s < 500 := by
      rw [due_iff] at hdue
      omega
    have hadd := toNat_ofNat_add_sub s.lastConnectionCheck (t := s.clock)
      (d := (turn x s).clock - s.clock) (by rw [sinceCheck] at hsmall; omega)
    have heq : sinceCheck (turn x s) = sinceCheck s + ((turn x s).clock - s.clock) := by
      rw [sinceCheck, hlast, ← hclock, hadd, hclock]
      rfl
    exact ⟨by omega, fun _ => heq⟩

/-- A connection that does not stand after a miss waits for the cooldown of the one
attempt that every miss but the first `n` has run into. -/
structure Waits (n : Nat) (s : Watch) : Prop where
  few : s.missed ≤ n + 4
  old : 102 * (s.missed - n) ≤ age (client s) s.clock
  recent : age (client s) s.clock ≤ sinceCheck s + 2 ^ 29
  looked : sinceCheck s ≤ 2 ^ 28 + 1000

structure Inv (n : Nat) (s : Watch) : Prop where
  range : (request s.worker).relayId ≤ NUM_RELAYS
  missed : s.missed ≤ n + 5
  waits : ¬ Up (client s) → n < s.missed → Waits n s
  selected : 0 < s.served →
    s.worker.controller.currentlySelectedRelay = s.worker.lastProcessed.relayId

theorem age_congr {c c' : TcpClient} (h : c'.lastReconnectAttempt = c.lastReconnectAttempt) (tick : Nat) :
    age c' tick = age c tick := by
  rw [age, age, h]

/-- A round that misses nothing keeps a connection that waits where it is. -/
theorem Waits.quiet {n : Nat} (h : Waits n s) (hw : x.Works (request s.worker).relayId)
    (hm : (turn x s).missed = s.missed)
    (hc : (client (turn x s)).lastReconnectAttempt = (client s).lastReconnectAttempt)
    (hdue : due s → checkFails x s ∧ age (client s) (retryTick x s) < 500) : Waits n (turn x s) := by
  obtain ⟨hfew, hage, hrecent, hchecked⟩ := h
  have hle := clock_turn_le hw
  obtain ⟨hlow, -, hend, hretry, hstart⟩ := ticks_ordered x s
  obtain ⟨hsince, hgrown⟩ := sinceCheck_turn hw
  have hend' : age (client (turn x s)) (turn x s).clock =
      age (client s) s.clock + ((turn x s).clock - s.clock) := by
    rw [age_congr hc]
    exact age_add (by omega) (by omega)
  refine ⟨by rw [hm]; exact hfew, by rw [hm, hend']; omega, ?_, hsince⟩
  rw [hend']
  by_cases hd : due s
  · obtain ⟨hf, hcool⟩ := hdue hd
    have hbefore := hretry hf
    rw [age_add hstart (by omega)] at hcool
    omega
  · rw [hgrown hd]
    omega

/-- A miss that leaves the connection down has spent a fifth of the cooldown. -/
theorem Waits.miss {n : Nat} (hw : x.Works (request s.worker).relayId) (h : n < s.missed → Waits n s)
    (ho : outcome x s = some .invalidState) (hm : (turn x s).missed = s.missed + 1)
    (hc : (client (turn x s)).lastReconnectAttempt = (client s).lastReconnectAttempt)
    (hchange : age (client s) (changeTick x s) < 500)
    (hreconnect : age (client s) (reconnectTick x s) < 500) : Waits n (turn x s) := by
  have hle := clock_turn_le hw
  obtain ⟨hlow, hdelay, -, -, -⟩ := ticks_ordered x s
  have hend := reconnectTick_le ho
  have hsince := (sinceCheck_turn hw).1
  have hr : age (client s) (reconnectTick x s) =
      age (client s) (changeTick x s) + (reconnectTick x s - changeTick x s) :=
    age_add (by omega) (by omega)
  have he : age (client (turn x s)) (turn x s).clock =
      age (client s) (reconnectTick x s) + ((turn x s).clock - reconnectTick x s) := by
    rw [age_congr hc]
    exact age_add (by omega) (by omega)
  have hspent : 102 * (s.missed - n) ≤ age (client s) (changeTick x s) := by
    rcases Nat.lt_or_ge n s.missed with hpos | h0
    swap
    · omega
    · obtain ⟨-, hage, hrecent, hchecked⟩ := h hpos
      rw [age_add hlow (by omega)]
      omega
  refine ⟨by omega, by omega, by omega, hsince⟩

theorem Inv.selected_turn {n : Nat} (h : Inv n s) (hserved : 0 < (turn x s).served) :
    (turn x s).worker.controller.currentlySelectedRelay = (turn x s).worker.lastProcessed.relayId := by
  rcases (pass_selected (iteration x s) s.worker).2 with ⟨hsel, hlast⟩ | ⟨-, hsel, hlast⟩
  · have hno : outcome x s ≠ some .ok := by
      intro ho
      by_cases hidle : Idle s.worker
      · rw [outcome, if_pos hidle] at ho
        cases ho
      · rw [outcome, if_neg hidle] at ho
        rw [pass_busy hidle (Prod.ext (Option.some.inj ho) rfl), if_pos rfl] at hlast
        exact hidle (Or.inl hlast)
    have hsame : (turn x s).served = s.served := by
      change s.served + _ = _
      rw [if_neg hno, Nat.add_zero]
    rw [hsame] at hserved
    exact hsel.trans ((h.selected hserved).trans (congrArg RelayChangeRequest.relayId hlast.symm))
  · exact hsel.trans (congrArg RelayChangeRequest.relayId hlast.symm)

theorem Inv.round {n : Nat} (h : Inv n s) (hw : x.Works (request s.worker).relayId) :
    Inv n (turn x s) := by
  have hreq : request (turn x s).worker = request s.worker := (pass_selected (iteration x s) s.worker).1
  have hrange : (request (turn x s).worker).relayId ≤ NUM_RELAYS := by
    rw [hreq]
    exact h.range
  rcases outcome_cases hw h.range with ⟨ho, hc⟩ | ⟨ho, hdown, hchange, hc⟩
  · have hm : (turn x s).missed = s.missed := by
      change s.missed + _ = _
      rw [if_pos ho, Nat.add_zero]
    refine ⟨hrange, by rw [hm]; exact h.missed, fun hn hpos => ?_, h.selected_turn⟩
    obtain hc := hc.resolve_right hn
    rw [hc] at hn
    obtain ⟨hdown, -, hlast, hdue⟩ := (checked_client hw).resolve_left hn
    rw [hm] at hpos
    exact (h.waits hdown hpos).quiet hw hm (by rw [hc, hlast]) hdue
  · have hm : (turn x s).missed = s.missed + 1 := by
      change s.missed + _ = _
      rw [ho]
      rfl
    obtain ⟨hdown, -, hlast, -⟩ := (checked_client hw).resolve_left hdown
    have hfive : s.missed ≤ n + 4 := by
      rcases Nat.lt_or_ge n s.missed with hpos | h0
      · exact (h.waits hdown hpos).few
      · omega
    refine ⟨hrange, by omega, fun hn _ => ?_, h.selected_turn⟩
    obtain ⟨hc, hreconnect⟩ := hc.resolve_left hn
    rw [age_congr hlast] at hchange hreconnect
    exact Waits.miss hw (h.waits hdown) ho hm (by rw [hc]; exact hlast) hchange hreconnect

theorem Inv.broken (h : Inv 0 s) (hm : s.missed = 0) (x : Turn) : Inv 1 (turn x s) := by
  have hreq : request (turn x s).worker = request s.worker := (pass_selected (iteration x s) s.worker).1
  have hone : (turn x s).missed ≤ 1 := by
    change s.missed + _ ≤ 1
    rw [hm]
    split <;> decide
  exact ⟨by rw [hreq]; exact h.range, by omega, fun _ hlt => by omega, h.selected_turn⟩

end Turn

theorem Inv.withController {n : Nat} {s : Watch} (h : Inv n s) {c : RelayController}
    (hr : c = s.worker.controller ∨ ∃ q : RelayChangeRequest, q.relayId ≤ NUM_RELAYS ∧
      c = { s.worker.controller with latestRequest := q }) : Inv n (withController s c) := by
  rcases hr with rfl | ⟨q, hq, rfl⟩
  · exact h
  · exact ⟨hq, h.missed, fun hn hpos => ⟨(h.waits hn hpos).1, (h.waits hn hpos).2, (h.waits hn hpos).3,
      (h.waits hn hpos).4⟩, h.selected⟩

theorem Inv.step {n : Nat} {s s' : Watch} {a : Action} (h : Inv n s) (hs : Step s a s') : Inv n s' := by
  obtain ⟨hw, rfl⟩ := hs
  cases a with
  | turn x => exact h.round hw
  | antenna relay band =>
      refine h.withController ?_
      rcases setRelayForAntenna_cases relay band s.worker.controller with ⟨-, he⟩ | ⟨-, h16, he⟩
      · exact Or.inl (by rw [he])
      · exact Or.inr ⟨⟨relay, band⟩, h16, by rw [he]⟩
  | manual relay state =>
      refine h.withController ?_
      rw [setRelay]
      split
      · exact Or.inl rfl
      · rename_i h16
        split
        · exact Or.inl rfl
        · exact Or.inr ⟨⟨relay, 0⟩, Int.not_lt.mp fun hlt => h16 (Or.inr hlt), rfl⟩

theorem idle_turn {x : Turn} {s : Watch} (hm : (turn x s).missed = s.missed) :
    Idle (turn x s).worker := by
  have hreq : request (turn x s).worker = request s.worker := (pass_selected (iteration x s) s.worker).1
  by_cases hidle : Idle s.worker
  · rw [Idle, hreq, turn, pass_idle hidle]
    exact hidle
  · have ho : outcome x s = some .ok := by
      by_contra hno
      have hsome : outcome x s ≠ none := by
        rw [outcome, if_neg hidle]
        exact Option.some_ne_none _
      change s.missed + _ = s.missed at hm
      rw [if_neg (not_or.mpr ⟨hsome, hno⟩)] at hm
      omega
    rw [outcome, if_neg hidle] at ho
    left
    rw [hreq, turn, pass_busy hidle (Prod.ext (Option.some.inj ho) rfl), if_pos rfl]

theorem Follows.inv {s₀ s : Watch} {n : Nat} (h : Follows s₀ n s)
    (hr : (request s₀.worker).relayId ≤ NUM_RELAYS) (h₀ : s₀.served = 0 ∧ s₀.missed = 0) : Inv n s := by
  induction h with
  | start => exact ⟨hr, by omega, fun _ hpos => by omega, fun hpos => by omega⟩
  | step _ hs ih => exact ih.step hs
  | broken _ hm x ih => exact ih.broken hm x

def answering : EnsureScript :=
  ⟨false, 0, fun _ => ⟨some 54, .done, .ready, false, ⟨false, some (text "OK")⟩⟩⟩

def answeringTurn : Turn :=
  ⟨answering, answering, ⟨answering, ⟨answering, [.wrote 64]⟩, ⟨0, [⟨0, .data (setAllReply 3)⟩]⟩⟩,
    answering, 0, 0, 0, 0, 0⟩

def breakingTurn : Turn :=
  { answeringTurn with change := { answeringTurn.change with send := ⟨answering, [.failed]⟩ } }

def standing : Watch :=
  ⟨⟨{ construct with
      latestRequest := ⟨3, 0⟩
      tcpClient := { fresh with sock := some 54, isConnected := true } }, noRequest⟩, 10, 0, 0, 0⟩

def rounds (n : Nat) : Watch := (turn answeringTurn)^[n] (turn breakingTurn standing)

theorem works_answering : answeringTurn.Works 3 := by
  have hc : Connects answering := ⟨rfl, fun _ => rfl⟩
  exact ⟨hc, hc, hc, hc, ⟨by decide +kernel, by decide +kernel⟩, by decide⟩

theorem follows_rounds (n : Nat) : Follows standing 1 (rounds n) := by
  have hrequest (n : Nat) : request (rounds n).worker = ⟨3, 0⟩ := by
    induction n with
    | zero => exact (pass_selected _ _).1
    | succ n ih =>
        rw [rounds, Function.iterate_succ_apply']
        exact (pass_selected _ _).1.trans ih
  induction n with
  | zero => exact .broken .start rfl breakingTurn
  | succ n ih =>
      rw [rounds, Function.iterate_succ_apply']
      refine ih.step (a := .turn answeringTurn) ⟨?_, rfl⟩
      change answeringTurn.Works (request (rounds n).worker).relayId
      rw [hrequest n]
      exact works_answering

end BandDecoder.Recovery
