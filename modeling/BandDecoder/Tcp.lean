import BandDecoder.SwitchConfig

namespace BandDecoder.Tcp

open CStrings SwitchConfig

/-- `sock` is `none` for the value -1; ticks are 10 ms long. -/
structure TcpClient where
  sock : Option Nat
  host : Bytes
  port : UInt16
  isConnected : Bool
  lastReconnectAttempt : UInt32

def fresh : TcpClient := ⟨none, [], 0, false, 0⟩

def RECONNECT_COOLDOWN_TICKS : UInt32 := 500

inductive ConnectResult
  | done
  | inProgress
  | failed

inductive SelectResult
  | ready
  | timedOut
  | failed

/-- The socket calls of `verify_connection`: whether `send` fails, then the bytes
`recv` gives, or `none` when it fails. -/
structure VerifyScript where
  sendFails : Bool
  reply : Option Bytes

structure ConnectScript where
  socket : Option Nat
  connect : ConnectResult
  select : SelectResult
  soError : Bool
  verify : VerifyScript

structure EnsureScript where
  soError : Bool
  now : UInt32
  attempts : Fin 3 → ConnectScript

def close (c : TcpClient) : TcpClient := { c with sock := none, isConnected := false }

def verifyConnection (v : VerifyScript) (c : TcpClient) : EspErr × TcpClient :=
  if !c.isConnected then (.fail, c)
  else if v.sendFails then (.fail, close c)
  else match v.reply with
    | none => (.fail, close c)
    | some reply =>
        if text "OK" <:+: cstr (reply.take 127) then (.ok, c) else (.fail, close c)

def connectToServer (k : ConnectScript) (c : TcpClient) : EspErr × TcpClient :=
  match k.socket with
  | none => (.fail, { c with sock := none })
  | some fd =>
      let c := { c with sock := some fd }
      match k.connect with
      | .done => verifyConnection k.verify { c with isConnected := true }
      | .failed => (.fail, close c)
      | .inProgress => match k.select with
        | .timedOut => (.timeout, close c)
        | .failed => (.fail, close c)
        | .ready =>
            if k.soError then (.fail, close c)
            else verifyConnection k.verify { c with isConnected := true }

def checkConnectionStatus (soError : Bool) (c : TcpClient) : Bool × TcpClient :=
  if !c.isConnected || c.sock.isNone then (false, c)
  else if soError then (false, { c with isConnected := false })
  else (true, c)

def reconnect : List ConnectScript → TcpClient → EspErr × TcpClient
  | [], c => (.fail, c)
  | k :: ks, c => match connectToServer k c with
    | (.ok, c) => (.ok, c)
    | (_, c) => reconnect ks c

def ensureConnected (e : EnsureScript) (c : TcpClient) : EspErr × TcpClient :=
  match checkConnectionStatus e.soError c with
  | (true, c) => (.ok, c)
  | (false, c) =>
      if e.now - c.lastReconnectAttempt < RECONNECT_COOLDOWN_TICKS then (.invalidState, c)
      else reconnect (List.ofFn e.attempts) { close c with lastReconnectAttempt := e.now }

inductive SendResult
  | wouldBlock
  | failed
  | wrote (n : Nat)

/-- The write loop of `send_message`: the bytes accepted and whether a hard error
ended it. A script that runs out stands for a connection that is gone. -/
def sendLoop (length : Nat) : List SendResult → Nat → Nat → Nat × Bool
  | [], total, retry => (total, decide (total < length ∧ retry < 2))
  | r :: rs, total, retry =>
      if total < length ∧ retry < 2 then
        match r with
        | .wouldBlock => sendLoop length rs total (retry + 1)
        | .failed => (total, true)
        | .wrote n => sendLoop length rs (total + min n (length - total)) retry
      else (total, false)

structure SendScript where
  ensure : EnsureScript
  sends : List SendResult

def sendMessage (m : SendScript) (message : Bytes) (c : TcpClient) : EspErr × Nat × TcpClient :=
  let (up, c) := if c.isConnected then (.ok, c) else ensureConnected m.ensure c
  if up ≠ .ok then (up, 0, c)
  else match sendLoop message.length m.sends 0 0 with
    | (total, true) => (.fail, total, { c with isConnected := false })
    | (total, false) => (if total = message.length then .ok else .fail, total, c)

/-- One pass of the receive loop after its clock reading: `select` returns 0
(`quiet`), fails, or reports data for a `recv` that fails or gives bytes; no
bytes stand for a connection closed by the peer. -/
inductive Slice
  | quiet
  | selectError
  | recvError
  | data (bytes : Bytes)

structure Round where
  now : Int
  slice : Slice

inductive RoundEnd
  | stop (status : EspErr) (received : Bytes) (closed : Bool)
  | again (received : Bytes)

def complete (msg : Bytes) : Prop :=
  text ",OK" <:+: msg ∨ (text "RELAY-STATE-255" <:+: msg ∧ text "," <:+: msg) ∨
    (text "RELAY-SET_ALL-255" <:+: msg ∧ text "," <:+: msg)

instance (msg : Bytes) : Decidable (complete msg) :=
  inferInstanceAs (Decidable (_ ∨ _))

/-- `static_cast<int>` of a 64-bit difference. -/
def elapsed (start now : Int) : Int := (now - start).bmod (2 ^ 32)

def receiveRound (size : Nat) (timeout start : Int) (received : Bytes) (r : Round) : RoundEnd :=
  if timeout ≤ elapsed start r.now then .stop .timeout received false
  else match r.slice with
    | .quiet => .stop .ok received false
    | .selectError => .stop .fail received false
    | .recvError => .stop .fail received false
    | .data bytes =>
        let segment := bytes.take (size - received.length - 1)
        if segment = [] then .stop .fail received true
        else if complete (received ++ segment) then .stop .ok (received ++ segment) false
        else if size - 1 ≤ (received ++ segment).length then
          .stop .noMem (received ++ segment) false
        else .again (received ++ segment)

/-- The loop of `receive_message`. Behind the last round of a script the clock
reads past the deadline. -/
def receiveLoop (size : Nat) (timeout start : Int) : List Round → Bytes → EspErr × Bytes × Bool
  | [], received => (.timeout, received, false)
  | r :: rs, received => match receiveRound size timeout start received r with
    | .stop status received closed => (status, received, closed)
    | .again received => receiveLoop size timeout start rs received

structure WaitScript where
  start : Int
  rounds : List Round

/-- The status and the bytes received in this call; the message buffer holds them
with a terminator behind, or what it held before when there are none. -/
def receiveMessage (w : WaitScript) (size : Nat) (timeout : Int) (c : TcpClient) :
    EspErr × Bytes × TcpClient :=
  if size ≤ 1 then (.invalidArg, [], c)
  else
    let (status, received, closed) := receiveLoop size timeout w.start w.rounds []
    (status, received, if closed then { c with isConnected := false } else c)

def initLoop : List (ConnectScript × Bool) → TcpClient → EspErr × TcpClient
  | [], c => (.fail, c)
  | (k, reset) :: ks, c => match connectToServer k c with
    | (.ok, c) => (.ok, c)
    | (_, c) => initLoop ks (if reset then c else close c)

/-- `init` takes up to three attempts; each comes with whether `errno` is
`ECONNRESET` behind it. -/
def init (host : Bytes) (port : UInt16) (attempts : Fin 3 → ConnectScript × Bool)
    (c : TcpClient) : EspErr × TcpClient :=
  let c := if c.sock.isSome then close c else c
  initLoop (List.ofFn attempts) { c with host, port }

theorem receiveRound_prefix {size : Nat} {timeout start : Int} {received : Bytes} {r : Round}
    {status : EspErr} {got : Bytes} {closed : Bool}
    (h : receiveRound size timeout start received r = .stop status got closed) :
    received <+: got := by
  rw [receiveRound] at h
  split at h
  · cases h; exact List.prefix_rfl
  · split at h
    · cases h; exact List.prefix_rfl
    · cases h; exact List.prefix_rfl
    · cases h; exact List.prefix_rfl
    · dsimp only at h
      split at h
      · cases h; exact List.prefix_rfl
      · split at h
        · cases h; exact List.prefix_append _ _
        · split at h <;> cases h
          exact List.prefix_append _ _

theorem receiveRound_quiet {size : Nat} {timeout start : Int} {received : Bytes} {r : Round}
    (ht : elapsed start r.now < timeout) (hq : r.slice = .quiet) :
    receiveRound size timeout start received r = .stop .ok received false := by
  rw [receiveRound, if_neg (by omega), hq]

theorem receiveRound_segment {size : Nat} {timeout start : Int} {received bytes : Bytes} {r : Round}
    (ht : elapsed start r.now < timeout) (hr : r.slice = .data bytes) (hb : bytes ≠ [])
    (hfit : (received ++ bytes).length < size - 1) :
    receiveRound size timeout start received r =
      if complete (received ++ bytes) then .stop .ok (received ++ bytes) false
      else .again (received ++ bytes) := by
  have htake : bytes.take (size - received.length - 1) = bytes := by
    rw [List.length_append] at hfit
    exact List.take_of_length_le (by omega)
  rw [receiveRound, if_neg (by omega), hr]
  dsimp only
  rw [htake, if_neg hb, if_neg (Nat.not_le.mpr hfit)]

/-- A round goes on exactly with data in time that neither completes the message nor
fills the buffer. -/
theorem receiveRound_again_iff {size : Nat} {timeout start : Int} {received got : Bytes} {r : Round} :
    receiveRound size timeout start received r = .again got ↔
      elapsed start r.now < timeout ∧ ∃ bytes, r.slice = .data bytes ∧
        bytes.take (size - received.length - 1) ≠ [] ∧
        got = received ++ bytes.take (size - received.length - 1) ∧
        ¬ complete got ∧ got.length < size - 1 := by
  rw [receiveRound]
  by_cases ht : timeout ≤ elapsed start r.now
  · rw [if_pos ht]
    exact iff_of_false nofun fun h => by omega
  · rw [if_neg ht]
    have ht' : elapsed start r.now < timeout := by omega
    cases hs : r.slice with
    | quiet | selectError | recvError => exact iff_of_false nofun fun ⟨_, _, h, _⟩ => nomatch h
    | data bytes =>
        dsimp only
        constructor
        · intro h
          split at h
          · cases h
          · rename_i hseg
            split at h
            · cases h
            · rename_i hc
              split at h
              · cases h
              · rename_i hfull
                cases h
                exact ⟨ht', bytes, rfl, hseg, rfl, hc, by omega⟩
        · rintro ⟨-, bytes', hb, hseg, rfl, hc, hfull⟩
          cases hb
          rw [if_neg hseg, if_neg hc, if_neg (by omega)]

/-- A round that ends the wait with success was quiet, or its data completed the
message; the connection stays up. -/
theorem receiveRound_ok {size : Nat} {timeout start : Int} {received got : Bytes} {r : Round}
    {closed : Bool} (h : receiveRound size timeout start received r = .stop .ok got closed) :
    elapsed start r.now < timeout ∧ closed = false ∧ ((r.slice = .quiet ∧ got = received) ∨
      ∃ segment, segment ≠ [] ∧ got = received ++ segment ∧ complete got) := by
  rw [receiveRound] at h
  split at h
  · cases h
  · rename_i ht
    refine ⟨by omega, ?_⟩
    split at h
    · rename_i hs
      cases h
      exact ⟨rfl, Or.inl ⟨hs, rfl⟩⟩
    · cases h
    · cases h
    · dsimp only at h
      split at h
      · cases h
      · rename_i hseg
        split at h
        · rename_i hc
          obtain ⟨-, hg, hclosed⟩ := RoundEnd.stop.inj h
          subst hg
          exact ⟨hclosed.symm, Or.inr ⟨_, hseg, rfl, hc⟩⟩
        · split at h <;> cases h

theorem receiveLoop_ok_open {size : Nat} {timeout start : Int} {rounds : List Round}
    {received : Bytes} (h : (receiveLoop size timeout start rounds received).1 = .ok) :
    (receiveLoop size timeout start rounds received).2.2 = false := by
  induction rounds generalizing received with
  | nil => cases h
  | cons r rs ih =>
      rw [receiveLoop] at h ⊢
      cases hr : receiveRound size timeout start received r with
      | stop status got closed =>
          rw [hr] at h
          cases h
          exact (receiveRound_ok hr).2.1
      | again got =>
          rw [hr] at h
          exact ih h

end BandDecoder.Tcp
