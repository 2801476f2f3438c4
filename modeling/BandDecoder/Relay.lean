import BandDecoder.Tcp
import BandDecoder.StateReply

namespace BandDecoder.Relay

open CStrings SwitchConfig Tcp StateReply

structure RelayChangeRequest where
  relayId : Int
  bandNumber : Int
  deriving DecidableEq, Repr

def noRequest : RelayChangeRequest := ⟨0, -1⟩

/-- `response` is the static buffer of `send_command`: the text of the last call
that received anything. -/
structure RelayController where
  tcpClient : TcpClient
  tcpHost : Bytes
  tcpPort : UInt16
  relayStates : Int → Option Bool
  lastSelectedRelayForBand : Int → Option Int
  currentlySelectedRelay : Int
  relayStateBitfield : BitVec 16
  latestRequest : RelayChangeRequest
  response : Bytes

def construct : RelayController where
  tcpClient := Tcp.fresh
  tcpHost := []
  tcpPort := 0
  relayStates := fun _ => none
  lastSelectedRelayForBand := fun _ => none
  currentlySelectedRelay := 0
  relayStateBitfield := 0
  latestRequest := noRequest
  response := []

/-- `relay_states_[i]` as an rvalue. -/
def isOn (c : RelayController) (i : Int) : Bool := (c.relayStates i).getD false

/-- `none` where `relay_states_.at(relay_id)` throws. -/
def getRelayState (relayId : Int) (c : RelayController) : Option Bool :=
  if relayId < 1 ∨ NUM_RELAYS < relayId then some false else c.relayStates relayId

def writeStates (f : Int → Bool) (states : Int → Option Bool) : Int → Option Bool :=
  fun i => if 1 ≤ i ∧ i ≤ NUM_RELAYS then some (f i) else states i

def setRelayForAntenna (relayId bandNumber : Int) (c : RelayController) :
    EspErr × RelayController :=
  if relayId < 1 ∨ NUM_RELAYS < relayId then (.invalidArg, c)
  else if c.latestRequest.relayId = relayId ∧ c.latestRequest.bandNumber = bandNumber then (.ok, c)
  else (.ok, { c with latestRequest := ⟨relayId, bandNumber⟩ })

def setRelay (relayId : Int) (state : Bool) (c : RelayController) : EspErr × RelayController :=
  if relayId < 1 ∨ NUM_RELAYS < relayId then (.invalidArg, c)
  else if c.relayStateBitfield.getLsbD (relayId - 1).toNat = state then (.ok, c)
  else (.ok, { c with latestRequest := ⟨relayId, 0⟩ })

def takePattern (v : BitVec 16) (c : RelayController) : RelayController :=
  { c with
    relayStateBitfield := v
    currentlySelectedRelay := ffs v
    relayStates := writeStates (fun i => v.getLsbD (i - 1).toNat) c.relayStates }

def parseRelayStateResponse (response : Bytes) (c : RelayController) :
    EspErr × RelayController :=
  match parse response with
  | none => (.fail, c)
  | some v => (.ok, takePattern v c)

/-- What the network does during one `send_command`: the connection check, the
send and the wait for the reply. -/
structure Exchange where
  ensure : EnsureScript
  send : SendScript
  wait : WaitScript

def setAllCmd : Bytes := text "RELAY-SET_ALL"

def stateCmd : Bytes := text "RELAY-STATE-255"

def transmit (ensure : EnsureScript) (send : SendScript) (command : Bytes) (c : RelayController) :
    EspErr × RelayController :=
  match ensureConnected ensure c.tcpClient with
  | (.ok, tcp) =>
      let (status, _, tcp) := sendMessage send (command.take 126 ++ [10]) tcp
      (status, { c with tcpClient := tcp })
  | (e, tcp) => (e, { c with tcpClient := tcp })

/-- The wait of `send_command`; the response buffer keeps its text when nothing
arrives. -/
def awaitReply (wait : WaitScript) (timeout : Int) (c : RelayController) :
    EspErr × Bytes × RelayController :=
  let (status, received, tcp) := receiveMessage wait 256 timeout c.tcpClient
  (status, received,
    { c with tcpClient := tcp, response := if received = [] then c.response else received })

def processResponse (command expected : Bytes) (c : RelayController) :
    EspErr × RelayController :=
  if setAllCmd <:+: command then
    if text ",OK" <:+: cstr c.response then
      (.ok, (parseRelayStateResponse (cstr c.response) c).2)
    else (.fail, c)
  else if stateCmd <:+: command then parseRelayStateResponse (cstr c.response) c
  else if expected ≠ [] then
    if expected <:+: cstr c.response then (.ok, c) else (.fail, c)
  else (.fail, c)

def commandTimeout (command : Bytes) (timeout : Int) : Int :=
  if setAllCmd <:+: command then max timeout 1000 else timeout

def sendCommand (x : Exchange) (command expected : Bytes) (timeout : Int) (c : RelayController) :
    EspErr × RelayController :=
  match transmit x.ensure x.send command c with
  | (.ok, c) => match awaitReply x.wait (commandTimeout command timeout) c with
    | (.ok, _, c) => processResponse command expected c
    | (e, _, c) => (e, c)
  | (e, c) => (e, c)

def turnOffAllRelays (x : Exchange) (c : RelayController) : EspErr × RelayController :=
  match sendCommand x (text "RELAY-AOF-255,1,1") (text "255,1,1,OK") 500 c with
  | (.ok, c) => (.ok,
      { c with
        relayStates := writeStates (fun _ => false) c.relayStates
        currentlySelectedRelay := 0 })
  | (e, c) => (e, c)

def updateAllRelayStates (x : Exchange) (c : RelayController) : EspErr × RelayController :=
  sendCommand x stateCmd (text "OK") 500 c

def updateRelayStates (x : Exchange) (c : RelayController) : EspErr × RelayController :=
  match updateAllRelayStates x c with
  | (.ok, c) => (.ok, c)
  | (e, c) => (e, c)

/-- The connection attempts of `RelayController::init` and its state queries. -/
structure InitScript where
  attempts : Fin 3 → ConnectScript × Bool
  queries : Fin 3 → Exchange

def queryStates : List Exchange → RelayController → RelayController
  | [], c => c
  | x :: xs, c => match updateAllRelayStates x c with
    | (.ok, c) => c
    | (_, c) => queryStates xs c

/-- `ESP_OK` stands directly behind the call that creates `tcp_task`, and nowhere else. -/
def RelayController.init (s : InitScript) (c : RelayController) : EspErr × RelayController :=
  if c.tcpHost = [] then (.invalidState, c)
  else match Tcp.init (cstr c.tcpHost) c.tcpPort s.attempts c.tcpClient with
    | (.ok, tcp) => (.ok, queryStates (List.ofFn s.queries) { c with tcpClient := tcp })
    | (e, tcp) => (e, { c with tcpClient := tcp })

structure SettingsScript where
  soError : Bool
  ensure : EnsureScript
  verify : Exchange

def dropped (soError : Bool) (tcp : TcpClient) : TcpClient :=
  match checkConnectionStatus soError tcp with
  | (true, tcp) => Tcp.close tcp
  | (false, tcp) => tcp

def updateTcpSettings (s : SettingsScript) (host : Bytes) (port : UInt16) (c : RelayController) :
    EspErr × RelayController :=
  if host ≠ c.tcpHost ∨ port ≠ c.tcpPort then
    match ensureConnected s.ensure (dropped s.soError c.tcpClient) with
    | (.ok, tcp) => (.ok, (updateAllRelayStates s.verify
        { c with tcpHost := host, tcpPort := port, tcpClient := tcp }).2)
    | (e, tcp) => (e, { c with tcpHost := host, tcpPort := port, tcpClient := tcp })
  else (.ok, c)

def dataByte1 (relay : Int) : UInt8 := if relay ≤ 8 then 0 else 1 <<< UInt8.ofNat (relay - 9).toNat

def dataByte0 (relay : Int) : UInt8 := if relay ≤ 8 then 1 <<< UInt8.ofNat (relay - 1).toNat else 0

def setAllCommand (d1 d0 : UInt8) : Bytes :=
  text "RELAY-SET_ALL-255," ++ decimal d1.toNat ++ text "," ++ decimal d0.toNat

def setAllSuffix (d1 d0 : UInt8) : Bytes :=
  decimal d1.toNat ++ text "," ++ decimal d0.toNat ++ text ",OK"

def recordOnly (relay : Int) (c : RelayController) : RelayController :=
  { c with
    relayStates := writeStates (fun i => decide (i = relay)) c.relayStates
    currentlySelectedRelay := relay }

def turnOffAllRelaysExcept (x : Exchange) (relay : Int) (c : RelayController) :
    EspErr × RelayController :=
  if relay < 1 ∨ NUM_RELAYS < relay then (.invalidArg, c)
  else match sendCommand x (setAllCommand (dataByte1 relay) (dataByte0 relay))
      (setAllSuffix (dataByte1 relay) (dataByte0 relay)) 500 c with
    | (.ok, c) => (.ok, recordOnly relay c)
    | (e, c) => (e, c)

def recordForBand (band relay : Int) (c : RelayController) : RelayController :=
  { c with
    lastSelectedRelayForBand := fun b => if b = band then some relay else c.lastSelectedRelayForBand b }

def getLastSelectedRelayForBand (band : Int) (c : RelayController) : Int :=
  (c.lastSelectedRelayForBand band).getD 0

def isCorrectRelaySet (band : Int) (c : RelayController) : Bool :=
  decide (c.currentlySelectedRelay = getLastSelectedRelayForBand band c ∧
    getLastSelectedRelayForBand band c ≠ 0)

def executeRelayChange (x : Exchange) (relay band : Int) (c : RelayController) :
    EspErr × RelayController :=
  if relay = c.currentlySelectedRelay then (.ok, recordForBand band relay c)
  else match turnOffAllRelaysExcept x relay c with
    | (.ok, c) =>
        if c.currentlySelectedRelay = relay then (.ok, recordForBand band relay c) else (.fail, c)
    | (e, c) => (e, c)

/-- Skipped as a duplicate or not, an accepted request stands in the mailbox. -/
theorem setRelayForAntenna_cases (relay band : Int) (c : RelayController) :
    (¬ (1 ≤ relay ∧ relay ≤ NUM_RELAYS) ∧ setRelayForAntenna relay band c = (.invalidArg, c)) ∨
    (1 ≤ relay ∧ relay ≤ NUM_RELAYS ∧
      setRelayForAntenna relay band c = (.ok, { c with latestRequest := ⟨relay, band⟩ })) := by
  rw [setRelayForAntenna]
  by_cases hr : relay < 1 ∨ NUM_RELAYS < relay
  · rw [if_pos hr]
    exact Or.inl ⟨by omega, rfl⟩
  · rw [if_neg hr]
    refine Or.inr ⟨by omega, by omega, ?_⟩
    split
    · rename_i hd
      have hq : c.latestRequest = ⟨relay, band⟩ := by
        rw [← hd.1, ← hd.2]
      rw [← hq]
    · rfl

end BandDecoder.Relay
