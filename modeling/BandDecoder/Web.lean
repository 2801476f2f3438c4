import BandDecoder.Cat
import Mathlib.Data.Rat.Floor

namespace BandDecoder.Web

open CStrings SwitchConfig Config Relay Switch Cat Loops

/-- A parsed document. Numbers keep their exact value; object members keep their
order and their keys as written. -/
inductive Json
  | null
  | bool (b : Bool)
  | number (valuedouble : Rat)
  | string (valuestring : Bytes)
  | array (items : List Json)
  | object (members : List (Bytes × Json))

def lower (b : UInt8) : UInt8 := if 65 ≤ b && b ≤ 90 then b + 32 else b

namespace Json

/-- `cJSON_GetObjectItem` compares keys without regard to case. -/
def getObjectItem (j : Json) (name : String) : Option Json :=
  match j with
  | .object members =>
      (members.find? fun p => decide ((cstr p.1).map lower = (text name).map lower)).map Prod.snd
  | _ => none

def isTrue : Option Json → Bool
  | some (.bool b) => b
  | _ => false

/-- `valueint` truncates towards zero and saturates at the range of `int`. -/
def valueint (v : Rat) : Int :=
  if 2147483647 ≤ v then 2147483647
  else if v ≤ -2147483648 then -2147483648
  else if 0 ≤ v then ⌊v⌋ else ⌈v⌉

def number? : Option Json → Option Int
  | some (.number v) => some (valueint v)
  | _ => none

def string? : Option Json → Option Bytes
  | some (.string s) => some (cstr s)
  | _ => none

def array? : Option Json → Option (List Json)
  | some (.array items) => some items
  | _ => none

end Json

structure BandInfo where
  name : String
  startFreq : UInt32
  endFreq : UInt32

def bandInfo : List BandInfo :=
  [⟨"160m", 1800000, 2000000⟩, ⟨"80m", 3500000, 4000000⟩, ⟨"40m", 7000000, 7300000⟩,
    ⟨"30m", 10100000, 10150000⟩, ⟨"20m", 14000000, 14350000⟩, ⟨"17m", 18068000, 18168000⟩,
    ⟨"15m", 21000000, 21450000⟩, ⟨"12m", 24890000, 24990000⟩, ⟨"10m", 28000000, 29700000⟩,
    ⟨"6m", 50000000, 54000000⟩]

structure HttpError where
  status : Nat
  message : String
  deriving DecidableEq, Repr

def badRequest (message : String) : HttpError := ⟨400, message⟩

def serverError (message : String) : HttpError := ⟨500, message⟩

def requireNumber (root : Json) (name message : String) : Except HttpError Int :=
  match Json.number? (root.getObjectItem name) with
  | some v => .ok v
  | none => .error (badRequest message)

def requireValid (root : Json) (name : String) (valid : Int → Bool) (missing invalid : String) :
    Except HttpError Int := do
  let v ← requireNumber root name missing
  if valid v then pure v else throw (badRequest invalid)

def tcpPortOf (root : Json) : Except HttpError Int :=
  requireValid root "tcp_port" (fun v => 0 < v && v ≤ 65535) "Invalid or missing TCP port"
    "Invalid TCP port"

def uartBaudRateOf (root : Json) : Except HttpError Int :=
  requireValid root "uart_baud_rate" (fun v => 0 < v) "Invalid or missing baud rate"
    "Invalid baud rate"

def uartParityOf (root : Json) : Except HttpError Int :=
  requireNumber root "uart_parity" "Invalid or missing UART parity"

def uartStopBitsOf (root : Json) : Except HttpError Int :=
  requireNumber root "uart_stop_bits" "Invalid or missing UART stop bits"

def uartFlowCtrlOf (root : Json) : Except HttpError Int :=
  requireNumber root "uart_flow_ctrl" "Invalid or missing UART flow control"

def numBandsOf (root : Json) : Except HttpError Int :=
  requireValid root "num_bands" (fun v => 0 < v && v ≤ MAX_BANDS) "Invalid or missing num_bands"
    "Invalid number of bands"

def numAntennaPortsOf (root : Json) : Except HttpError Int :=
  requireValid root "num_antenna_ports" (fun v => 0 < v && v ≤ MAX_ANTENNA_PORTS)
    "Invalid or missing num_antenna_ports" "Invalid number of antenna ports"

def portsOf (band : Json) : Fin MAX_ANTENNA_PORTS → Bool :=
  match Json.array? (band.getObjectItem "antenna_ports") with
  | some items => fun j => Json.isTrue items[j.val]?
  | none => fun _ => false

def bandOf : Option Json → BandConfig
  | some (.object members) =>
      let band := Json.object members
      let info := (Json.string? (band.getObjectItem "description")).bind fun s =>
        bandInfo.find? fun e => decide (text e.name = s)
      match info with
      | some e => ⟨CharArray.strncpy (text e.name), e.startFreq, e.endFreq, portsOf band⟩
      | none => { BandConfig.zero with antennaPorts := portsOf band }
  | _ => BandConfig.zero

def configOf (root : Json) : Except HttpError AntennaSwitchConfig := do
  let tcpHost := match Json.string? (root.getObjectItem "tcp_host") with
    | some s => CharArray.strncpy s
    | none => CharArray.zero
  let tcpPort ← tcpPortOf root
  let uartBaudRate ← uartBaudRateOf root
  let uartParity ← uartParityOf root
  let uartStopBits ← uartStopBitsOf root
  let uartFlowCtrl ← uartFlowCtrlOf root
  let numBands ← numBandsOf root
  let numAntennaPorts ← numAntennaPortsOf root
  let bands := Json.array? (root.getObjectItem "bands")
  pure
    { autoMode := Json.isTrue (root.getObjectItem "auto_mode")
      numBands := match bands with
        | some items => UInt8.ofNat items.length
        | none => UInt8.ofInt numBands
      numAntennaPorts := UInt8.ofInt numAntennaPorts
      bands := match bands with
        | some items => fun i => bandOf items[i.val]?
        | none => fun _ => BandConfig.zero
      tcpHost := tcpHost
      tcpPort := UInt16.ofInt tcpPort
      uartBaudRate := uartBaudRate
      uartParity := UInt8.ofInt uartParity
      uartStopBits := UInt8.ofInt uartStopBits
      uartFlowCtrl := UInt8.ofInt uartFlowCtrl }

def postDocument (w : NvsWrite) (root : Json) (d : Device) : Except HttpError Unit × Device :=
  match configOf root with
  | .error e => (.error e, d)
  | .ok config => match Config.updateConfig w config d.configManager with
    | (.ok, m) => (.ok (), Cat.updateConfig { d with configManager := m })
    | (_, m) => (.error (serverError "Failed to set configuration"), { d with configManager := m })

def MAX_POST_SIZE : Nat := 4096

/-- What the server gives `config_post_handler`: the announced length, whether
`malloc` succeeds and what its memory held, and the bytes of the one
`httpd_req_recv` call, or `none` when it fails. -/
structure PostRequest where
  contentLen : Nat
  allocated : Bool
  memory : Nat → UInt8
  received : Option Bytes

/-- The buffer handed to `cJSON_Parse`, up to its terminator. -/
def contentOf (r : PostRequest) (received : Bytes) : Bytes :=
  (List.range r.contentLen).map fun i => (received.take r.contentLen).getD i (r.memory i)

def configPostHandler (parse : Bytes → Option Json) (w : NvsWrite) (r : PostRequest) (d : Device) :
    Except HttpError Unit × Device :=
  if MAX_POST_SIZE < r.contentLen then (.error (badRequest "Content too large"), d)
  else if !r.allocated then (.error (serverError "Failed to allocate memory"), d)
  else match r.received with
    | none | some [] => (.error (serverError "Failed to receive data"), d)
    | some (b :: received) => match parse (cstr (contentOf r (b :: received))) with
      | none => (.error (badRequest "Invalid JSON"), d)
      | some root => postDocument w root d

/-- GET `/config` repairs an invalid number of bands before it shows the page. -/
def configGetHandler (w : NvsWrite) (d : Device) : Except HttpError Unit × Device :=
  let config := d.configManager.currentConfig
  let (saved, m) :=
    if config.numBands.toNat ≤ 0 ∨ MAX_BANDS < config.numBands.toNat then
      Config.updateConfig w { config with numBands := 1 } d.configManager
    else (.ok, d.configManager)
  let d := { d with configManager := m }
  if saved ≠ .ok then (.error (serverError "Failed to save corrected configuration"), d)
  else if MAX_ANTENNA_PORTS < config.numAntennaPorts.toNat then
    (.error (serverError "Invalid configuration: number of antenna ports out of range"), d)
  else (.ok (), d)

def toggleAutoModeHandler (w : NvsWrite) (d : Device) : Except HttpError Unit × Device :=
  let config := d.configManager.currentConfig
  match Config.updateConfig w { config with autoMode := !config.autoMode } d.configManager with
  | (.ok, m) => (.ok (), { d with configManager := m })
  | (_, m) => (.error (serverError "Failed to set configuration"), { d with configManager := m })

def resetBand (e : BandInfo) : BandConfig :=
  ⟨CharArray.strncpy (text e.name), e.startFreq, e.endFreq, fun j => j.val = 0⟩

def resetConfig : AntennaSwitchConfig where
  autoMode := true
  numBands := 10
  numAntennaPorts := 1
  bands := fun i => match bandInfo[i.val]? with
    | some e => resetBand e
    | none => BandConfig.zero
  tcpHost := CharArray.zero
  tcpPort := 0
  uartBaudRate := 9600
  uartParity := 0
  uartStopBits := 1
  uartFlowCtrl := 0

def resetConfigHandler (w : NvsWrite) (d : Device) : Except HttpError Unit × Device :=
  match Config.updateConfig w resetConfig d.configManager with
  | (.ok, m) => (.ok (), { d with configManager := m })
  | (_, m) => (.error (serverError "Failed to reset configuration"), { d with configManager := m })

def findActivePort (currentFreq : UInt32) (config : AntennaSwitchConfig) : Nat := Id.run do
  let mut activeAntenna := 0
  for i in List.range config.numBands.toNat do
    if (config.band i).contains currentFreq then
      for j in List.range config.numAntennaPorts.toNat do
        if (config.band i).port j then
          activeAntenna := j + 1
          break
      break
  return activeAntenna

/-- Everything a POST can do: fail before there is a document, or leave the rest to the
document. -/
theorem configPostHandler_cases (parse : Bytes → Option Json) (w : NvsWrite) (r : PostRequest)
    (d : Device) :
    (∃ e, configPostHandler parse w r d = (.error e, d)) ∨
    ∃ b received root, r.received = some (b :: received) ∧
      parse (cstr (contentOf r (b :: received))) = some root ∧
      configPostHandler parse w r d = postDocument w root d := by
  rw [configPostHandler]
  split
  · exact Or.inl ⟨_, rfl⟩
  · split
    · exact Or.inl ⟨_, rfl⟩
    · split
      · exact Or.inl ⟨_, rfl⟩
      · exact Or.inl ⟨_, rfl⟩
      · rename_i b received hr
        split
        · exact Or.inl ⟨_, rfl⟩
        · rename_i root hroot
          exact Or.inr ⟨b, received, root, hr, hroot, rfl⟩

theorem answered_snd (w : NvsWrite) (c : AntennaSwitchConfig) (e : HttpError) (d : Device) :
    (match Config.updateConfig w c d.configManager with
      | (.ok, m) => ((.ok (), { d with configManager := m }) : Except HttpError Unit × Device)
      | (_, m) => (.error e, { d with configManager := m })).2 =
      { d with configManager := (Config.updateConfig w c d.configManager).2 } := by
  cases Config.updateConfig w c d.configManager with
  | mk status m => cases status <;> rfl

theorem answered_ok {w : NvsWrite} {c : AntennaSwitchConfig} {e : HttpError} {d d' : Device}
    (h : (match Config.updateConfig w c d.configManager with
      | (.ok, m) => ((.ok (), { d with configManager := m }) : Except HttpError Unit × Device)
      | (_, m) => (.error e, { d with configManager := m })) = (.ok (), d')) :
    d' = { d with configManager := Config.stored c d.configManager } := by
  split at h
  · rename_i m hm
    obtain ⟨-, rfl⟩ := Config.updateConfig_ok hm
    cases h
    rfl
  · cases h

theorem resetConfigHandler_snd (w : NvsWrite) (d : Device) :
    (resetConfigHandler w d).2 =
      { d with configManager := (Config.updateConfig w resetConfig d.configManager).2 } :=
  answered_snd w resetConfig _ d

theorem toggleAutoModeHandler_snd (w : NvsWrite) (d : Device) :
    (toggleAutoModeHandler w d).2 =
      { d with configManager := (Config.updateConfig w
        { d.configManager.currentConfig with autoMode := !d.configManager.currentConfig.autoMode }
        d.configManager).2 } :=
  answered_snd w _ _ d

end BandDecoder.Web
