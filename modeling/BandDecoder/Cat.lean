import BandDecoder.Framing
import BandDecoder.Switch

namespace BandDecoder.Cat

open CStrings SwitchConfig Config Relay Switch Loops

inductive Mode
  | unset
  | lsb
  | usb
  | cwU
  | fm
  | am
  | digL
  | cwL
  | digU
  | unknown
  deriving DecidableEq, Repr

structure CatParser where
  currentConfig : AntennaSwitchConfig
  currentFrequency : UInt32
  currentBandIndex : Int
  transmitting : Bool
  currentMode : Mode

structure Device where
  configManager : ConfigManager
  catParser : CatParser
  relayController : RelayController

def getBandIndex (freq : UInt32) (p : CatParser) : Int := Id.run do
  if freq = p.currentFrequency ∧ p.currentBandIndex ≠ -1 then
    return p.currentBandIndex
  for i in List.range p.currentConfig.numBands.toNat do
    if (p.currentConfig.band i).contains freq then
      return i
  return -1

def updateConfig (d : Device) : Device :=
  { d with catParser := { d.catParser with currentConfig := d.configManager.currentConfig } }

/-- `CatParser::init` as far as the configuration goes. -/
def init (w : NvsWrite) (d : Device) : EspErr × Device :=
  let config := d.configManager.currentConfig
  if config.uartBaudRate ≤ 0 then
    let config := { config with uartBaudRate := 9600 }
    let (e, m) := Config.updateConfig w config d.configManager
    (e, { d with configManager := m, catParser := { d.catParser with currentConfig := config } })
  else (.ok, { d with catParser := { d.catParser with currentConfig := config } })

def handleFrequencyChange (frequency : UInt32) (d : Device) : EspErr × Device :=
  if frequency = d.catParser.currentFrequency then (.ok, d)
  else
    let newBandIndex := getBandIndex frequency d.catParser
    let cached := { d.catParser with
      currentFrequency := frequency, currentBandIndex := newBandIndex }
    if d.catParser.currentBandIndex ≠ newBandIndex then
      match antennaSwitchSetFrequency d.configManager.currentConfig frequency d.relayController with
      | (.ok, c) => (.ok, { d with relayController := c, catParser := cached })
      | (e, c) => (e, { d with relayController := c })
    else (.ok, { d with catParser := cached })

/-- A frequency report never fails, and its relay request depends on the band index
alone. -/
theorem handleFrequencyChange_eq (frequency : UInt32) (d : Device) :
    handleFrequencyChange frequency d = (.ok,
      if frequency = d.catParser.currentFrequency then d
      else
        { d with
          relayController :=
            if getBandIndex frequency d.catParser = d.catParser.currentBandIndex then
              d.relayController
            else
              { d.relayController with
                latestRequest := (choice d.configManager.currentConfig frequency).getD
                  d.relayController.latestRequest }
          catParser := { d.catParser with
            currentFrequency := frequency
            currentBandIndex := getBandIndex frequency d.catParser } }) := by
  rw [handleFrequencyChange]
  by_cases hf : frequency = d.catParser.currentFrequency
  · rw [if_pos hf, if_pos hf]
  · rw [if_neg hf, if_neg hf]
    dsimp only
    by_cases hb : getBandIndex frequency d.catParser = d.catParser.currentBandIndex
    · rw [if_neg (not_not.mpr hb.symm), if_pos hb]
    · rw [if_pos (Ne.symm hb), if_neg hb, antennaSwitchSetFrequency_eq]

def processFaCommand (command : Bytes) (d : Device) : EspErr × Device :=
  let (frequency, stop) := strtoul 32 command
  if charAt command stop ≠ 0 then (.ok, d)
  else handleFrequencyChange (UInt32.ofNat frequency) d

def modeOf (c : UInt8) : Mode :=
  if c = 49 then .lsb
  else if c = 50 then .usb
  else if c = 51 then .cwU
  else if c = 52 then .fm
  else if c = 53 then .am
  else if c = 54 then .digL
  else if c = 55 then .cwL
  else if c = 57 then .digU
  else .unknown

def processIfCommand (command : Bytes) (d : Device) : EspErr × Device :=
  if command.length < 35 then (.ok, d)
  else
    let freqStr := command.take 11
    let (frequency, stop) := strtoul 32 freqStr
    if charAt freqStr stop ≠ 0 then (.ok, d)
    else handleFrequencyChange (UInt32.ofNat frequency)
      { d with catParser :=
        { d.catParser with
          transmitting := charAt command 26 = 49
          currentMode := modeOf (charAt command 27) } }

def processApCommand (w : NvsWrite) (command : Bytes) (d : Device) : EspErr × Device :=
  let (ports, stop) := strtoul 32 command
  if charAt command stop ≠ 0 then (.invalidArg, d)
  else
    let (e, m) := Config.updateConfig w
      { d.configManager.currentConfig with numAntennaPorts := UInt8.ofNat ports } d.configManager
    (e, { d with configManager := m })

inductive CatCommand
  | fa (param : Bytes)
  | info (param : Bytes)
  deriving DecidableEq, Repr

def decode (cmd : Bytes) : Option CatCommand :=
  if 2 ≤ cmd.length then
    if cmd.take 2 = text "FA" then some (.fa (cmd.drop 2))
    else if cmd.take 2 = text "IF" then some (.info (cmd.drop 2))
    else none
  else none

def semicolon : UInt8 := 59

/-- What `uart_task` does with one command. `call` is what a handler call does to
the state: run the handler on the device, or only note the call. -/
def dispatch {σ : Type*} (call : CatCommand → σ → σ) (s : σ) (cmd : Bytes) : σ :=
  match decode cmd with
  | some c => call c s
  | none => s

def drain {σ : Type*} (call : CatCommand → σ → σ) (s : σ) (accumulator : Bytes) : σ × Bytes :=
  match h : accumulator.findIdx? (· = semicolon) with
  | none => (s, accumulator)
  | some pos =>
      drain call (dispatch call s (accumulator.take pos)) (accumulator.drop (pos + 1))
termination_by accumulator.length
decreasing_by
  have := (List.findIdx?_eq_some_iff_findIdx_eq.mp h).1
  rw [List.length_drop]
  omega

/-- One `UART_DATA` event of which `uart_read_bytes` takes the given bytes: they
are appended as a C string. -/
def uartData {σ : Type*} (call : CatCommand → σ → σ) (st : σ × Bytes) (read : Bytes) : σ × Bytes :=
  if read = [] then st else drain call st.1 (st.2 ++ cstr read)

inductive UartEvent
  | data (read : Bytes)
  | overflow
  | other

def uartEvent {σ : Type*} (call : CatCommand → σ → σ) (st : σ × Bytes) : UartEvent → σ × Bytes
  | .data read => uartData call st read
  | .overflow => (st.1, [])
  | .other => st

def uartTask {σ : Type*} (call : CatCommand → σ → σ) (s : σ) (events : List UartEvent) : σ × Bytes :=
  events.foldl (uartEvent call) (s, [])

def runCommand : CatCommand → Device → Device
  | .fa param, d => (processFaCommand param d).2
  | .info param, d => (processIfCommand param d).2

/-- The code that `process_command` looks up: the first two bytes, big end first. -/
def cmdCode (b0 b1 : UInt8) : UInt16 := b0.toUInt16 <<< 8 ||| b1.toUInt16

def runHandler (w : NvsWrite) (cmd : Bytes) (d : Device) : EspErr × Device :=
  match cmd with
  | b0 :: b1 :: param =>
      if cmdCode b0 b1 = cmdCode 70 65 then processFaCommand param d
      else if cmdCode b0 b1 = cmdCode 65 80 then processApCommand w param d
      else if cmdCode b0 b1 = cmdCode 73 70 then processIfCommand param d
      else (.ok, d)
  | _ => (.ok, d)

/-- `cmd_str.find(';', start)`, or the length where there is none. -/
def stopOf (cmdStr : Bytes) (start : Nat) : Nat :=
  match (cmdStr.drop start).findIdx? (· = semicolon) with
  | some i => start + i
  | none => cmdStr.length

theorem le_stopOf {cmdStr : Bytes} {start : Nat} (h : start < cmdStr.length) :
    start ≤ stopOf cmdStr start := by
  rw [stopOf]
  split <;> omega

/-- The scan of `process_command` from an offset; `nvs` gives the save results of
an `AP` command that starts at an offset. -/
def processFrom (nvs : Nat → NvsWrite) (cmdStr : Bytes) (start : Nat) (d : Device) :
    EspErr × Device :=
  if _h : start < cmdStr.length then
    let stop := stopOf cmdStr start
    match runHandler (nvs start) ((cmdStr.drop start).take (stop - start)) d with
    | (.ok, d) => processFrom nvs cmdStr (stop + 1) d
    | (e, d) => (e, d)
  else (.ok, d)
termination_by cmdStr.length - start
decreasing_by
  have := le_stopOf _h
  omega

def processCommand (nvs : Nat → NvsWrite) (command : Bytes) (d : Device) : EspErr × Device :=
  processFrom nvs (cstr command) 0 d

end BandDecoder.Cat
