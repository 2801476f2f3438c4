import BandDecoder.Loops
import BandDecoder.Config
import BandDecoder.Relay

namespace BandDecoder.Switch

open CStrings SwitchConfig Config Relay Loops

def antennaSwitchSetFrequency (config : AntennaSwitchConfig) (frequency : UInt32)
    (c : RelayController) : EspErr × RelayController := Id.run do
  if !config.autoMode then
    return (.ok, c)
  for i in List.range config.numBands.toNat do
    if (config.band i).contains frequency then
      for j in List.range config.numAntennaPorts.toNat do
        if (config.band i).port j then
          return setRelayForAntenna (j + 1) i c
      return (.ok, c)
  return (.ok, c)

def antennaSwitchSetAutoMode (w : NvsWrite) (autoMode : Bool) (m : ConfigManager) :
    EspErr × ConfigManager :=
  updateConfig w { m.currentConfig with autoMode } m

def antennaSwitchSetTcpPort (w : NvsWrite) (port : UInt16) (m : ConfigManager)
    (c : Option RelayController) : EspErr × ConfigManager × Option RelayController :=
  let (e, m) := updateConfig w { m.currentConfig with tcpPort := port } m
  (e, m, c.map fun c => { c with tcpPort := port })

/-- `reinit` is `RelayController::init` on the installed controller. -/
def antennaSwitchSetTcpHost (reinit : RelayController → EspErr × RelayController) (w : NvsWrite)
    (host : Bytes) (m : ConfigManager) (c : Option RelayController) :
    EspErr × ConfigManager × Option RelayController :=
  let config := { m.currentConfig with tcpHost := CharArray.strncpy host }
  match c with
  | none =>
      let (e, m) := updateConfig w config m
      (e, m, none)
  | some c => match reinit { c with tcpHost := host } with
    | (.ok, c) =>
        let (e, m) := updateConfig w config m
        (e, m, some c)
    | (e, c) => (e, m, some c)

def antennaSwitchSetRelay (relayId : Int) (state : Bool) (c : RelayController) :
    EspErr × RelayController :=
  setRelay relayId state c

/-- The relay and band that a configuration assigns to a frequency: the first
band around it, then that band's first enabled port. -/
def choice (config : AntennaSwitchConfig) (frequency : UInt32) : Option RelayChangeRequest :=
  if config.autoMode then
    (config.firstBand frequency).bind fun i : Nat =>
      (config.firstPort i).map fun j : Nat => ⟨j + 1, i⟩
  else none

theorem choice_range {config : AntennaSwitchConfig} {frequency : UInt32} {q : RelayChangeRequest}
    (h : choice config frequency = some q) : 1 ≤ q.relayId ∧ q.relayId ≤ MAX_ANTENNA_PORTS := by
  rw [choice] at h
  split at h
  · obtain ⟨i, _, hi⟩ := Option.bind_eq_some_iff.mp h
    obtain ⟨j, hj, rfl⟩ := Option.map_eq_some_iff.mp hi
    have := AntennaSwitchConfig.firstPort_lt hj
    dsimp only
    omega
  · cases h

def searchRelay {α : Type*} (config : AntennaSwitchConfig) (frequency : UInt32)
    (found : Int → Int → α) (skip : α) : α := Id.run do
  if !config.autoMode then
    return skip
  for i in List.range config.numBands.toNat do
    if (config.band i).contains frequency then
      for j in List.range config.numAntennaPorts.toNat do
        if (config.band i).port j then
          return found (j + 1) i
      return skip
  return skip

theorem searchRelay_choice {α : Type*} (config : AntennaSwitchConfig) (frequency : UInt32)
    (found : Int → Int → α) (skip : α) :
    searchRelay config frequency found skip =
      match choice config frequency with
      | some q => found q.relayId q.bandNumber
      | none => skip := by
  simp only [searchRelay, forIn_return, pure_bind, choice]
  cases config.autoMode with
  | false => rfl
  | true =>
      simp only [AntennaSwitchConfig.firstBand]
      generalize List.range config.numBands.toNat = l
      induction l with
      | nil => rfl
      | cons i l ih =>
          by_cases h : (config.band i).contains frequency
          · simp only [AntennaSwitchConfig.firstPort]
            cases hj : (List.range config.numAntennaPorts.toNat).find? (config.band i).port <;>
              simp [h, hj]
          · simpa [h] using ih

theorem antennaSwitchSetFrequency_choice (config : AntennaSwitchConfig) (frequency : UInt32)
    (c : RelayController) :
    antennaSwitchSetFrequency config frequency c =
      match choice config frequency with
      | some q => setRelayForAntenna q.relayId q.bandNumber c
      | none => (.ok, c) :=
  searchRelay_choice config frequency (fun relay band => setRelayForAntenna relay band c) (.ok, c)

theorem setRelayForAntenna_choice {config : AntennaSwitchConfig} {frequency : UInt32}
    {q : RelayChangeRequest} (h : choice config frequency = some q) (c : RelayController) :
    setRelayForAntenna q.relayId q.bandNumber c = (.ok, { c with latestRequest := q }) := by
  obtain ⟨h1, h8⟩ := choice_range h
  simp only [MAX_ANTENNA_PORTS] at h8
  rcases setRelayForAntenna_cases q.relayId q.bandNumber c with ⟨hr, -⟩ | ⟨-, -, hn⟩
  · refine absurd ⟨h1, ?_⟩ hr
    simp only [StateReply.NUM_RELAYS]
    omega
  · exact hn

/-- Setting a frequency never fails and writes the mailbox only. -/
theorem antennaSwitchSetFrequency_eq (config : AntennaSwitchConfig) (frequency : UInt32)
    (c : RelayController) :
    antennaSwitchSetFrequency config frequency c =
      (.ok, { c with latestRequest := (choice config frequency).getD c.latestRequest }) := by
  rw [antennaSwitchSetFrequency_choice]
  cases h : choice config frequency with
  | none => rfl
  | some q => exact setRelayForAntenna_choice h c

end BandDecoder.Switch
