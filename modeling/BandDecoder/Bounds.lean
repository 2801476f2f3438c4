import BandDecoder.Web

namespace BandDecoder.Bounds

open SwitchConfig Relay Switch Cat Web Loops

def band? (c : AntennaSwitchConfig) (i : Nat) : Option BandConfig :=
  if h : i < MAX_BANDS then some (c.bands ⟨i, h⟩) else none

def port? (b : BandConfig) (j : Nat) : Option Bool :=
  if h : j < MAX_ANTENNA_PORTS then some (b.antennaPorts ⟨j, h⟩) else none

def setRelayForAntenna? (relayId bandNumber : Int) (c : RelayController) :
    Option (EspErr × RelayController) :=
  if 1 ≤ relayId ∧ relayId ≤ StateReply.NUM_RELAYS then
    some (setRelayForAntenna relayId bandNumber c)
  else none

/-! The loops of the source over checked accesses -/

def getBandIndex? (freq : UInt32) (p : CatParser) : Option Int := do
  if freq = p.currentFrequency ∧ p.currentBandIndex ≠ -1 then
    return p.currentBandIndex
  for i in List.range p.currentConfig.numBands.toNat do
    let band ← band? p.currentConfig i
    if band.contains freq then
      return i
  return -1

def antennaSwitchSetFrequency? (config : AntennaSwitchConfig) (frequency : UInt32)
    (c : RelayController) : Option (EspErr × RelayController) := do
  if !config.autoMode then
    return (.ok, c)
  for i in List.range config.numBands.toNat do
    let band ← band? config i
    if band.contains frequency then
      for j in List.range config.numAntennaPorts.toNat do
        let port ← port? band j
        if port then
          let result ← setRelayForAntenna? (j + 1) i c
          return result
      return (.ok, c)
  return (.ok, c)

def findActivePort? (currentFreq : UInt32) (config : AntennaSwitchConfig) : Option Nat := do
  let mut activeAntenna := 0
  for i in List.range config.numBands.toNat do
    let band ← band? config i
    if band.contains currentFreq then
      for j in List.range config.numAntennaPorts.toNat do
        let port ← port? band j
        if port then
          activeAntenna := j + 1
          break
      break
  return activeAntenna

structure InBounds (c : AntennaSwitchConfig) : Prop where
  numBands : c.numBands.toNat ≤ MAX_BANDS
  numAntennaPorts : c.numAntennaPorts.toNat ≤ MAX_ANTENNA_PORTS
  tcpHost : c.tcpHost.Terminated

theorem band?_eq {c : AntennaSwitchConfig} {i : Nat} (hc : InBounds c)
    (hi : i ∈ List.range c.numBands.toNat) : band? c i = some (c.band i) := by
  have h : i < MAX_BANDS := Nat.lt_of_lt_of_le (List.mem_range.mp hi) hc.numBands
  rw [band?, dif_pos h, AntennaSwitchConfig.band, dif_pos h]

theorem port?_eq {c : AntennaSwitchConfig} {j : Nat} (hc : InBounds c)
    (hj : j ∈ List.range c.numAntennaPorts.toNat) (b : BandConfig) :
    port? b j = some (b.port j) := by
  have h : j < MAX_ANTENNA_PORTS := Nat.lt_of_lt_of_le (List.mem_range.mp hj) hc.numAntennaPorts
  rw [port?, dif_pos h, BandConfig.port, dif_pos h]

theorem setRelayForAntenna?_eq {c : AntennaSwitchConfig} {j : Nat} (hc : InBounds c)
    (hj : j ∈ List.range c.numAntennaPorts.toNat) (band : Int) (r : RelayController) :
    setRelayForAntenna? (j + 1) band r = some (setRelayForAntenna (j + 1) band r) := by
  have h : j < MAX_ANTENNA_PORTS := Nat.lt_of_lt_of_le (List.mem_range.mp hj) hc.numAntennaPorts
  simp only [MAX_ANTENNA_PORTS] at h
  rw [setRelayForAntenna?, if_pos]
  simp only [StateReply.NUM_RELAYS]
  omega

theorem getBandIndex?_eq {p : CatParser} (h : InBounds p.currentConfig) (freq : UInt32) :
    getBandIndex? freq p = some (getBandIndex freq p) := by
  rw [getBandIndex?, getBandIndex]
  split
  · rfl
  · refine Loops.bind_some (forIn_some ?_ _) ?_
    · intro i hi _
      rw [band?_eq h hi]
      simp only [Option.bind_eq_bind, Option.bind_some]
      split <;> rfl
    · rintro ⟨_ | i, _⟩ <;> rfl

theorem antennaSwitchSetFrequency?_eq {c : AntennaSwitchConfig} (h : InBounds c) (freq : UInt32)
    (r : RelayController) :
    antennaSwitchSetFrequency? c freq r = some (antennaSwitchSetFrequency c freq r) := by
  rw [antennaSwitchSetFrequency?, antennaSwitchSetFrequency]
  split
  · rfl
  · refine Loops.bind_some (forIn_some ?_ _) ?_
    · intro i hi _
      rw [band?_eq h hi]
      simp only [Option.bind_eq_bind, Option.bind_some]
      split
      · refine Loops.bind_some (forIn_some ?_ _) ?_
        · intro j hj _
          rw [port?_eq h hj, setRelayForAntenna?_eq h hj]
          simp only [Option.bind_some]
          split <;> rfl
        · rintro ⟨_ | q, _⟩ <;> rfl
      · rfl
    · rintro ⟨_ | q, _⟩ <;> rfl

theorem findActivePort?_eq {c : AntennaSwitchConfig} (h : InBounds c) (freq : UInt32) :
    findActivePort? freq c = some (findActivePort freq c) := by
  rw [findActivePort?, findActivePort]
  refine Loops.bind_some (forIn_some ?_ _) fun _ => rfl
  intro i hi active
  rw [band?_eq h hi]
  simp only [Option.bind_eq_bind, Option.bind_some]
  split
  · refine Loops.bind_some (forIn_some ?_ _) fun _ => rfl
    intro j hj _
    rw [port?_eq h hj]
    simp only [Option.bind_some]
    split <;> rfl
  · rfl

end BandDecoder.Bounds
