import BandDecoder.StatusPage

namespace BandDecoder.DisplayedAntenna

open SwitchConfig Config Relay Switch Web StatusPage

def requested (config : AntennaSwitchConfig) (frequency : UInt32) : Option RelayChangeRequest :=
  searchRelay config frequency (fun relay band => some ⟨relay, band⟩) none

theorem requested_eq_choice (config : AntennaSwitchConfig) (frequency : UInt32) :
    requested config frequency = choice config frequency := by
  rw [requested, searchRelay_choice]
  cases choice config frequency <;> rfl

theorem antennaSwitchSetFrequency_requested (config : AntennaSwitchConfig) (frequency : UInt32)
    (c : RelayController) :
    antennaSwitchSetFrequency config frequency c =
      match requested config frequency with
      | some q => setRelayForAntenna q.relayId q.bandNumber c
      | none => (.ok, c) := by
  rw [requested_eq_choice]
  exact antennaSwitchSetFrequency_choice config frequency c

structure Selects (config : AntennaSwitchConfig) (frequency : UInt32) (i : Fin MAX_BANDS)
    (j : Fin MAX_ANTENNA_PORTS) : Prop where
  band : i.val < config.numBands.toNat
  around : (config.bands i).contains frequency = true
  first : ∀ i' < i, (config.bands i').contains frequency = false
  port : j.val < config.numAntennaPorts.toNat
  enabled : (config.bands i).antennaPorts j = true
  least : ∀ j' < j, (config.bands i).antennaPorts j' = false

theorem find?_range_fin {N n k : Nat} {p : Nat → Bool} (hp : ∀ m < n, N ≤ m → p m = false) :
    (List.range n).find? p = some k ↔
      ∃ i : Fin N, i.val = k ∧ i.val < n ∧ p i = true ∧ ∀ i' < i, p i'.val = false := by
  rw [List.find?_range_eq_some]
  constructor
  · rintro ⟨hk, hr, hno⟩
    have hn := List.mem_range.mp hr
    have hlt : k < N := by
      by_contra hle
      rw [hp k hn (by omega)] at hk
      cases hk
    exact ⟨⟨k, hlt⟩, rfl, hn, hk, fun i' hi => by simpa using hno i' hi⟩
  · rintro ⟨i, rfl, hn, hk, hno⟩
    refine ⟨hk, List.mem_range.mpr hn, fun m hm => ?_⟩
    rw [hno ⟨m, by omega⟩ hm]
    rfl

theorem band_val (config : AntennaSwitchConfig) (i : Fin MAX_BANDS) :
    config.band i = config.bands i := by
  rw [AntennaSwitchConfig.band, dif_pos i.isLt]

theorem port_val (b : BandConfig) (j : Fin MAX_ANTENNA_PORTS) : b.port j = b.antennaPorts j := by
  rw [BandConfig.port, dif_pos j.isLt]

theorem firstBand_eq_some_iff {config : AntennaSwitchConfig} (hb : config.numBands.toNat ≤ MAX_BANDS)
    {frequency : UInt32} {n : Nat} :
    config.firstBand frequency = some n ↔ ∃ i : Fin MAX_BANDS, i.val = n ∧
      i.val < config.numBands.toNat ∧ (config.bands i).contains frequency = true ∧
      ∀ i' < i, (config.bands i').contains frequency = false := by
  rw [AntennaSwitchConfig.firstBand, find?_range_fin (N := MAX_BANDS) (fun m hm hle => by omega)]
  simp only [band_val]

theorem firstPort_eq_some_iff {config : AntennaSwitchConfig}
    (hp : config.numAntennaPorts.toNat ≤ MAX_ANTENNA_PORTS) (i : Fin MAX_BANDS) {n : Nat} :
    config.firstPort i = some n ↔ ∃ j : Fin MAX_ANTENNA_PORTS, j.val = n ∧
      j.val < config.numAntennaPorts.toNat ∧ (config.bands i).antennaPorts j = true ∧
      ∀ j' < j, (config.bands i).antennaPorts j' = false := by
  rw [AntennaSwitchConfig.firstPort, find?_range_fin (N := MAX_ANTENNA_PORTS) (fun m hm hle => by omega)]
  simp only [band_val, port_val]

theorem requested_eq_some_iff {config : AntennaSwitchConfig} (hb : config.numBands.toNat ≤ MAX_BANDS)
    (hp : config.numAntennaPorts.toNat ≤ MAX_ANTENNA_PORTS) (ha : config.autoMode = true)
    {frequency : UInt32} {q : RelayChangeRequest} :
    requested config frequency = some q ↔
      ∃ i j, Selects config frequency i j ∧ q = ⟨j.val + 1, i.val⟩ := by
  rw [requested_eq_choice, choice, if_pos ha]
  constructor
  · intro h
    obtain ⟨n, hn, hmap⟩ := Option.bind_eq_some_iff.mp h
    obtain ⟨i, rfl, hband, haround, hfirst⟩ := (firstBand_eq_some_iff hb).mp hn
    obtain ⟨m, hm, rfl⟩ := Option.map_eq_some_iff.mp hmap
    obtain ⟨j, rfl, hport, henabled, hleast⟩ := (firstPort_eq_some_iff hp i).mp hm
    exact ⟨i, j, ⟨hband, haround, hfirst, hport, henabled, hleast⟩, rfl⟩
  · rintro ⟨i, j, h, rfl⟩
    rw [(firstBand_eq_some_iff hb).mpr ⟨i, rfl, h.band, h.around, h.first⟩, Option.bind_some,
      (firstPort_eq_some_iff hp i).mpr ⟨j, rfl, h.port, h.enabled, h.least⟩]
    rfl

theorem Selects.unique_band {config : AntennaSwitchConfig} {frequency : UInt32} {i k : Fin MAX_BANDS}
    {j : Fin MAX_ANTENNA_PORTS} (h : Selects config frequency k j)
    (hc : (config.bands i).contains frequency = true)
    (hfirst : ∀ i' < i, (config.bands i').contains frequency = false) : k = i := by
  rcases lt_trichotomy k i with hlt | he | hgt
  · exact absurd h.around (by rw [hfirst k hlt]; decide)
  · exact he
  · exact absurd hc (by rw [h.first i hgt]; decide)

theorem findActivePort_of_requested {config : AntennaSwitchConfig} {frequency : UInt32}
    {q : RelayChangeRequest} (h : requested config frequency = some q) :
    q.relayId = findActivePort frequency config ∧ 0 < findActivePort frequency config := by
  rw [requested_eq_choice] at h
  have hr := choice_assigned h
  have h1 := (choice_range h).1
  rw [findActivePort_eq]
  exact ⟨hr, by omega⟩

theorem findActivePort_of_none {config : AntennaSwitchConfig} (ha : config.autoMode = true)
    {frequency : UInt32} (h : requested config frequency = none) :
    findActivePort frequency config = 0 := by
  rw [requested_eq_choice, choice, if_pos ha] at h
  rw [findActivePort_eq, assigned]
  cases hb : config.firstBand frequency with
  | none => rfl
  | some i =>
      rw [hb, Option.bind_some, Option.map_eq_none_iff] at h
      dsimp only
      rw [h]

theorem findActivePort_eq_iff {config : AntennaSwitchConfig} (ha : config.autoMode = true)
    {frequency : UInt32} {r : Nat} (hr : 0 < r) :
    findActivePort frequency config = r ↔ ∃ band, requested config frequency = some ⟨r, band⟩ := by
  constructor
  · rintro rfl
    cases hq : requested config frequency with
    | none =>
        rw [findActivePort_of_none ha hq] at hr
        omega
    | some q =>
        refine ⟨q.bandNumber, ?_⟩
        rw [← (findActivePort_of_requested hq).1]
  · rintro ⟨band, hq⟩
    have h := (findActivePort_of_requested hq).1
    dsimp only at h
    omega

theorem findActivePort_eq_zero_iff {config : AntennaSwitchConfig} (ha : config.autoMode = true)
    {frequency : UInt32} :
    findActivePort frequency config = 0 ↔ requested config frequency = none := by
  refine ⟨fun h0 => ?_, findActivePort_of_none ha⟩
  cases hq : requested config frequency with
  | none => rfl
  | some q =>
      have h := (findActivePort_of_requested hq).2
      omega

/-- A band without an enabled port is not skipped in favour of a later one. -/
theorem requested_eq_none {config : AntennaSwitchConfig} (hb : config.numBands.toNat ≤ MAX_BANDS)
    (hp : config.numAntennaPorts.toNat ≤ MAX_ANTENNA_PORTS) (ha : config.autoMode = true)
    {frequency : UInt32} {i : Fin MAX_BANDS} (hc : (config.bands i).contains frequency = true)
    (hfirst : ∀ i' < i, (config.bands i').contains frequency = false)
    (hoff : ∀ j : Fin MAX_ANTENNA_PORTS, j.val < config.numAntennaPorts.toNat →
      (config.bands i).antennaPorts j = false) : requested config frequency = none := by
  rw [Option.eq_none_iff_forall_ne_some]
  intro q hq
  obtain ⟨k, j, hs, -⟩ := (requested_eq_some_iff hb hp ha).mp hq
  obtain rfl := hs.unique_band hc hfirst
  have h := hoff j hs.port
  rw [hs.enabled] at h
  cases h

/-- The antenna on the page is the one that auto switching asks for: the first enabled
port of the first band around the frequency, and none where that band has none. -/
theorem displayed_eq_requested {config : AntennaSwitchConfig}
    (hb : config.numBands.toNat ≤ MAX_BANDS)
    (hp : config.numAntennaPorts.toNat ≤ MAX_ANTENNA_PORTS) (ha : config.autoMode = true)
    (frequency : UInt32) :
    (∀ r : Nat, 0 < r → (findActivePort frequency config = r ↔
      ∃ band, requested config frequency = some ⟨r, band⟩)) ∧
    (∀ q, requested config frequency = some q ↔
      ∃ i j, Selects config frequency i j ∧ q = ⟨j.val + 1, i.val⟩) ∧
    (findActivePort frequency config = 0 ↔ requested config frequency = none) ∧
    (∀ i : Fin MAX_BANDS, i.val < config.numBands.toNat →
      (config.bands i).contains frequency = true →
      (∀ i' < i, (config.bands i').contains frequency = false) →
      (∀ j : Fin MAX_ANTENNA_PORTS, j.val < config.numAntennaPorts.toNat →
        (config.bands i).antennaPorts j = false) →
      findActivePort frequency config = 0 ∧ requested config frequency = none) ∧
    ∀ c, antennaSwitchSetFrequency config frequency c =
      match requested config frequency with
      | some q => setRelayForAntenna q.relayId q.bandNumber c
      | none => (.ok, c) := by
  refine ⟨fun r hr => findActivePort_eq_iff ha hr, fun q => requested_eq_some_iff hb hp ha,
    findActivePort_eq_zero_iff ha, ?_, antennaSwitchSetFrequency_requested config frequency⟩
  intro i _ hc hfirst hoff
  have hq := requested_eq_none hb hp ha hc hfirst hoff
  exact ⟨findActivePort_of_none ha hq, hq⟩

def overlapping : AntennaSwitchConfig :=
  { AntennaSwitchConfig.zero with
    autoMode := true, numBands := 3, numAntennaPorts := 2
    bands := fun i => match i.val with
      | 0 => ⟨CharArray.zero, 14000000, 14350000, fun _ => false⟩
      | 1 => ⟨CharArray.zero, 14000000, 14100000, fun _ => true⟩
      | _ => ⟨CharArray.zero, 7000000, 7300000, fun j => j.val = 1⟩ }

theorem displayed_eq_requested_twenty :
    (findActivePort 14074000 overlapping = 0 ∧ requested overlapping 14074000 = none) ∧
      (findActivePort 7074000 overlapping = 2 ↔
        ∃ band, requested overlapping 7074000 = some ⟨2, band⟩) ∧
      requested overlapping 7074000 = some ⟨2, 2⟩ := by
  have h := displayed_eq_requested (show overlapping.numBands.toNat ≤ MAX_BANDS by decide) (by decide) rfl
  obtain ⟨-, -, -, hskip, -⟩ := h 14074000
  obtain ⟨hshown, hselects, -⟩ := h 7074000
  refine ⟨hskip ⟨0, by decide⟩ (by decide) (by decide) (by decide) (by decide), hshown 2 (by decide), ?_⟩
  refine (hselects ⟨2, 2⟩).mpr ⟨⟨2, by decide⟩, ⟨1, by decide⟩, ?_, rfl⟩
  exact ⟨by decide, by decide, by decide, by decide, by decide, by decide⟩

end BandDecoder.DisplayedAntenna
