import BandDecoder.ConfigLifetime
import BandDecoder.PostedConfig
import BandDecoder.StatusPage
import Mathlib.Logic.Equiv.Basic

namespace BandDecoder.BandOrder

open SwitchConfig Config Relay Switch Cat Web BandCache PostedConfig
open ConfigLifetime (Life Action)
open StatusPage (assigned findActivePort_eq)

structure Tidy (c : AntennaSwitchConfig) : Prop where
  bound : c.numBands.toNat ≤ MAX_BANDS
  real : RealBands c
  distinct : ∀ i < c.numBands.toNat, ∀ j < c.numBands.toNat,
    (c.band i).startFreq = (c.band j).startFreq → i = j

structure Reordered (σ : Equiv.Perm Nat) (c c' : AntennaSwitchConfig) : Prop where
  tidy : Tidy c
  autoMode : c'.autoMode = c.autoMode
  numBands : c'.numBands = c.numBands
  numAntennaPorts : c'.numAntennaPorts = c.numAntennaPorts
  active : ∀ i, σ i < c.numBands.toNat ↔ i < c.numBands.toNat
  band : ∀ i < c.numBands.toNat, c'.band (σ i) = c.band i

/-- The number of a band in the other table; -1 stays. -/
def moved (σ : Equiv.Perm Nat) (i : Int) : Int := if 0 ≤ i then σ i.toNat else i

def keepsTable : Action → Bool
  | .report _ | .toggleAutoMode _ | .apCommand _ _ | .setAutoMode _ _ | .setTcpPort _ _
  | .catUpdate | .addObserver => true
  | _ => false

/-- Two devices with the rows in different orders that have done the same. -/
structure Alike (σ : Equiv.Perm Nat) (s s' : Life) : Prop where
  manager : Reordered σ s.device.configManager.currentConfig s'.device.configManager.currentConfig
  parser : Reordered σ s.device.catParser.currentConfig s'.device.catParser.currentConfig
  frequency : s'.device.catParser.currentFrequency = s.device.catParser.currentFrequency
  index : s'.device.catParser.currentBandIndex = moved σ s.device.catParser.currentBandIndex
  relay : s'.device.relayController.latestRequest.relayId =
    s.device.relayController.latestRequest.relayId
  requested : 0 < s.device.relayController.latestRequest.relayId →
    s'.device.relayController.latestRequest.bandNumber =
      moved σ s.device.relayController.latestRequest.bandNumber

def started (c : AntennaSwitchConfig) : Life :=
  ⟨⟨⟨c, [], [c]⟩, { ConfigLifetime.idle with currentConfig := c }, construct⟩, false, true⟩

@[simp] theorem moved_ofNat (σ : Equiv.Perm Nat) (i : Nat) : moved σ i = σ i :=
  if_pos (Int.natCast_nonneg i)

@[simp] theorem moved_neg (σ : Equiv.Perm Nat) : moved σ (-1) = -1 := rfl

theorem moved_injective (σ : Equiv.Perm Nat) : Function.Injective (moved σ) := by
  intro i j h
  rw [moved, moved] at h
  by_cases hi : 0 ≤ i <;> by_cases hj : 0 ≤ j
  · rw [if_pos hi, if_pos hj] at h
    have hn := σ.injective (Int.natCast_inj.mp h)
    omega
  · rw [if_pos hi, if_neg hj] at h
    omega
  · rw [if_neg hi, if_pos hj] at h
    omega
  · rwa [if_neg hi, if_neg hj] at h

theorem bandInfo_disjoint : ∀ e ∈ bandInfo, ∀ e' ∈ bandInfo,
    e.startFreq = e'.startFreq ∨ e.endFreq < e'.startFreq ∨ e'.endFreq < e.startFreq := by
  decide

theorem Tidy.unique {c : AntennaSwitchConfig} (h : Tidy c) {f : UInt32} {i j : Nat}
    (hi : i < c.numBands.toNat) (hj : j < c.numBands.toNat) (hfi : (c.band i).contains f = true)
    (hfj : (c.band j).contains f = true) : i = j := by
  have hreal : ∀ k < c.numBands.toNat, ∃ e ∈ bandInfo,
      (c.band k).startFreq = e.startFreq ∧ (c.band k).endFreq = e.endFreq := by
    intro k hk
    have hk10 := lt_of_lt_of_le hk h.bound
    rw [AntennaSwitchConfig.band, dif_pos hk10]
    exact h.real ⟨k, hk10⟩ hk
  obtain ⟨e, he, hse, hee⟩ := hreal i hi
  obtain ⟨e', he', hse', hee'⟩ := hreal j hj
  simp only [BandConfig.contains, Bool.and_eq_true, decide_eq_true_eq, hse, hee, hse', hee',
    UInt32.le_iff_toNat_le] at hfi hfj
  rcases bandInfo_disjoint e he e' he' with hs | hlt | hlt
  · exact h.distinct i hi j hj (by rw [hse, hse', hs])
  · rw [UInt32.lt_iff_toNat_lt] at hlt
    omega
  · rw [UInt32.lt_iff_toNat_lt] at hlt
    omega

/-- Where at most one band is around a frequency the first is the one. -/
theorem firstBand_eq_some {c : AntennaSwitchConfig} {f : UInt32}
    (hu : ∀ i < c.numBands.toNat, ∀ j < c.numBands.toNat, (c.band i).contains f = true →
      (c.band j).contains f = true → i = j) {i : Nat} :
    c.firstBand f = some i ↔ i < c.numBands.toNat ∧ (c.band i).contains f = true := by
  rw [AntennaSwitchConfig.firstBand, List.find?_range_eq_some, List.mem_range]
  constructor
  · rintro ⟨hf, hi, -⟩
    exact ⟨hi, hf⟩
  · rintro ⟨hi, hf⟩
    refine ⟨hf, hi, fun j hj => ?_⟩
    rw [Bool.not_eq_true', Bool.eq_false_iff]
    intro hfj
    have := hu i hi j (by omega) hf hfj
    omega

theorem Reordered.firstBand {σ : Equiv.Perm Nat} {c c' : AntennaSwitchConfig}
    (h : Reordered σ c c') (f : UInt32) : c'.firstBand f = (c.firstBand f).map σ := by
  have hback : ∀ k < c'.numBands.toNat, σ.symm k < c.numBands.toNat ∧
      c'.band k = c.band (σ.symm k) := by
    intro k hk
    rw [h.numBands] at hk
    have hs : σ.symm k < c.numBands.toNat := by
      rw [← h.active, Equiv.apply_symm_apply]
      exact hk
    have hb := h.band _ hs
    rw [Equiv.apply_symm_apply] at hb
    exact ⟨hs, hb⟩
  ext k
  rw [Option.map_eq_some_iff, firstBand_eq_some]
  · constructor
    · rintro ⟨hk, hf⟩
      obtain ⟨hs, hb⟩ := hback k hk
      refine ⟨σ.symm k, ?_, Equiv.apply_symm_apply σ k⟩
      rw [firstBand_eq_some fun i hi j hj => h.tidy.unique hi hj, ← hb]
      exact ⟨hs, hf⟩
    · rintro ⟨i, hi, rfl⟩
      obtain ⟨hlt, hf⟩ := (firstBand_eq_some fun i hi j hj => h.tidy.unique hi hj).mp hi
      rw [h.numBands, h.active, h.band i hlt]
      exact ⟨hlt, hf⟩
  · intro i hi j hj hfi hfj
    obtain ⟨hsi, hbi⟩ := hback i hi
    obtain ⟨hsj, hbj⟩ := hback j hj
    rw [hbi] at hfi
    rw [hbj] at hfj
    exact σ.symm.injective (h.tidy.unique hsi hsj hfi hfj)

theorem Reordered.firstPort {σ : Equiv.Perm Nat} {c c' : AntennaSwitchConfig}
    (h : Reordered σ c c') {i : Nat} (hi : i < c.numBands.toNat) :
    c'.firstPort (σ i) = c.firstPort i := by
  rw [AntennaSwitchConfig.firstPort, AntennaSwitchConfig.firstPort, h.numAntennaPorts, h.band i hi]

theorem firstBand_lt {c : AntennaSwitchConfig} {f : UInt32} {i : Nat}
    (h : c.firstBand f = some i) : i < c.numBands.toNat := by
  rw [AntennaSwitchConfig.firstBand, List.find?_range_eq_some, List.mem_range] at h
  exact h.2.1

theorem Reordered.assigned {σ : Equiv.Perm Nat} {c c' : AntennaSwitchConfig}
    (h : Reordered σ c c') (f : UInt32) : assigned c' f = assigned c f := by
  rw [StatusPage.assigned, StatusPage.assigned, h.firstBand]
  cases hb : c.firstBand f with
  | none => rfl
  | some i =>
      simp only [Option.map_some]
      rw [h.firstPort (firstBand_lt hb)]

theorem Reordered.choice {σ : Equiv.Perm Nat} {c c' : AntennaSwitchConfig}
    (h : Reordered σ c c') (f : UInt32) :
    choice c' f = (choice c f).map fun q => ⟨q.relayId, moved σ q.bandNumber⟩ := by
  rw [Switch.choice, Switch.choice, h.autoMode, h.firstBand]
  cases c.autoMode with
  | false => rfl
  | true =>
      rw [if_pos rfl, if_pos rfl]
      cases hb : c.firstBand f with
      | none => rfl
      | some i =>
          simp only [Option.map_some, Option.bind_some]
          rw [h.firstPort (firstBand_lt hb)]
          cases c.firstPort i with
          | none => rfl
          | some j => simp

theorem Reordered.bandIndex {σ : Equiv.Perm Nat} {c c' : AntennaSwitchConfig}
    (h : Reordered σ c c') (f : UInt32) : bandIndex c' f = moved σ (bandIndex c f) := by
  rw [BandCache.bandIndex, BandCache.bandIndex, h.firstBand]
  cases c.firstBand f with
  | none => rfl
  | some i => simp

theorem Alike.getBandIndex {σ : Equiv.Perm Nat} {s s' : Life} (h : Alike σ s s') (f : UInt32) :
    getBandIndex f s'.device.catParser = moved σ (getBandIndex f s.device.catParser) := by
  rw [getBandIndex_eq, getBandIndex_eq, h.frequency, h.index, h.parser.bandIndex]
  have hneg : moved σ s.device.catParser.currentBandIndex = -1 ↔
      s.device.catParser.currentBandIndex = -1 := by
    rw [← moved_neg σ]
    exact (moved_injective σ).eq_iff
  by_cases hc : f = s.device.catParser.currentFrequency ∧ s.device.catParser.currentBandIndex ≠ -1
  · rw [if_pos hc, if_pos ⟨hc.1, mt hneg.mp hc.2⟩]
  · rw [if_neg hc, if_neg (fun hc' => hc ⟨hc'.1, mt hneg.mpr hc'.2⟩)]

theorem Alike.frequencyChange {σ : Equiv.Perm Nat} {s s' : Life} (h : Alike σ s s') (f : UInt32) :
    Alike σ (ConfigLifetime.withDevice (handleFrequencyChange f s.device).2 s)
      (ConfigLifetime.withDevice (handleFrequencyChange f s'.device).2 s') := by
  rw [handleFrequencyChange_eq, handleFrequencyChange_eq, h.frequency]
  by_cases hf : f = s.device.catParser.currentFrequency
  · rw [if_pos hf, if_pos hf]
    exact ⟨h.manager, h.parser, h.frequency, h.index, h.relay, h.requested⟩
  · have hindex := h.getBandIndex f
    have hsame : Cat.getBandIndex f s'.device.catParser = s'.device.catParser.currentBandIndex ↔
        Cat.getBandIndex f s.device.catParser = s.device.catParser.currentBandIndex := by
      rw [hindex, h.index]
      exact (moved_injective σ).eq_iff
    rw [if_neg hf, if_neg hf]
    by_cases hb : Cat.getBandIndex f s.device.catParser = s.device.catParser.currentBandIndex
    · rw [if_pos hb, if_pos (hsame.mpr hb)]
      exact ⟨h.manager, h.parser, rfl, hindex, h.relay, h.requested⟩
    · rw [if_neg hb, if_neg (mt hsame.mp hb), h.manager.choice]
      cases hq : choice s.device.configManager.currentConfig f with
      | none => exact ⟨h.manager, h.parser, rfl, hindex, h.relay, h.requested⟩
      | some q => exact ⟨h.manager, h.parser, rfl, hindex, rfl, fun _ => rfl⟩

theorem Alike.report {σ : Equiv.Perm Nat} {s s' : Life} (h : Alike σ s s') (cmd : CatCommand) :
    Alike σ (ConfigLifetime.withDevice (runCommand cmd s.device) s)
      (ConfigLifetime.withDevice (runCommand cmd s'.device) s') := by
  cases cmd with
  | fa param =>
      simp only [runCommand, processFaCommand]
      split
      · exact h
      · exact h.frequencyChange _
  | info param =>
      simp only [runCommand, processIfCommand]
      split
      · exact h
      · split
        · exact h
        · let told : Device → Device := fun d => { d with
            catParser := { d.catParser with
              transmitting := CStrings.charAt param 26 = 49
              currentMode := modeOf (CStrings.charAt param 27) } }
          have ht : Alike σ (ConfigLifetime.withDevice (told s.device) s)
              (ConfigLifetime.withDevice (told s'.device) s') :=
            ⟨h.manager, h.parser, h.frequency, h.index, h.relay, h.requested⟩
          exact ht.frequencyChange _

structure Beside (g : AntennaSwitchConfig → AntennaSwitchConfig) : Prop where
  numBands : ∀ c, (g c).numBands = c.numBands
  bands : ∀ c, (g c).bands = c.bands
  autoMode : ∀ c c', c'.autoMode = c.autoMode → (g c').autoMode = (g c).autoMode
  numAntennaPorts : ∀ c c', c'.numAntennaPorts = c.numAntennaPorts →
    (g c').numAntennaPorts = (g c).numAntennaPorts

theorem Beside.band {g : AntennaSwitchConfig → AntennaSwitchConfig} (hg : Beside g)
    (c : AntennaSwitchConfig) (i : Nat) : (g c).band i = c.band i := by
  rw [AntennaSwitchConfig.band, AntennaSwitchConfig.band, hg.bands]

theorem Beside.tidy {g : AntennaSwitchConfig → AntennaSwitchConfig} (hg : Beside g)
    {c : AntennaSwitchConfig} (h : Tidy c) : Tidy (g c) := by
  refine ⟨?_, fun i hi => ?_, fun i hi j hj hs => ?_⟩
  · rw [hg.numBands]
    exact h.bound
  · rw [hg.numBands] at hi
    rw [hg.bands]
    exact h.real i hi
  · rw [hg.numBands] at hi hj
    rw [hg.band, hg.band] at hs
    exact h.distinct i hi j hj hs

theorem Reordered.beside {σ : Equiv.Perm Nat} {c c' : AntennaSwitchConfig}
    (h : Reordered σ c c') {g : AntennaSwitchConfig → AntennaSwitchConfig} (hg : Beside g) :
    Reordered σ (g c) (g c') := by
  refine ⟨hg.tidy h.tidy, hg.autoMode _ _ h.autoMode, ?_, hg.numAntennaPorts _ _ h.numAntennaPorts,
    fun i => ?_, fun i hi => ?_⟩
  · rw [hg.numBands, hg.numBands, h.numBands]
  · rw [hg.numBands]
    exact h.active i
  · rw [hg.numBands] at hi
    rw [hg.band, hg.band]
    exact h.band i hi

theorem Reordered.update {σ : Equiv.Perm Nat} {m m' : ConfigManager}
    (h : Reordered σ m.currentConfig m'.currentConfig)
    {g : AntennaSwitchConfig → AntennaSwitchConfig} (hg : Beside g) (w : NvsWrite) :
    Reordered σ (Config.updateConfig w (g m.currentConfig) m).2.currentConfig
      (Config.updateConfig w (g m'.currentConfig) m').2.currentConfig := by
  have hc := h.beside hg
  have hiff : (g m'.currentConfig).Checked ↔ (g m.currentConfig).Checked := by
    rw [AntennaSwitchConfig.Checked, AntennaSwitchConfig.Checked, hc.numBands, hc.numAntennaPorts]
  rcases updateConfig_cases w (g m.currentConfig) m with ⟨hn, hr⟩ | ⟨hk, he, -⟩
  · rw [hr, updateConfig_refused (mt hiff.mp hn)]
    exact h
  · rcases updateConfig_cases w (g m'.currentConfig) m' with ⟨hn, -⟩ | ⟨-, he', -⟩
    · exact absurd (hiff.mpr hk) hn
    · rw [he, he']
      exact hc

theorem Alike.withManager {σ : Equiv.Perm Nat} {s s' : Life} (h : Alike σ s s')
    {m m' : ConfigManager} (hm : Reordered σ m.currentConfig m'.currentConfig) :
    Alike σ (ConfigLifetime.withManager m s) (ConfigLifetime.withManager m' s') :=
  ⟨hm, h.parser, h.frequency, h.index, h.relay, h.requested⟩

theorem Alike.apCommand {σ : Equiv.Perm Nat} {s s' : Life} (h : Alike σ s s') (w : NvsWrite)
    (param : CStrings.Bytes) : Alike σ (ConfigLifetime.next s (.apCommand w param))
      (ConfigLifetime.next s' (.apCommand w param)) := by
  simp only [ConfigLifetime.next, processApCommand]
  split
  · exact h
  · have hg : Beside fun c => { c with
        numAntennaPorts := UInt8.ofNat (CStrings.strtoul 32 param).1 } :=
      ⟨fun _ => rfl, fun _ => rfl, fun _ _ ha => ha, fun _ _ _ => rfl⟩
    exact h.withManager (h.manager.update hg w)

/-- The controller's port is neither requested nor looked up. -/
theorem Alike.setTcpPort {σ : Equiv.Perm Nat} {s s' : Life} (h : Alike σ s s') (w : NvsWrite)
    (port : UInt16) : Alike σ (ConfigLifetime.next s (.setTcpPort w port))
      (ConfigLifetime.next s' (.setTcpPort w port)) := by
  have hg : Beside fun c => { c with tcpPort := port } :=
    ⟨fun _ => rfl, fun _ => rfl, fun _ _ ha => ha, fun _ _ hp => hp⟩
  have hr : ∀ s : Life, (ConfigLifetime.next s (.setTcpPort w port)).device.relayController.latestRequest =
      s.device.relayController.latestRequest := by
    intro s
    simp only [ConfigLifetime.next, antennaSwitchSetTcpPort]
    cases s.installed <;> rfl
  refine ⟨h.manager.update hg w, h.parser, h.frequency, h.index, ?_, ?_⟩
  · rw [hr, hr]
    exact h.relay
  · rw [hr, hr]
    exact h.requested

theorem Alike.next {σ : Equiv.Perm Nat} {s s' : Life} (h : Alike σ s s') {a : Action}
    (ha : keepsTable a = true) : Alike σ (ConfigLifetime.next s a) (ConfigLifetime.next s' a) := by
  cases a with
  | report cmd => exact h.report cmd
  | catUpdate => exact ⟨h.manager, h.manager, h.frequency, h.index, h.relay, h.requested⟩
  | addObserver => exact h.withManager h.manager
  | toggleAutoMode w =>
      have hg : Beside fun c => { c with autoMode := !c.autoMode } :=
        ⟨fun _ => rfl, fun _ => rfl, fun _ _ ha => congrArg not ha, fun _ _ hp => hp⟩
      rw [ConfigLifetime.next, ConfigLifetime.next, toggleAutoModeHandler_snd,
        toggleAutoModeHandler_snd]
      exact h.withManager (h.manager.update hg w)
  | apCommand w param => exact h.apCommand w param
  | setAutoMode w autoMode =>
      have hg : Beside fun c => { c with autoMode } :=
        ⟨fun _ => rfl, fun _ => rfl, fun _ _ _ => rfl, fun _ _ hp => hp⟩
      exact h.withManager (h.manager.update hg w)
  | setTcpPort w port => exact h.setTcpPort w port
  | _ => exact Bool.noConfusion ha

theorem alike_started {σ : Equiv.Perm Nat} {c c' : AntennaSwitchConfig} (h : Reordered σ c c') :
    Alike σ (started c) (started c') :=
  ⟨h, h, rfl, rfl, rfl, fun hr => absurd hr (lt_irrefl 0)⟩

/-- The order of the rows does not matter: with the same bands in another order a device
that gets the same reports and the same changes beside the table asks for the same
relays, for the same bands, and shows the same page. -/
theorem row_order_immaterial {σ : Equiv.Perm Nat} {c c' : AntennaSwitchConfig}
    (h : Reordered σ c c') {as : List Action} (ha : ∀ a ∈ as, keepsTable a = true) :
    let s := as.foldl ConfigLifetime.next (started c)
    let s' := as.foldl ConfigLifetime.next (started c')
    s'.device.relayController.latestRequest.relayId = s.device.relayController.latestRequest.relayId ∧
    (0 < s.device.relayController.latestRequest.relayId →
      s'.device.relayController.latestRequest.bandNumber =
        moved σ s.device.relayController.latestRequest.bandNumber) ∧
    StatusPage.statusGetHandler s'.device = StatusPage.statusGetHandler s.device ∧
    ∀ f, Cat.getBandIndex f s'.device.catParser = moved σ (Cat.getBandIndex f s.device.catParser) := by
  intro s s'
  have hs : Alike σ s s' :=
    List.foldl_rel (alike_started h) fun a hmem s s' hs => hs.next (ha a hmem)
  refine ⟨hs.relay, hs.requested, ?_, hs.getBandIndex⟩
  rw [StatusPage.statusGetHandler, StatusPage.statusGetHandler, hs.frequency, findActivePort_eq,
    findActivePort_eq, hs.manager.assigned]

def twoBands : AntennaSwitchConfig := { resetConfig with numBands := 2 }

def twoSwapped : AntennaSwitchConfig :=
  { twoBands with bands := fun i => twoBands.band (Equiv.swap 0 1 i.val) }

theorem reordered_twoSwapped : Reordered (Equiv.swap 0 1) twoBands twoSwapped := by
  have hn : twoBands.numBands.toNat = 2 := rfl
  have hreal : ∀ i : Fin MAX_BANDS, i.val < 2 → ∃ e ∈ bandInfo,
      (twoBands.bands i).startFreq = e.startFreq ∧ (twoBands.bands i).endFreq = e.endFreq := by
    decide
  have hdistinct : ∀ i < 2, ∀ j < 2,
      (twoBands.band i).startFreq = (twoBands.band j).startFreq → i = j := by
    decide
  refine ⟨⟨by decide, hreal, hdistinct⟩, rfl, rfl, rfl, fun i => ?_, fun i hi => ?_⟩
  · rw [hn, Equiv.swap_apply_def]
    split
    · omega
    · split <;> omega
  · rw [hn] at hi
    rcases (by omega : i = 0 ∨ i = 1) with rfl | rfl <;> rfl

/-- A report on 80 m with auto mode switched off and on again in front of it. -/
theorem row_order_immaterial_swapped :
    let as := [.toggleAutoMode .success, .toggleAutoMode .success,
      .report (.fa (CStrings.text "00003700000"))]
    let s := as.foldl ConfigLifetime.next (started twoBands)
    let s' := as.foldl ConfigLifetime.next (started twoSwapped)
    s'.device.relayController.latestRequest.relayId =
      s.device.relayController.latestRequest.relayId := by
  intro as s s'
  have ha : ∀ a ∈ as, keepsTable a = true := by simp [as, keepsTable]
  exact (row_order_immaterial reordered_twoSwapped ha).1

end BandDecoder.BandOrder
