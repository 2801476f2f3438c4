import BandDecoder.Config
import BandDecoder.Runs

namespace BandDecoder.ConfigUpdate

open SwitchConfig Config Runs

def Synced (m : ConfigManager) : Prop := ∀ o ∈ m.observers, o = m.currentConfig

/-- A success reaches memory, the stored blob and every observer; a failure leaves
memory alone and observers in step with it. -/
structure AllOrNothing (w : NvsWrite) (c : AntennaSwitchConfig) (m : ConfigManager) : Prop where
  success : (updateConfig w c m).1 = .ok →
    (updateConfig w c m).2.currentConfig = c ∧ (updateConfig w c m).2.flash.head? = some c ∧
      (updateConfig w c m).2.observers = m.observers.map fun _ => c
  failure : (updateConfig w c m).1 ≠ .ok →
    (updateConfig w c m).2.currentConfig = m.currentConfig ∧
      (Synced m → Synced (updateConfig w c m).2)

/-- The update is refused, or nothing fails in flash, or there is nothing to change. -/
def Undisturbed (w : NvsWrite) (c : AntennaSwitchConfig) (m : ConfigManager) : Prop :=
  c.Checked → w = .success ∨ c = m.currentConfig

/-- An update is all or nothing exactly when it is undisturbed. -/
theorem allOrNothing_iff (w : NvsWrite) (c : AntennaSwitchConfig) (m : ConfigManager) :
    AllOrNothing w c m ↔ Undisturbed w c m := by
  constructor
  · intro h hc
    by_contra hn
    rw [not_or] at hn
    obtain ⟨e, flash, he, hu, -⟩ := updateConfig_failed hc hn.1 m
    have hf := h.failure
    rw [hu] at hf
    exact hn.2 (hf he).1
  · intro h
    by_cases hc : c.Checked
    · by_cases hw : w = .success
      · rw [hw]
        refine ⟨fun _ => ?_, fun hfail => ?_⟩
        · rw [updateConfig_success hc]
          exact ⟨rfl, rfl, rfl⟩
        · rw [updateConfig_success hc] at hfail
          exact absurd rfl hfail
      · obtain ⟨e, flash, he, hu, -⟩ := updateConfig_failed hc hw m
        have hsame : c = m.currentConfig := (h hc).resolve_left hw
        refine ⟨fun hok => ?_, fun _ => ?_⟩
        · rw [hu] at hok
          exact absurd hok he
        · rw [hu, hsame]
          exact ⟨rfl, id⟩
    · refine ⟨fun hok => absurd (updateConfig_fst_ok_iff.mp hok).1 hc, fun _ => ?_⟩
      rw [updateConfig_refused hc]
      exact ⟨rfl, id⟩

/-- With `nvs_open` failing, the refused configuration is the one in memory. -/
theorem allOrNothing_fails :
    ¬ ∀ (w : NvsWrite) (c : AntennaSwitchConfig) (m : ConfigManager), AllOrNothing w c m := by
  intro h
  let c : AntennaSwitchConfig := { AntennaSwitchConfig.zero with numBands := 1, numAntennaPorts := 1 }
  have hf := (h ⟨.fail, .ok, .ok⟩ c ⟨.zero, [], []⟩).failure (by decide)
  have hn : (1 : UInt8) = 0 := congrArg AntennaSwitchConfig.numBands hf.1
  exact absurd hn (by decide)

inductive Op
  | update (w : NvsWrite) (c : AntennaSwitchConfig)
  | addObserver

structure Told where
  manager : ConfigManager
  confirmed : AntennaSwitchConfig

def next (s : Told) : Op → Told
  | .update w c =>
      let (e, m) := updateConfig w c s.manager
      ⟨m, if e = .ok then c else s.confirmed⟩
  | .addObserver => ⟨Config.addObserver s.manager, s.confirmed⟩

def InForce (s : Told) : Prop := s.manager.currentConfig = s.confirmed ∧ Synced s.manager

def OpUndisturbed (s : Told) : Op → Prop
  | .update w c => Undisturbed w c s.manager
  | .addObserver => True

theorem InForce.step {s : Told} (h : InForce s) {op : Op} (hu : OpUndisturbed s op) :
    InForce (next s op) := by
  obtain ⟨hm, hs⟩ := h
  cases op with
  | addObserver =>
      refine ⟨hm, fun o ho => ?_⟩
      rcases List.mem_append.mp ho with ho | ho
      · exact hs o ho
      · exact List.mem_singleton.mp ho
  | update w c =>
      have ha := (allOrNothing_iff w c s.manager).mpr hu
      rw [next]
      dsimp only
      by_cases hok : (updateConfig w c s.manager).1 = .ok
      · obtain ⟨hc, -, hobs⟩ := ha.success hok
        rw [if_pos hok]
        refine ⟨hc, fun o ho => ?_⟩
        rw [hobs] at ho
        obtain ⟨-, -, rfl⟩ := List.mem_map.mp ho
        exact hc.symm
      · obtain ⟨hc, hsync⟩ := ha.failure hok
        rw [if_neg hok]
        exact ⟨hc.trans hm, hsync hs⟩

theorem not_inForce {s : Told} (h : InForce s) {op : Op} (hu : ¬ OpUndisturbed s op) :
    ¬ InForce (next s op) := by
  cases op with
  | addObserver => exact absurd trivial hu
  | update w c =>
      obtain ⟨hc, hn⟩ := Classical.not_imp.mp hu
      rw [not_or] at hn
      obtain ⟨e, flash, he, hu, -⟩ := updateConfig_failed hc hn.1 s.manager
      rw [next, hu]
      dsimp only
      rw [if_neg he]
      rintro ⟨hf, -⟩
      exact hn.2 (hf.trans h.1.symm)

/-- Over a run of updates and registrations the band decoder works with what its
callers were told exactly as long as every update is undisturbed. -/
theorem inForce_iff {s : Told} (h : InForce s) {t : List (Op × Told)}
    (hr : Run (fun s op s' => s' = next s op) s t) :
    (∀ x ∈ t, InForce x.2) ↔ Guarded OpUndisturbed s t := by
  refine hr.forall_iff_guarded InForce (fun _ s' => InForce s') h ?_ ?_
  · rintro s op _ hs rfl hu
    exact ⟨hs.step hu, hs.step hu⟩
  · rintro s op _ hs rfl hu
    exact not_inForce hs hu

end BandDecoder.ConfigUpdate
