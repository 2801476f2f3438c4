import BandDecoder.SwitchConfig

namespace BandDecoder.Config

open CStrings SwitchConfig

structure NvsWrite where
  opened : EspErr
  setBlob : EspErr
  commit : EspErr

def NvsWrite.success : NvsWrite := ⟨.ok, .ok, .ok⟩

/-- The results of `nvs_open` and `nvs_get_blob`, and what a successful read
leaves in the configuration. -/
structure NvsRead where
  opened : EspErr
  getBlob : EspErr
  image : AntennaSwitchConfig

/-- `observers` keeps the value each observer was last given. `flash` keeps every
image handed to `nvs_set_blob`, newest first; it survives a reboot. -/
structure ConfigManager where
  currentConfig : AntennaSwitchConfig
  observers : List AntennaSwitchConfig
  flash : List AntennaSwitchConfig

def DEFAULT_HOST : Bytes := text "192.168.1.100"

def saveToNvs (w : NvsWrite) (m : ConfigManager) : EspErr × ConfigManager :=
  if w.opened ≠ .ok then (w.opened, m)
  else
    let m := { m with flash := m.currentConfig :: m.flash }
    if w.setBlob ≠ .ok then (w.setBlob, m) else (w.commit, m)

def loadFromNvs (r : NvsRead) (m : ConfigManager) : EspErr × ConfigManager :=
  if r.opened ≠ .ok then (r.opened, m)
  else if r.getBlob ≠ .ok then (r.getBlob, m)
  else (.ok, { m with currentConfig := r.image })

/-- The fields that `init` fills in when nothing is stored; the band table stays
as it is. -/
def defaults (c : AntennaSwitchConfig) : AntennaSwitchConfig :=
  { c with
    numBands := 10
    autoMode := true
    numAntennaPorts := 6
    tcpHost := c.tcpHost.strcpy DEFAULT_HOST
    tcpPort := 12090
    uartBaudRate := 9600
    uartParity := 0
    uartStopBits := 1
    uartFlowCtrl := 0 }

def repairHost (w : NvsWrite) (m : ConfigManager) : EspErr × ConfigManager :=
  if m.currentConfig.tcpHost.str = [] then
    saveToNvs w { m with
      currentConfig :=
        { m.currentConfig with tcpHost := m.currentConfig.tcpHost.strcpy DEFAULT_HOST } }
  else (.ok, m)

def init (r : NvsRead) (w w' : NvsWrite) (m : ConfigManager) : EspErr × ConfigManager :=
  match loadFromNvs r m with
  | (.nvsNotFound, m) =>
      match saveToNvs w { m with currentConfig := defaults m.currentConfig } with
      | (.ok, m) => repairHost w' m
      | (e, m) => (e, m)
  | (.ok, m) => repairHost w' m
  | (e, m) => (e, m)

/-- Memory takes the new value before the save that may fail. -/
def updateConfig (w : NvsWrite) (c : AntennaSwitchConfig) (m : ConfigManager) :
    EspErr × ConfigManager :=
  if c.numBands.toNat ≤ 0 ∨ MAX_BANDS < c.numBands.toNat then (.invalidArg, m)
  else if c.numAntennaPorts.toNat ≤ 0 ∨ MAX_ANTENNA_PORTS < c.numAntennaPorts.toNat then
    (.invalidArg, m)
  else match saveToNvs w { m with currentConfig := c } with
    | (.ok, m) => (.ok, { m with observers := m.observers.map fun _ => m.currentConfig })
    | (e, m) => (e, m)

def stored (c : AntennaSwitchConfig) (m : ConfigManager) : ConfigManager :=
  ⟨c, m.observers.map fun _ => c, c :: m.flash⟩

def addObserver (m : ConfigManager) : ConfigManager :=
  { m with observers := m.observers ++ [m.currentConfig] }

theorem saveToNvs_failed {w : NvsWrite} (hw : w ≠ .success) (m : ConfigManager) :
    ∃ e flash, e ≠ .ok ∧ saveToNvs w m = (e, { m with flash }) ∧
      ∀ d ∈ flash, d = m.currentConfig ∨ d ∈ m.flash := by
  rw [saveToNvs]
  by_cases ho : w.opened = .ok
  · have hf : ∀ d ∈ m.currentConfig :: m.flash, d = m.currentConfig ∨ d ∈ m.flash :=
      fun d hd => List.mem_cons.mp hd
    rw [if_neg (not_not.mpr ho)]
    by_cases hs : w.setBlob = .ok
    · have hc : w.commit ≠ .ok := by
        intro hc
        obtain ⟨opened, setBlob, commit⟩ := w
        cases ho
        cases hs
        cases hc
        exact hw rfl
      exact ⟨w.commit, _, hc, if_neg (not_not.mpr hs), hf⟩
    · exact ⟨w.setBlob, _, hs, if_pos hs, hf⟩
  · exact ⟨w.opened, m.flash, ho, if_pos ho, fun d hd => Or.inr hd⟩

@[simp] theorem saveToNvs_currentConfig (w : NvsWrite) (m : ConfigManager) :
    (saveToNvs w m).2.currentConfig = m.currentConfig := by
  by_cases hw : w = .success
  · rw [hw]
    rfl
  · obtain ⟨e, flash, -, hs, -⟩ := saveToNvs_failed hw m
    rw [hs]

theorem mem_flash_saveToNvs {w : NvsWrite} {m : ConfigManager} {c : AntennaSwitchConfig}
    (h : c ∈ (saveToNvs w m).2.flash) : c = m.currentConfig ∨ c ∈ m.flash := by
  by_cases hw : w = .success
  · rw [hw] at h
    exact List.mem_cons.mp h
  · obtain ⟨e, flash, -, hs, hf⟩ := saveToNvs_failed hw m
    rw [hs] at h
    exact hf c h

theorem saveToNvs_fst_ok {w : NvsWrite} {m : ConfigManager} (h : (saveToNvs w m).1 = .ok) :
    w = .success := by
  by_contra hw
  obtain ⟨e, flash, he, hs, -⟩ := saveToNvs_failed hw m
  rw [hs] at h
  exact he h

theorem updateConfig_refused {c : AntennaSwitchConfig} (h : ¬ c.Checked) (w : NvsWrite)
    (m : ConfigManager) : updateConfig w c m = (.invalidArg, m) := by
  rw [AntennaSwitchConfig.Checked] at h
  rw [updateConfig]
  by_cases hb : c.numBands.toNat ≤ 0 ∨ MAX_BANDS < c.numBands.toNat
  · rw [if_pos hb]
  · rw [if_neg hb, if_pos (by omega)]

theorem updateConfig_success {c : AntennaSwitchConfig} (h : c.Checked) (m : ConfigManager) :
    updateConfig .success c m = (.ok, stored c m) := by
  obtain ⟨h1, h2, h3, h4⟩ := h
  rw [updateConfig, if_neg (by omega), if_neg (by omega)]
  rfl

/-- With the save lost, memory has the new configuration and observers the old. -/
theorem updateConfig_failed {w : NvsWrite} {c : AntennaSwitchConfig} (h : c.Checked)
    (hw : w ≠ .success) (m : ConfigManager) :
    ∃ e flash, e ≠ .ok ∧ updateConfig w c m = (e, { m with currentConfig := c, flash }) ∧
      ∀ d ∈ flash, d = c ∨ d ∈ m.flash := by
  obtain ⟨e, flash, he, hs, hf⟩ := saveToNvs_failed hw { m with currentConfig := c }
  refine ⟨e, flash, he, ?_, hf⟩
  obtain ⟨h1, h2, h3, h4⟩ := h
  rw [updateConfig, if_neg (by omega), if_neg (by omega), hs]
  cases e with
  | ok => exact absurd rfl he
  | _ => rfl

/-- Everything `update_config` can do: refuse and change nothing, or take the new
configuration into memory, whatever becomes of the save. -/
theorem updateConfig_cases (w : NvsWrite) (c : AntennaSwitchConfig) (m : ConfigManager) :
    (¬ c.Checked ∧ updateConfig w c m = (.invalidArg, m)) ∨
    (c.Checked ∧ (updateConfig w c m).2.currentConfig = c ∧
      (∀ d ∈ (updateConfig w c m).2.flash, d = c ∨ d ∈ m.flash)) := by
  by_cases hc : c.Checked
  · refine Or.inr ⟨hc, ?_⟩
    by_cases hw : w = .success
    · rw [hw, updateConfig_success hc]
      exact ⟨rfl, fun d hd => List.mem_cons.mp hd⟩
    · obtain ⟨e, flash, -, hu, hf⟩ := updateConfig_failed hc hw m
      rw [hu]
      exact ⟨rfl, hf⟩
  · exact Or.inl ⟨hc, updateConfig_refused hc w m⟩

theorem updateConfig_fst_ok_iff {w : NvsWrite} {c : AntennaSwitchConfig} {m : ConfigManager} :
    (updateConfig w c m).1 = .ok ↔ c.Checked ∧ w = .success := by
  constructor
  · intro h
    have hc : c.Checked := by
      by_contra hc
      rw [updateConfig_refused hc] at h
      cases h
    refine ⟨hc, ?_⟩
    by_contra hw
    obtain ⟨e, flash, he, hu, -⟩ := updateConfig_failed hc hw m
    rw [hu] at h
    exact he h
  · rintro ⟨hc, rfl⟩
    rw [updateConfig_success hc]

theorem updateConfig_ok {w : NvsWrite} {c : AntennaSwitchConfig} {m m' : ConfigManager}
    (h : updateConfig w c m = (.ok, m')) : c.Checked ∧ m' = stored c m := by
  obtain ⟨hc, rfl⟩ := updateConfig_fst_ok_iff.mp (congrArg Prod.fst h)
  rw [updateConfig_success hc] at h
  exact ⟨hc, (congrArg Prod.snd h).symm⟩

theorem loadFromNvs_cases (r : NvsRead) (m : ConfigManager) :
    (∃ e, e ≠ .ok ∧ loadFromNvs r m = (e, m)) ∨
    (r.opened = .ok ∧ r.getBlob = .ok ∧
      loadFromNvs r m = (.ok, { m with currentConfig := r.image })) := by
  rw [loadFromNvs]
  by_cases ho : r.opened = .ok
  · rw [if_neg (not_not.mpr ho)]
    by_cases hg : r.getBlob = .ok
    · exact Or.inr ⟨ho, hg, by rw [if_neg (not_not.mpr hg)]⟩
    · exact Or.inl ⟨r.getBlob, hg, by rw [if_pos hg]⟩
  · exact Or.inl ⟨r.opened, ho, by rw [if_pos ho]⟩

end BandDecoder.Config
