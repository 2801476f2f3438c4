import BandDecoder.Bounds
import BandDecoder.PostedDocument
import BandDecoder.Runs

namespace BandDecoder.ConfigLifetime

open CStrings SwitchConfig Config Relay Switch Cat Web Bounds PostedDocument Runs

/-- The device with a note whether `ConfigManager::init` has returned `ESP_OK`
since the last boot. -/
structure Life where
  device : Device
  installed : Bool
  ready : Bool

def idle : CatParser := ⟨.zero, 0, -1, false, .unset⟩

def boot (flash : List AntennaSwitchConfig) : Life :=
  ⟨⟨⟨.zero, [], flash⟩, idle, Relay.construct⟩, false, false⟩

inductive Action
  | boot
  | configInit (r : NvsRead) (w w' : NvsWrite)
  | addObserver
  | installRelay (c : RelayController)
  | post (parse : Bytes → Option Json) (w : NvsWrite) (r : PostRequest)
  | configGet (w : NvsWrite)
  | resetConfig (w : NvsWrite)
  | toggleAutoMode (w : NvsWrite)
  | apCommand (w : NvsWrite) (param : Bytes)
  | setAutoMode (w : NvsWrite) (autoMode : Bool)
  | setTcpPort (w : NvsWrite) (port : UInt16)
  | setTcpHost (reinit : RelayController → EspErr × RelayController) (w : NvsWrite) (host : Bytes)
  | catInit (w : NvsWrite)
  | catUpdate
  | report (cmd : CatCommand)

def withManager (m : ConfigManager) (s : Life) : Life :=
  { s with device := { s.device with configManager := m } }

def withDevice (d : Device) (s : Life) : Life := { s with device := d }

def next (s : Life) : Action → Life
  | .boot => ConfigLifetime.boot s.device.configManager.flash
  | .configInit r w w' =>
      let (e, m) := Config.init r w w' s.device.configManager
      { withManager m s with ready := s.ready || decide (e = .ok) }
  | .addObserver => withManager (Config.addObserver s.device.configManager) s
  | .installRelay c => { s with device := { s.device with relayController := c }, installed := true }
  | .post parse w r => withDevice (configPostHandler parse w r s.device).2 s
  | .configGet w => withDevice (configGetHandler w s.device).2 s
  | .resetConfig w => withDevice (resetConfigHandler w s.device).2 s
  | .toggleAutoMode w => withDevice (toggleAutoModeHandler w s.device).2 s
  | .apCommand w param => withDevice (processApCommand w param s.device).2 s
  | .setAutoMode w autoMode =>
      withManager (antennaSwitchSetAutoMode w autoMode s.device.configManager).2 s
  | .setTcpPort w port =>
      let (_, m, c) := antennaSwitchSetTcpPort w port s.device.configManager
        (if s.installed then some s.device.relayController else none)
      withDevice { s.device with
        configManager := m, relayController := c.getD s.device.relayController } s
  | .setTcpHost reinit w host =>
      let (_, m, c) := antennaSwitchSetTcpHost reinit w host s.device.configManager
        (if s.installed then some s.device.relayController else none)
      withDevice { s.device with
        configManager := m, relayController := c.getD s.device.relayController } s
  | .catInit w => withDevice (Cat.init w s.device).2 s
  | .catUpdate => withDevice (Cat.updateConfig s.device) s
  | .report cmd => withDevice (runCommand cmd s.device) s

/-- Only a blob that was written in full reads back. -/
def Readable (s : Life) : Action → Prop
  | .configInit r _ _ =>
      r.opened = .ok → r.getBlob = .ok → r.image ∈ s.device.configManager.flash
  | _ => True

def Step (s : Life) (a : Action) (s' : Life) : Prop := Readable s a ∧ s' = next s a

/-- Any state of any boot of a device whose flash started erased. -/
def Lived (s : Life) : Prop := Reachable Step (ConfigLifetime.boot []) s

structure Storable (c : AntennaSwitchConfig) : Prop where
  checked : c.Checked
  tcpHost : c.tcpHost.Terminated

theorem Storable.inBounds {c : AntennaSwitchConfig} (h : Storable c) : InBounds c :=
  ⟨h.checked.2.1, h.checked.2.2.2, h.tcpHost⟩

structure Sound (ready : Bool) (m : ConfigManager) : Prop where
  current : InBounds m.currentConfig
  flash : ∀ c ∈ m.flash, Storable c
  checked : ready = true → m.currentConfig.Checked

theorem Sound.updateConfig {ready : Bool} {m : ConfigManager} (h : Sound ready m) (w : NvsWrite)
    (c : AntennaSwitchConfig) (hc : c.tcpHost.Terminated) :
    Sound ready (Config.updateConfig w c m).2 := by
  rcases updateConfig_cases w c m with ⟨_, hr⟩ | ⟨hk, he, hf⟩
  · rw [hr]
    exact h
  · refine ⟨?_, fun d hd => ?_, fun _ => ?_⟩
    · rw [he]
      exact (Storable.mk hk hc).inBounds
    · rcases hf d hd with rfl | hd
      · exact ⟨hk, hc⟩
      · exact h.flash d hd
    · rw [he]
      exact hk

theorem Sound.saveToNvs {ready : Bool} {m : ConfigManager} (h : Sound ready m)
    (hc : m.currentConfig.Checked) (w : NvsWrite) : Sound ready (Config.saveToNvs w m).2 := by
  refine ⟨?_, fun d hd => ?_, fun _ => ?_⟩
  · rw [saveToNvs_currentConfig]
    exact h.current
  · rcases mem_flash_saveToNvs hd with rfl | hd
    · exact ⟨hc, h.current.tcpHost⟩
    · exact h.flash d hd
  · rw [saveToNvs_currentConfig]
    exact hc

theorem Sound.mono {ready : Bool} {m : ConfigManager} (h : Sound true m) : Sound ready m :=
  ⟨h.current, h.flash, fun _ => h.checked rfl⟩

theorem Sound.withConfig {ready : Bool} {m : ConfigManager} {c : AntennaSwitchConfig}
    (h : Sound ready m) (hc : Storable c) : Sound true { m with currentConfig := c } :=
  ⟨hc.inBounds, h.flash, fun _ => hc.checked⟩

theorem default_host_fits : (cstr DEFAULT_HOST).length < 16 := by decide

theorem storable_defaults (c : AntennaSwitchConfig) : Storable (defaults c) :=
  ⟨show 1 ≤ (10 : UInt8).toNat ∧ (10 : UInt8).toNat ≤ MAX_BANDS ∧
      1 ≤ (6 : UInt8).toNat ∧ (6 : UInt8).toNat ≤ MAX_ANTENNA_PORTS by decide,
    CharArray.terminated_strcpy _ _ default_host_fits⟩

theorem Sound.repairHost {m : ConfigManager} (h : Sound true m) (w : NvsWrite) :
    Sound true (Config.repairHost w m).2 := by
  rw [Config.repairHost]
  split
  · have hs : Storable { m.currentConfig with
        tcpHost := m.currentConfig.tcpHost.strcpy DEFAULT_HOST } :=
      ⟨h.checked rfl, CharArray.terminated_strcpy _ _ default_host_fits⟩
    exact (h.withConfig hs).saveToNvs hs.checked w
  · exact h

theorem Sound.init {ready : Bool} {m : ConfigManager} {r : NvsRead} (h : Sound ready m)
    (hr : r.opened = .ok → r.getBlob = .ok → r.image ∈ m.flash) (w w' : NvsWrite) :
    Sound (ready || decide ((Config.init r w w' m).1 = .ok)) (Config.init r w w' m).2 := by
  rcases loadFromNvs_cases r m with ⟨e, he, hl⟩ | ⟨ho, hg, hl⟩
  · by_cases hn : e = .nvsNotFound
    · subst hn
      have hd := storable_defaults m.currentConfig
      have hs := (h.withConfig hd).saveToNvs hd.checked w
      simp only [Config.init, hl]
      split
      · rename_i m₁ hm
        rw [hm] at hs
        exact (hs.repairHost w').mono
      · rename_i e₁ m₁ _ hm
        rw [hm] at hs
        exact hs.mono
    · have hi : Config.init r w w' m = (e, m) := by
        simp only [Config.init, hl]
      rw [hi, decide_eq_false he, Bool.or_false]
      exact h
  · have hs := h.withConfig (h.flash _ (hr ho hg))
    simp only [Config.init, hl]
    exact (hs.repairHost w').mono

theorem configOf_tcpHost {root : Json} {c : AntennaSwitchConfig} (h : configOf root = .ok c) :
    c.tcpHost.Terminated := by
  obtain ⟨n, -, -, rfl⟩ := configOf_ok_iff.mp h
  exact terminated_built root n

structure Safe (s : Life) : Prop where
  manager : Sound s.ready s.device.configManager
  parser : InBounds s.device.catParser.currentConfig

theorem Safe.withManager {s : Life} {m : ConfigManager} (h : Safe s) (hm : Sound s.ready m) :
    Safe (withManager m s) := ⟨hm, h.parser⟩

theorem safe_boot {flash : List AntennaSwitchConfig} (h : ∀ c ∈ flash, Storable c) :
    Safe (boot flash) := by
  have hz : InBounds .zero :=
    ⟨Nat.zero_le _, Nat.zero_le _, CharArray.terminated_zero (by decide)⟩
  exact ⟨⟨hz, h, fun hr => Bool.noConfusion hr⟩, hz⟩

theorem Safe.postDocument {s : Life} (h : Safe s) (w : NvsWrite) (root : Json) :
    Safe (ConfigLifetime.withDevice (Web.postDocument w root s.device).2 s) := by
  rw [Web.postDocument]
  cases hc : configOf root with
  | error e => exact h
  | ok c =>
      have hm := h.manager.updateConfig w c (configOf_tcpHost hc)
      dsimp only
      split
      · rename_i m he
        rw [he] at hm
        exact ⟨hm, hm.current⟩
      · rename_i e m _ he
        rw [he] at hm
        exact ⟨hm, h.parser⟩

theorem Safe.post {s : Life} (h : Safe s) (parse : Bytes → Option Json) (w : NvsWrite)
    (r : PostRequest) : Safe (ConfigLifetime.withDevice (configPostHandler parse w r s.device).2 s) := by
  rcases configPostHandler_cases parse w r s.device with ⟨e, he⟩ | ⟨b, received, root, -, -, hp⟩
  · rw [he]
    exact h
  · rw [hp]
    exact h.postDocument w root

theorem Safe.configGet {s : Life} (h : Safe s) (w : NvsWrite) :
    Safe (ConfigLifetime.withDevice (configGetHandler w s.device).2 s) := by
  have hm := h.manager.updateConfig w
    { s.device.configManager.currentConfig with numBands := 1 } h.manager.current.tcpHost
  rw [configGetHandler]
  dsimp only
  split <;> split
  · exact h.withManager hm
  · split <;> exact h.withManager hm
  · exact h
  · split <;> exact h

theorem Safe.catInit {s : Life} (h : Safe s) (w : NvsWrite) :
    Safe (ConfigLifetime.withDevice (Cat.init w s.device).2 s) := by
  have hc := h.manager.current
  rw [Cat.init]
  dsimp only
  split
  · exact ⟨h.manager.updateConfig w _ hc.tcpHost, hc.1, hc.2, hc.3⟩
  · exact ⟨h.manager, hc⟩

theorem handleFrequencyChange_configs (f : UInt32) (d : Device) :
    (handleFrequencyChange f d).2.configManager = d.configManager ∧
      (handleFrequencyChange f d).2.catParser.currentConfig = d.catParser.currentConfig := by
  rw [handleFrequencyChange_eq]
  dsimp only
  split <;> exact ⟨rfl, rfl⟩

theorem runCommand_configs (cmd : CatCommand) (d : Device) :
    (runCommand cmd d).configManager = d.configManager ∧
      (runCommand cmd d).catParser.currentConfig = d.catParser.currentConfig := by
  cases cmd with
  | fa param =>
      simp only [runCommand, processFaCommand]
      split
      · exact ⟨rfl, rfl⟩
      · exact handleFrequencyChange_configs _ d
  | info param =>
      simp only [runCommand, processIfCommand]
      split
      · exact ⟨rfl, rfl⟩
      · split
        · exact ⟨rfl, rfl⟩
        · exact handleFrequencyChange_configs _ _

theorem Safe.report {s : Life} (h : Safe s) (cmd : CatCommand) :
    Safe (ConfigLifetime.withDevice (runCommand cmd s.device) s) := by
  obtain ⟨hm, hp⟩ := runCommand_configs cmd s.device
  refine ⟨?_, ?_⟩
  · rw [ConfigLifetime.withDevice, hm]
    exact h.manager
  · rw [ConfigLifetime.withDevice, hp]
    exact h.parser

theorem Safe.next {s : Life} (h : Safe s) {a : Action} (hr : Readable s a) : Safe (next s a) := by
  have hc := h.manager.current.tcpHost
  cases a with
  | boot => exact safe_boot h.manager.flash
  | configInit r w w' => exact ⟨h.manager.init hr w w', h.parser⟩
  | addObserver => exact ⟨⟨h.manager.current, h.manager.flash, h.manager.checked⟩, h.parser⟩
  | installRelay c => exact ⟨h.manager, h.parser⟩
  | post parse w r => exact h.post parse w r
  | configGet w => exact h.configGet w
  | resetConfig w =>
      have hm := h.manager.updateConfig w Web.resetConfig
        (CharArray.terminated_zero (by decide))
      rw [ConfigLifetime.next, resetConfigHandler_snd]
      exact h.withManager hm
  | toggleAutoMode w =>
      have hm := h.manager.updateConfig w
        { s.device.configManager.currentConfig with
          autoMode := !s.device.configManager.currentConfig.autoMode } hc
      rw [ConfigLifetime.next, toggleAutoModeHandler_snd]
      exact h.withManager hm
  | apCommand w param =>
      simp only [ConfigLifetime.next, processApCommand]
      split
      · exact h
      · exact h.withManager (h.manager.updateConfig w _ hc)
  | setAutoMode w autoMode => exact h.withManager (h.manager.updateConfig w _ hc)
  | setTcpPort w port => exact ⟨h.manager.updateConfig w _ hc, h.parser⟩
  | setTcpHost reinit w host =>
      have hm := h.manager.updateConfig w
        { s.device.configManager.currentConfig with tcpHost := CharArray.strncpy host }
        (CharArray.terminated_strncpy (by decide) host)
      simp only [ConfigLifetime.next, antennaSwitchSetTcpHost]
      cases s.installed with
      | false => exact ⟨hm, h.parser⟩
      | true =>
          simp only [if_true]
          split
          · exact ⟨hm, h.parser⟩
          · exact ⟨h.manager, h.parser⟩
  | catInit w => exact h.catInit w
  | catUpdate => exact ⟨h.manager, h.manager.current⟩
  | report cmd => exact h.report cmd

theorem Lived.safe {s : Life} (h : Lived s) : Safe s := by
  refine h.invariant Safe (safe_boot (by simp)) ?_
  rintro s a s' hs ⟨hr, rfl⟩
  exact hs.next hr

/-- In every state of every lifetime both configurations are in bounds, no loop
over them leaves an array or asks for a relay that does not exist, and once
`ConfigManager::init` has succeeded both counts are positive. -/
theorem lived_inBounds (s : Life) (h : Lived s) :
    InBounds s.device.configManager.currentConfig ∧
    InBounds s.device.catParser.currentConfig ∧
    (∀ freq, getBandIndex? freq s.device.catParser =
      some (getBandIndex freq s.device.catParser)) ∧
    (∀ freq c, antennaSwitchSetFrequency? s.device.configManager.currentConfig freq c =
      some (antennaSwitchSetFrequency s.device.configManager.currentConfig freq c)) ∧
    (∀ freq, findActivePort? freq s.device.configManager.currentConfig =
      some (findActivePort freq s.device.configManager.currentConfig)) ∧
    (s.ready = true → 1 ≤ s.device.configManager.currentConfig.numBands.toNat ∧
      1 ≤ s.device.configManager.currentConfig.numAntennaPorts.toNat) := by
  have hs := h.safe
  have hm := hs.manager.current
  refine ⟨hm, hs.parser, getBandIndex?_eq hs.parser, antennaSwitchSetFrequency?_eq hm,
    findActivePort?_eq hm, fun hr => ?_⟩
  have hc := hs.manager.checked hr
  exact ⟨hc.1, hc.2.2.1⟩

theorem Lived.next {s : Life} (h : Lived s) (a : Action) (hr : Readable s a) : Lived (next s a) :=
  h.tail ⟨a, hr, rfl⟩

def posted : Json :=
  .object
    [(text "auto_mode", .bool true), (text "num_bands", .number 1), (text "num_antenna_ports", .number 2),
      (text "tcp_port", .number 12090), (text "uart_baud_rate", .number 9600),
      (text "uart_parity", .number 0), (text "uart_stop_bits", .number 1),
      (text "uart_flow_ctrl", .number 0),
      (text "bands", .array [.object [(text "description", .string (text "20m")),
        (text "antenna_ports", .array [.bool false, .bool true])]])]

/-- Erased flash, a toggle whose commit fails, a reboot, a POST and a report. -/
theorem lived_inBounds_first :
    let s := next (boot []) (.configInit ⟨.ok, .nvsNotFound, .zero⟩ .success .success)
    let s₁ := next (next s (.toggleAutoMode ⟨.ok, .ok, .fail⟩)) .boot
    let s₂ := next s₁ (.configInit ⟨.ok, .ok, defaults .zero⟩ .success .success)
    let s₃ := next s₂ (.post (fun _ => some posted) .success ⟨1, true, fun _ => 0, some [123]⟩)
    let s₄ := next s₃ (.report (.fa (text "00014074000")))
    s₄.ready = true ∧ s₄.device.configManager.currentConfig.numBands = 1 ∧
      getBandIndex? 14100000 s₄.device.catParser = some 0 ∧
      findActivePort? 14100000 s₄.device.configManager.currentConfig = some 2 ∧
      1 ≤ s₄.device.configManager.currentConfig.numBands.toNat := by
  intro s s₁ s₂ s₃ s₄
  have hl : Lived s := Lived.next .refl _ fun _ hg => EspErr.noConfusion hg
  have hl₁ : Lived s₁ := (hl.next (.toggleAutoMode ⟨.ok, .ok, .fail⟩) trivial).next .boot trivial
  have hsaved : defaults .zero ∈ s₁.device.configManager.flash := by
    have hflash : s₁.device.configManager.flash =
        [{ defaults .zero with autoMode := !(defaults .zero).autoMode }, defaults .zero] := rfl
    rw [hflash]
    exact List.mem_cons_of_mem _ List.mem_cons_self
  have hl₂ : Lived s₂ := hl₁.next _ fun _ _ => hsaved
  have hl₃ : Lived s₃ := hl₂.next (.post _ .success _) trivial
  have hl₄ : Lived s₄ := hl₃.next (.report (.fa (text "00014074000"))) trivial
  have hready : s₄.ready = true := by decide +kernel
  have h := lived_inBounds s₄ hl₄
  refine ⟨hready, by decide +kernel, ?_, ?_, (h.2.2.2.2.2 hready).1⟩
  · rw [h.2.2.1]
    decide +kernel
  · rw [h.2.2.2.2.1]
    decide +kernel

end BandDecoder.ConfigLifetime
