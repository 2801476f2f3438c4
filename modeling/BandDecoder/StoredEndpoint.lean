import BandDecoder.ApCommand
import BandDecoder.ConfigImage
import BandDecoder.ConfigLifetime
import BandDecoder.PostedConfig

namespace BandDecoder.StoredEndpoint

open CStrings SwitchConfig Config ConfigImage Switch Cat Web PostedDocument BandCache Runs
open ConfigLifetime (Life boot)

/-- A life of the device; `cleared` says that `/reset-config` was called and no POST has
succeeded since. -/
structure Endpoint where
  life : Life
  cleared : Bool

inductive Action
  | post (parse : Bytes → Option Json) (r : PostRequest)
  | resetConfig
  | toggleAutoMode
  | apCommand (param : Bytes)
  | setAutoMode (autoMode : Bool)
  | reboot

/-- `load_from_nvs` while every NVS call succeeds: the last blob, if one was written. -/
def readBack (flash : List AntennaSwitchConfig) : NvsRead := match flash with
  | [] => ⟨.ok, .nvsNotFound, .zero⟩
  | c :: _ => ⟨.ok, .ok, c⟩

def restart (s : Life) : Life :=
  ConfigLifetime.next (ConfigLifetime.next s .boot)
    (.configInit (readBack s.device.configManager.flash) .success .success)

def succeeds (parse : Bytes → Option Json) (r : PostRequest) (d : Device) : Bool :=
  (ifHandled (configPostHandler parse .success r d)).isSome

def next (s : Endpoint) : Action → Endpoint
  | .post parse r => ⟨ConfigLifetime.next s.life (.post parse .success r),
      s.cleared && !succeeds parse r s.life.device⟩
  | .resetConfig => ⟨ConfigLifetime.next s.life (.resetConfig .success), true⟩
  | .toggleAutoMode => ⟨ConfigLifetime.next s.life (.toggleAutoMode .success), s.cleared⟩
  | .apCommand param => ⟨ConfigLifetime.next s.life (.apCommand .success param), s.cleared⟩
  | .setAutoMode autoMode => ⟨ConfigLifetime.next s.life (.setAutoMode .success autoMode), s.cleared⟩
  | .reboot => ⟨restart s.life, s.cleared⟩

def start : Endpoint := ⟨restart (boot []), false⟩

def Step (s : Endpoint) (a : Action) (s' : Endpoint) : Prop := s' = next s a

theorem step_next (s : Endpoint) (a : Action) : Step s a (next s a) := rfl

/-- Behind a successful `ConfigManager::init` there is a host and a port to connect to. -/
def Usable (s : Life) : Prop := s.ready = true →
  s.device.configManager.currentConfig.tcpHost.str ≠ [] ∧
    1 ≤ s.device.configManager.currentConfig.tcpPort.toNat ∧
    s.device.configManager.currentConfig.tcpPort.toNat ≤ 65535

def Kept (s : Endpoint) (a : Action) : Prop := a = .reboot → s.cleared = false

/-- The configuration in memory is the one stored last, and its port is missing exactly
while it is cleared. -/
structure Inv (s : Endpoint) : Prop where
  ready : s.life.ready = true
  stored : s.life.device.configManager.flash.head? =
    some s.life.device.configManager.currentConfig
  port : s.cleared = true ↔ s.life.device.configManager.currentConfig.tcpPort = 0

theorem repairHost_stored {m : ConfigManager} (h : m.flash.head? = some m.currentConfig) :
    (repairHost .success m).1 = .ok ∧
      (repairHost .success m).2.flash.head? = some (withHost m.currentConfig) ∧
      (repairHost .success m).2.currentConfig = withHost m.currentConfig := by
  refine ⟨repairHost_ok_iff.mpr fun _ => rfl, ?_, repairHost_currentConfig .success m⟩
  rw [repairHost, withHost]
  split
  · rfl
  · exact h

/-- A restart brings back what is stored, with a host put in where there is none. -/
theorem restart_stored {s : Life} {c : AntennaSwitchConfig}
    (h : s.device.configManager.flash.head? = some c) :
    (restart s).ready = true ∧
      (restart s).device.configManager.flash.head? = some (withHost c) ∧
      (restart s).device.configManager.currentConfig = withHost c := by
  have hr : ∀ flash, s.device.configManager.flash = c :: flash → (restart s).ready = true ∧
      (restart s).device.configManager = (repairHost .success ⟨c, [], c :: flash⟩).2 := by
    intro flash hf
    have hok : (repairHost .success ⟨c, [], c :: flash⟩).1 = .ok :=
      (repairHost_stored (m := ⟨c, [], c :: flash⟩) rfl).1
    rw [restart, hf]
    change (false || decide ((repairHost .success ⟨c, [], s.device.configManager.flash⟩).1 = .ok)) =
        true ∧ (repairHost .success ⟨c, [], s.device.configManager.flash⟩).2 = _
    rw [hf, hok]
    exact ⟨rfl, rfl⟩
  obtain ⟨flash, hf⟩ : ∃ flash, s.device.configManager.flash = c :: flash := by
    cases hf : s.device.configManager.flash with
    | nil =>
        rw [hf] at h
        cases h
    | cons d flash =>
        rw [hf] at h
        cases h
        exact ⟨flash, rfl⟩
  obtain ⟨hready, hm⟩ := hr flash hf
  obtain ⟨-, hflash, hcurrent⟩ := repairHost_stored (m := ⟨c, [], c :: flash⟩) rfl
  rw [hm]
  exact ⟨hready, hflash, hcurrent⟩

theorem inv_start : Inv start := by
  have hp : (defaults AntennaSwitchConfig.zero).tcpPort ≠ 0 := by decide
  have hh : (defaults AntennaSwitchConfig.zero).tcpHost.str ≠ [] := str_default_host_ne_nil _
  have hm : (restart (boot [])).device.configManager =
      (repairHost .success ⟨defaults .zero, [], [defaults .zero]⟩).2 := rfl
  have hr : (restart (boot [])).ready =
      decide ((repairHost .success ⟨defaults .zero, [], [defaults .zero]⟩).1 = .ok) := rfl
  have hk : repairHost .success ⟨defaults .zero, [], [defaults .zero]⟩ =
      (.ok, ⟨defaults .zero, [], [defaults .zero]⟩) := if_neg hh
  rw [hk] at hm hr
  refine ⟨hr, ?_, ?_⟩
  · rw [start, hm]
    rfl
  · rw [start, hm]
    exact iff_of_false Bool.false_ne_true hp

/-- An update with NVS succeeding leaves memory and flash in step. -/
theorem updateConfig_stored {m : ConfigManager} (h : m.flash.head? = some m.currentConfig)
    (c : AntennaSwitchConfig) :
    (updateConfig .success c m).2.flash.head? =
        some (updateConfig .success c m).2.currentConfig ∧
      (updateConfig .success c m).2.currentConfig = if c.Checked then c else m.currentConfig := by
  by_cases hc : c.Checked
  · rw [updateConfig_success hc, if_pos hc]
    exact ⟨rfl, rfl⟩
  · rw [updateConfig_refused hc, if_neg hc]
    exact ⟨h, rfl⟩

theorem Inv.update {s s' : Endpoint} (h : Inv s) {c : AntennaSwitchConfig}
    (hm : s'.life.device.configManager =
      (updateConfig .success c s.life.device.configManager).2)
    (hc : c.tcpPort = s.life.device.configManager.currentConfig.tcpPort)
    (hr : s'.life.ready = s.life.ready) (hcl : s'.cleared = s.cleared) : Inv s' := by
  obtain ⟨hs, he⟩ := updateConfig_stored h.stored c
  refine ⟨hr.trans h.ready, ?_, ?_⟩
  · rw [hm]
    exact hs
  · rw [hm, hcl, he, h.port]
    split
    · rw [hc]
    · rfl

theorem Inv.same {s s' : Endpoint} (h : Inv s) (hr : s'.life.ready = s.life.ready)
    (hcl : s'.cleared = s.cleared)
    (hm : s'.life.device.configManager = s.life.device.configManager) : Inv s' := by
  refine ⟨hr.trans h.ready, ?_, ?_⟩
  · rw [hm]
    exact h.stored
  · rw [hm, hcl]
    exact h.port

theorem Inv.resetConfig {s : Endpoint} (h : Inv s) : Inv (next s .resetConfig) := by
  have hc : Web.resetConfig.Checked := by decide
  obtain ⟨hs, he⟩ := updateConfig_stored h.stored Web.resetConfig
  rw [if_pos hc] at he
  have hn : (next s .resetConfig).life.device.configManager =
      (updateConfig .success Web.resetConfig s.life.device.configManager).2 := by
    rw [next]
    dsimp only
    rw [ConfigLifetime.next, resetConfigHandler_snd]
    rfl
  refine ⟨h.ready, ?_, ?_⟩
  · rw [hn]
    exact hs
  · rw [hn, he]
    exact iff_of_true rfl rfl

theorem configOf_tcpPort {root : Json} {c : AntennaSwitchConfig} (h : configOf root = .ok c) :
    c.tcpPort ≠ 0 := by
  obtain ⟨n, -, hv, rfl⟩ := configOf_ok_iff.mp h
  have hp := hv.tcpPort
  have hn := PostedConfig.toNat_ofInt16 (v := n.tcpPort) (by omega) (by omega)
  intro h0
  have hz : UInt16.ofInt n.tcpPort = 0 := h0
  rw [hz] at hn
  change (0 : Int) = n.tcpPort at hn
  omega

/-- A POST takes a configuration with a port of its own and succeeds, or it changes
nothing. -/
theorem post_cases (parse : Bytes → Option Json) (r : PostRequest) (d : Device) :
    (∃ c, c.Checked ∧ c.tcpPort ≠ 0 ∧ succeeds parse r d = true ∧
      (configPostHandler parse .success r d).2.configManager = stored c d.configManager) ∨
    (succeeds parse r d = false ∧
      (configPostHandler parse .success r d).2.configManager = d.configManager) := by
  rw [succeeds]
  rcases configPostHandler_cases parse .success r d with ⟨e, he⟩ | ⟨b, received, root, -, -, hp⟩
  · rw [he]
    exact Or.inr ⟨rfl, rfl⟩
  · rw [hp, postDocument]
    cases hc : configOf root with
    | error e => exact Or.inr ⟨rfl, rfl⟩
    | ok c =>
        dsimp only
        by_cases hk : c.Checked
        · rw [updateConfig_success hk]
          exact Or.inl ⟨c, hk, configOf_tcpPort hc, rfl, rfl⟩
        · rw [updateConfig_refused hk]
          exact Or.inr ⟨rfl, rfl⟩

theorem Inv.post {s : Endpoint} (h : Inv s) (parse : Bytes → Option Json) (r : PostRequest) :
    Inv (next s (.post parse r)) := by
  rcases post_cases parse r s.life.device with ⟨c, hc, hp, hok, hm⟩ | ⟨hf, hm⟩
  · have hcl : (next s (.post parse r)).cleared = false := by
      rw [next]
      dsimp only
      rw [hok]
      exact Bool.and_false _
    have hmm : (next s (.post parse r)).life.device.configManager =
        Config.stored c s.life.device.configManager := hm
    refine ⟨h.ready, ?_, ?_⟩
    · rw [hmm]
      rfl
    · rw [hmm, hcl]
      exact iff_of_false Bool.false_ne_true hp
  · refine h.same rfl ?_ hm
    rw [next]
    dsimp only
    rw [hf]
    exact Bool.and_true _

theorem Inv.apCommand {s : Endpoint} (h : Inv s) (param : Bytes) : Inv (next s (.apCommand param)) := by
  by_cases hs : charAt param (strtoul 32 param).2 = 0
  · have hp := congrArg (fun r : EspErr × Device => r.2.configManager)
      (ApCommand.processApCommand_parsed hs s.life.device)
    exact h.update hp rfl rfl rfl
  · have hp := congrArg (fun r : EspErr × Device => r.2.configManager)
      (ApCommand.processApCommand_stopped hs s.life.device)
    exact h.same rfl rfl hp

theorem Inv.next {s : Endpoint} (h : Inv s) (a : Action) : Inv (next s a) := by
  cases a with
  | post parse r => exact h.post parse r
  | resetConfig => exact h.resetConfig
  | toggleAutoMode =>
      have ht := congrArg Device.configManager (toggleAutoModeHandler_snd .success s.life.device)
      exact h.update ht rfl rfl rfl
  | apCommand param => exact h.apCommand param
  | setAutoMode autoMode =>
      have ha : (StoredEndpoint.next s (.setAutoMode autoMode)).life.device.configManager =
          (updateConfig .success { s.life.device.configManager.currentConfig with autoMode }
            s.life.device.configManager).2 := rfl
      exact h.update ha rfl rfl rfl
  | reboot =>
      obtain ⟨hr, hf, hc⟩ := restart_stored h.stored
      refine ⟨hr, ?_, ?_⟩
      · rw [StoredEndpoint.next]
        dsimp only
        rw [hf, hc]
      · rw [StoredEndpoint.next]
        dsimp only
        rw [hc, withHost_tcpPort]
        exact h.port

/-- What a reboot brings up can be connected to exactly when the port was not cleared. -/
theorem Inv.usable_iff {s : Endpoint} (h : Inv s) : Usable (restart s.life) ↔ s.cleared = false := by
  obtain ⟨hr, -, hc⟩ := restart_stored h.stored
  rw [Usable, hc, withHost_tcpPort]
  have hp := h.port
  constructor
  · intro hu
    by_contra hcl
    rw [Bool.not_eq_false] at hcl
    have h1 := (hu hr).2.1
    rw [hp.mp hcl] at h1
    exact absurd h1 (by decide)
  · intro hcl _
    have hne : s.life.device.configManager.currentConfig.tcpPort ≠ 0 := by
      intro h0
      rw [hp.mpr h0] at hcl
      cases hcl
    have hpos : s.life.device.configManager.currentConfig.tcpPort.toNat ≠ 0 :=
      fun h0 => hne (UInt16.toNat_inj.mp h0)
    have hlt := s.life.device.configManager.currentConfig.tcpPort.toNat_lt
    exact ⟨withHost_host_ne_nil _, Nat.pos_of_ne_zero hpos, by omega⟩

/-- In a run from erased flash every start but one that finds the port cleared can
connect. -/
theorem usable_iff_kept {t : List (Action × Endpoint)} (h : Run Step start t) :
    (∀ x ∈ t, x.1 = .reboot → Usable x.2.life) ↔ Guarded Kept start t := by
  refine h.forall_iff_guarded Inv (fun a s => a = .reboot → Usable s.life) inv_start ?_ ?_
  · rintro s a _ hi rfl hk
    refine ⟨hi.next a, ?_⟩
    rintro rfl
    exact hi.usable_iff.mpr (hk rfl)
  · rintro s a _ hi rfl hk hu
    obtain ⟨rfl, hcl⟩ := Classical.not_imp.mp hk
    exact hcl (hi.usable_iff.mp (hu rfl))

theorem usable_iff_kept_twice :
    (∀ x ∈ trace next start [.toggleAutoMode, .reboot], x.1 = .reboot → Usable x.2.life) ↔
      Guarded Kept start (trace next start [.toggleAutoMode, .reboot]) :=
  usable_iff_kept (run_trace step_next start [.toggleAutoMode, .reboot])

/-- A reset followed by a reboot starts the device with port 0. -/
theorem usable_fails : ¬ ∀ t : List (Action × Endpoint), Run Step start t →
    ∀ x ∈ t, x.1 = .reboot → Usable x.2.life := by
  intro h
  have hr := run_trace step_next start [.resetConfig, .reboot]
  have hu := h _ hr _ (List.mem_cons_of_mem _ List.mem_cons_self) rfl
  exact Bool.noConfusion ((inv_start.next .resetConfig).usable_iff.mp hu)

end BandDecoder.StoredEndpoint
