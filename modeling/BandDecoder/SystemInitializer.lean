import BandDecoder.Cat
import BandDecoder.SendCommand

namespace BandDecoder.SystemInitializer

open CStrings SwitchConfig Config Relay Switch Cat

/-- The configuration and the parser, the static pointer of the antenna switch, and
the number of `tcp_task`s that take requests from the controller behind it. -/
structure System where
  configManager : ConfigManager
  catParser : CatParser
  relayController : Option RelayController
  tasks : Nat

structure FullScript where
  read : NvsRead
  save : NvsWrite
  repair : NvsWrite
  validIp : Bool
  init : InitScript
  saveBaud : NvsWrite
  uartCreated : Bool

def antennaSwitchInit (f : FullScript) (s : System) : EspErr × System :=
  let (e, m) := Config.init f.read f.save f.repair s.configManager
  (e, { s with configManager := m })

def newController (config : AntennaSwitchConfig) : RelayController :=
  if config.tcpHost.str = [] then construct
  else { construct with tcpHost := config.tcpHost.str, tcpPort := config.tcpPort }

/-- The result of `init` is only logged. `xTaskCreate` is taken to succeed. -/
def connect (f : FullScript) (config : AntennaSwitchConfig) : RelayController × Nat :=
  let c := newController config
  if config.tcpHost.str ≠ [] ∧ f.validIp then
    match c.init f.init with
    | (.ok, c) => (c, 1)
    | (_, c) => (c, 0)
  else (c, 0)

def catParserInit (f : FullScript) (s : System) : EspErr × System :=
  match Cat.init f.saveBaud ⟨s.configManager, s.catParser, construct⟩ with
  | (.ok, d) => (if f.uartCreated then .ok else .fail,
      { s with configManager := d.configManager, catParser := d.catParser })
  | (e, d) => (e, { s with configManager := d.configManager, catParser := d.catParser })

def install (c : RelayController × Nat) (s : System) : System :=
  { s with relayController := some c.1, tasks := c.2 }

def initializeFull (f : FullScript) (s : System) : EspErr × System :=
  match antennaSwitchInit f s with
  | (.ok, s) =>
      let c := connect f s.configManager.currentConfig
      match catParserInit f s with
      | (.ok, s) => (.ok, install c s)
      | (e, s) => (e, s)
  | (e, s) => (e, s)

def Starts (f : FullScript) (s : System) : Prop :=
  (antennaSwitchInit f s).1 = .ok ∧ (catParserInit f (antennaSwitchInit f s).2).1 = .ok

def loaded (f : FullScript) (s : System) : AntennaSwitchConfig :=
  (antennaSwitchInit f s).2.configManager.currentConfig

theorem initializeFull_starts {f : FullScript} {s : System} (h : Starts f s) :
    initializeFull f s =
      (.ok, install (connect f (loaded f s)) (catParserInit f (antennaSwitchInit f s).2).2) := by
  obtain ⟨ha, hc⟩ := h
  rw [initializeFull]
  split
  · rename_i s' hs
    rw [hs] at hc
    rw [loaded, hs]
    dsimp only at hc ⊢
    split
    · rename_i s'' h
      rw [h]
    · rename_i e s'' hne h
      rw [h] at hc
      exact (hne hc).elim
  · rename_i e s' hne hs
    rw [hs] at ha
    exact (hne ha).elim

theorem starts_of_initializeFull {f : FullScript} {s : System}
    (h : (initializeFull f s).1 = .ok) : Starts f s := by
  rw [initializeFull] at h
  split at h
  · rename_i s' hs
    rw [Starts, hs]
    dsimp only at h ⊢
    split at h
    · rename_i s'' hc
      exact ⟨rfl, by rw [hc]⟩
    · rename_i e s'' hne hc
      exact (hne h).elim
  · rename_i e s' hne hs
    exact (hne h).elim

def reinit (i : InitScript) (host : Bytes) (c : RelayController) : EspErr × RelayController :=
  RelayController.init i { c with tcpHost := cstr host }

def setTcpHost (i : InitScript) (w : NvsWrite) (host : Bytes) (s : System) : EspErr × System :=
  let (e, m, c) := antennaSwitchSetTcpHost (RelayController.init i) w (cstr host) s.configManager
    s.relayController
  let created := (s.relayController.map fun c => (reinit i host c).1) = some .ok
  (e, { s with
    configManager := m
    relayController := c
    tasks := if created then s.tasks + 1 else s.tasks })

def withHost (host : Bytes) (m : ConfigManager) : AntennaSwitchConfig :=
  { m.currentConfig with tcpHost := CharArray.strncpy (cstr host) }

theorem setTcpHost_none {i : InitScript} {w : NvsWrite} {host : Bytes} {s : System}
    (h : s.relayController = none) : (setTcpHost i w host s).2.relayController = none := by
  simp only [setTcpHost, antennaSwitchSetTcpHost, h]

/-- Once the connection is made anew, a second task runs and the host is saved. -/
theorem setTcpHost_ok {i : InitScript} {w : NvsWrite} {host : Bytes} {s : System}
    {c : RelayController} (h : s.relayController = some c) (hi : (reinit i host c).1 = .ok) :
    setTcpHost i w host s =
      ((Config.updateConfig w (withHost host s.configManager) s.configManager).1,
        { s with
          configManager :=
            (Config.updateConfig w (withHost host s.configManager) s.configManager).2
          relayController := some (reinit i host c).2
          tasks := s.tasks + 1 }) := by
  have hr : RelayController.init i { c with tcpHost := cstr host } = (.ok, (reinit i host c).2) :=
    Prod.ext hi rfl
  simp only [setTcpHost, antennaSwitchSetTcpHost, h, hr, Option.map_some, hi, if_true]
  rfl

/-- Without a connection the new host is known to the controller alone. -/
theorem setTcpHost_error {i : InitScript} {w : NvsWrite} {host : Bytes} {s : System}
    {c : RelayController} (h : s.relayController = some c) (hi : (reinit i host c).1 ≠ .ok) :
    setTcpHost i w host s =
      ((reinit i host c).1, { s with relayController := some (reinit i host c).2 }) := by
  simp only [setTcpHost, antennaSwitchSetTcpHost, h, Option.map_some, Option.some.injEq, if_neg hi]
  split
  · rename_i c' hr
    exact absurd (congrArg Prod.fst hr) hi
  · rename_i e c' _ hr
    rw [reinit, hr]

def setTcpPort (w : NvsWrite) (port : UInt16) (s : System) : EspErr × System :=
  let (e, m, c) := antennaSwitchSetTcpPort w port s.configManager s.relayController
  (e, { s with configManager := m, relayController := c })

def setTcpSettings (x : SettingsScript) (host : Bytes) (port : UInt16) (s : System) :
    Option (EspErr × System) :=
  s.relayController.map fun c =>
    let (e, c) := updateTcpSettings x host port c
    (e, { s with relayController := some c })

/-! A first boot: nothing is stored, and the default host is reached or not. -/

def poweredOff : System := ⟨⟨.zero, [], []⟩, ⟨.zero, 0, -1, false, .unset⟩, none, 0⟩

def attempts (reached : Bool) : InitScript :=
  ⟨fun _ => (⟨if reached then some 3 else none, .done, .ready, false, ⟨false, some (text "OK")⟩⟩, false),
    fun _ => SendCommand.exchange []⟩

def firstBoot (reached : Bool) : FullScript :=
  ⟨⟨.ok, .nvsNotFound, .zero⟩, .success, .success, true, attempts reached, .success, true⟩

end BandDecoder.SystemInitializer
