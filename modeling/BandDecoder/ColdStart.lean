import BandDecoder.Durability
import BandDecoder.PageToBoard
import BandDecoder.RelayLookup
import BandDecoder.Startup

namespace BandDecoder.ColdStart

open CStrings SwitchConfig Config ConfigImage Relay Switch Cat StateReply SendCommand RelayState Runs
open SystemInitializer hiding withHost loaded
open Durability (withBaudRate)
open PromptBoard (Alone Undisturbed Done)
open BoardProtocol (Shows World)
open Tuning (Rig PoweredOn lastReport)

/-- The text in the response buffer shows the outputs, if it can be read at all. -/
def Agrees (v : BitVec 16) (c : RelayController) : Prop := ∀ u, parse (cstr c.response) = some u → u = v

/-- The board answers a state query with its outputs, or with something that cannot be
read, or not at all. -/
def Tells (v : BitVec 16) (x : Exchange) : Prop :=
  ∀ c, Agrees v c → Agrees v (updateAllRelayStates x c).2

def AtMostOne (v : BitVec 16) : Prop :=
  ∀ i < 16, ∀ j < 16, v.getLsbD i = true → v.getLsbD j = true → i = j

structure Ready (v : BitVec 16) (c : RelayController) : Prop where
  request : c.latestRequest = noRequest
  alone : Alone c
  known : c.currentlySelectedRelay = 0 ∨ Shows c v

structure Blank (c : RelayController) : Prop where
  request : c.latestRequest = noRequest
  selected : c.currentlySelectedRelay = 0
  states : ∀ i, c.relayStates i = none

theorem Blank.of_sameRelays {c c' : RelayController} (h : Blank c) (hc : SameRelays c c') : Blank c' := by
  rw [hc]
  exact ⟨h.request, h.selected, h.states⟩

theorem Blank.ready {v : BitVec 16} {c : RelayController} (h : Blank c) : Ready v c := by
  refine ⟨h.request, fun i _ _ hon => ?_, Or.inl h.selected⟩
  rw [isOn, h.states i] at hon
  cases hon

theorem ready_takePattern {v : BitVec 16} (hv : AtMostOne v) {c : RelayController}
    (hr : c.latestRequest = noRequest) : Ready v (takePattern v c) := by
  have hon (i : Int) (h1 : 1 ≤ i) (h16 : i ≤ NUM_RELAYS) :
      isOn (takePattern v c) i = v.getLsbD (i - 1).toNat := isOn_takePattern v c h1 h16
  have hselected := selectedOn_takePattern v c
  refine ⟨hr, fun i h1 h16 hi => ?_, hselected.imp_right fun h => ⟨hon, h.1, h.2.1, h.2.2⟩⟩
  rw [hon i h1 h16] at hi
  rw [NUM_RELAYS] at h16
  rcases hselected with h0 | ⟨hs1, hs16, hs⟩
  · have hzero : ffs v = 0 := Int.ofNat.inj h0
    have hoff := (ffs_eq_zero_iff).mp hzero (i - 1).toNat (by rw [NUM_RELAYS]; omega)
    rw [hoff] at hi
    cases hi
  · rw [hon _ hs1 hs16] at hs
    rw [NUM_RELAYS] at hs16
    have := hv _ (by omega) _ (by omega) hi hs
    omega

theorem queryStates_ready {v : BitVec 16} (hv : AtMostOne v) {xs : List Exchange}
    (hx : ∀ x ∈ xs, Tells v x) {c : RelayController} (hb : Blank c) (hs : Agrees v c) :
    Ready v (queryStates xs c) := by
  induction xs generalizing c with
  | nil => exact hb.ready
  | cons x xs ih =>
      have htold := hx x List.mem_cons_self c hs
      rcases stateQuery_cases x 500 c with ⟨e, c', he, hc, -, hq⟩ | ⟨received, c', u, hc, -, hp, hq⟩
      · have hu : updateAllRelayStates x c = (e, c') := hq
        rw [hu] at htold
        rw [RelayLookup.queryStates_failed he hu]
        exact ih (fun y hy => hx y (List.mem_cons_of_mem x hy)) (hb.of_sameRelays hc) htold
      · have hu : updateAllRelayStates x c = (.ok, takePattern u c') := hq
        rw [hu] at htold
        obtain rfl : u = v := htold u hp
        rw [queryStates, hu]
        exact ready_takePattern hv (hb.of_sameRelays hc).request

theorem blank_newController (config : AntennaSwitchConfig) : Blank (newController config) := by
  rw [newController]
  split <;> exact ⟨rfl, rfl, fun _ => rfl⟩

theorem agrees_newController (v : BitVec 16) (config : AntennaSwitchConfig) :
    Agrees v (newController config) := by
  have hnone : parse (cstr []) = none := by decide
  intro u hu
  rw [newController] at hu
  split at hu
  · exact absurd (hnone.symm.trans hu) (Option.some_ne_none u).symm
  · exact absurd (hnone.symm.trans hu) (Option.some_ne_none u).symm

/-- Whatever the attempts of `init` come to. -/
theorem init_ready {v : BitVec 16} (hv : AtMostOne v) {x : InitScript} (ht : ∀ i, Tells v (x.queries i))
    {c : RelayController} (hb : Blank c) (hs : Agrees v c) : Ready v (RelayController.init x c).2 := by
  have hx : ∀ y ∈ List.ofFn x.queries, Tells v y := by
    intro y hy
    obtain ⟨i, rfl⟩ := (List.mem_ofFn' x.queries y).mp hy
    exact ht i
  rw [RelayController.init]
  split
  · exact hb.ready
  · split
    · exact queryStates_ready hv hx ⟨hb.request, hb.selected, hb.states⟩ hs
    · exact Blank.ready ⟨hb.request, hb.selected, hb.states⟩

theorem connect_ready {v : BitVec 16} (hv : AtMostOne v) {f : FullScript}
    (ht : ∀ i, Tells v (f.init.queries i)) (config : AntennaSwitchConfig) :
    Ready v (connect f config).1 := by
  have hb := blank_newController config
  have hi := init_ready hv ht hb (agrees_newController v config)
  rw [connect]
  split
  · split
    · rename_i c hc
      rw [hc] at hi
      exact hi
    · rename_i e c _ hc
      rw [hc] at hi
      exact hi
  · exact hb.ready

theorem init_config {w : NvsWrite} {d d' : Device} (h : Cat.init w d = (.ok, d')) :
    d'.configManager.currentConfig = withBaudRate d.configManager.currentConfig ∧
      d'.catParser = { d.catParser with currentConfig := withBaudRate d.configManager.currentConfig } := by
  rw [Cat.init] at h
  dsimp only at h
  rw [withBaudRate]
  split at h
  · rename_i hb
    rcases hu : Config.updateConfig w { d.configManager.currentConfig with uartBaudRate := 9600 }
      d.configManager with ⟨e, m⟩
    rw [hu] at h
    obtain ⟨rfl, rfl⟩ := Prod.mk.inj h
    obtain ⟨-, rfl⟩ := updateConfig_ok hu
    rw [if_pos hb]
    exact ⟨rfl, rfl⟩
  · rename_i hb
    obtain rfl := congrArg Prod.snd h
    rw [if_neg hb]
    exact ⟨rfl, rfl⟩

theorem catParserInit_config {f : FullScript} {s : System} (h : (catParserInit f s).1 = .ok) :
    (catParserInit f s).2.configManager.currentConfig = withBaudRate s.configManager.currentConfig ∧
      (catParserInit f s).2.catParser =
        { s.catParser with currentConfig := withBaudRate s.configManager.currentConfig } := by
  rw [catParserInit] at h ⊢
  split at h
  · rename_i d hd
    exact init_config hd
  · rename_i e d hne _
    exact absurd h hne

theorem antennaSwitchInit_config {f : FullScript} (hopened : f.read.opened = .ok)
    (hblob : f.read.getBlob = .ok) (s : System) :
    (antennaSwitchInit f s).2.configManager.currentConfig = withHost f.read.image ∧
      (antennaSwitchInit f s).2.catParser = s.catParser := by
  refine ⟨?_, rfl⟩
  have hload : loadFromNvs f.read s.configManager =
      (.ok, { s.configManager with currentConfig := f.read.image }) := by
    rw [loadFromNvs, if_neg (not_not.mpr hopened), if_neg (not_not.mpr hblob)]
  change (Config.init f.read f.save f.repair s.configManager).2.currentConfig = _
  rw [(Durability.init_loaded hload f.save f.repair).1, repairHost_currentConfig]

/-- What the line and the board find when `initialize_full` has returned with one task
on the installed controller. -/
def rig (s : System) (outputs : BitVec 16) : Option Rig :=
  match s.relayController with
  | none => none
  | some c =>
      if s.tasks = 1 then
        some ⟨s.configManager, s.catParser, [], ⟨⟨c, noRequest, .idle⟩, outputs, [], [], 0, 0, 0⟩, [], []⟩
      else none

section Boot

variable {f : FullScript} {s' : System} {s₀ : Rig} {v : BitVec 16}

/-- What is assumed of the start elsewhere is what `initialize_full` leaves: the
configuration that was read, repaired, and a controller that knows nothing of the relays
or the one that is on. -/
theorem poweredOn_of_initializeFull (hok : initializeFull f poweredOff = (.ok, s'))
    (hrig : rig s' v = some s₀) (hopened : f.read.opened = .ok) (hblob : f.read.getBlob = .ok)
    (ht : ∀ i, Tells v (f.init.queries i)) (hv : AtMostOne v) :
    PoweredOn (withBaudRate (withHost f.read.image)) s₀ := by
  have hstarts := starts_of_initializeFull (congrArg Prod.fst hok)
  obtain rfl : s' = install (connect f (SystemInitializer.loaded f poweredOff))
      (catParserInit f (antennaSwitchInit f poweredOff).2).2 :=
    congrArg Prod.snd (hok.symm.trans (initializeFull_starts hstarts))
  obtain ⟨hconfig, hparser⟩ := antennaSwitchInit_config hopened hblob poweredOff
  obtain ⟨hmanager, hcopy⟩ := catParserInit_config hstarts.2
  rw [hconfig] at hmanager hcopy
  rw [hparser] at hcopy
  have hready := connect_ready hv ht (SystemInitializer.loaded f poweredOff)
  rw [rig, install] at hrig
  dsimp only at hrig
  split at hrig
  · cases hrig
    refine ⟨hmanager, ?_, ?_, ?_, rfl, ⟨rfl, rfl⟩, ⟨rfl, hready.request, rfl, rfl, rfl, rfl, hready.known⟩,
      rfl, hready.alone⟩
    · exact congrArg CatParser.currentConfig hcopy
    · exact congrArg CatParser.currentFrequency hcopy
    · exact congrArg CatParser.currentBandIndex hcopy
  · cases hrig

theorem choice_withBaudRate (c : AntennaSwitchConfig) (g : UInt32) : choice (withBaudRate c) g = choice c g := by
  rw [withBaudRate]
  split <;> rfl

theorem firstBand_repaired (c : AntennaSwitchConfig) (g : UInt32) :
    (withBaudRate (withHost c)).firstBand g = c.firstBand g := by
  rw [withBaudRate, withHost]
  split <;> split <;> rfl

end Boot

def readTwenty : FullScript :=
  ⟨⟨.ok, .ok, BandCache.twentyOnly true⟩, .success, .success, true, attempts true, .success, true⟩

def bootedRig : Rig :=
  ⟨⟨withBaudRate (withHost (BandCache.twentyOnly true)), [], [withBaudRate (withHost (BandCache.twentyOnly true)),
      withHost (BandCache.twentyOnly true)]⟩,
    ⟨withBaudRate (withHost (BandCache.twentyOnly true)), 0, -1, false, .unset⟩, [],
    ⟨⟨(connect readTwenty (withHost (BandCache.twentyOnly true))).1, noRequest, .idle⟩, 0, [], [], 0, 0, 0⟩,
    [], []⟩

theorem tells_exchange (v : BitVec 16) : Tells v (exchange []) := by
  intro c hc
  have hresponse : (updateAllRelayStates (exchange []) c).2.response = c.response := by
    have ht := transmit_response (exchange []).ensure (exchange []).send stateCmd c
    rw [updateAllRelayStates, sendCommand]
    split
    · rename_i c' h
      rw [h] at ht
      exact ht
    · rename_i e c' _ h
      rw [h] at ht
      exact ht
  rw [Agrees, hresponse]
  exact hc

def heard : Rig :=
  (Tuning.note bootedRig (.data Tuning.line)).keep
    ((Framing.frames semicolon Tuning.line).foldl (Cat.dispatch runCommand) bootedRig.device,
      Framing.rest semicolon Tuning.line)

theorem undisturbed_heard : ∃ w, Undisturbed heard.world 5 w :=
  Tuning.undisturbed_round rfl rfl rfl rfl rfl (by decide) (by decide) (by decide)

end BandDecoder.ColdStart
