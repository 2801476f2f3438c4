import BandDecoder.BandCache
import BandDecoder.CatFraming
import BandDecoder.SystemInitializer

namespace BandDecoder.Startup

open CStrings SwitchConfig Config Relay Switch SystemInitializer BandCache FrequencyText Runs
open Cat (CatParser Device CatCommand UartEvent getBandIndex modeOf decode semicolon)

/-! The handlers of the parser on the static pointer of the switch: `none` where one
calls `set_relay_for_antenna` through a null pointer. -/

def antennaSwitchSetFrequency (frequency : UInt32) (s : System) : Option (EspErr × System) :=
  searchRelay s.configManager.currentConfig frequency
    (fun relay band => s.relayController.map fun c =>
      let (e, c) := setRelayForAntenna relay band c
      (e, { s with relayController := some c }))
    (some (.ok, s))

def handleFrequencyChange (frequency : UInt32) (s : System) : Option (EspErr × System) :=
  if frequency = s.catParser.currentFrequency then some (.ok, s)
  else
    let newBandIndex := getBandIndex frequency s.catParser
    let cached := { s.catParser with
      currentFrequency := frequency, currentBandIndex := newBandIndex }
    if s.catParser.currentBandIndex ≠ newBandIndex then
      match antennaSwitchSetFrequency frequency s with
      | some (.ok, s) => some (.ok, { s with catParser := cached })
      | some (e, s) => some (e, s)
      | none => none
    else some (.ok, { s with catParser := cached })

def processFaCommand (command : Bytes) (s : System) : Option (EspErr × System) :=
  let (frequency, stop) := strtoul 32 command
  if charAt command stop ≠ 0 then some (.ok, s)
  else handleFrequencyChange (UInt32.ofNat frequency) s

def processIfCommand (command : Bytes) (s : System) : Option (EspErr × System) :=
  if command.length < 35 then some (.ok, s)
  else
    let freqStr := command.take 11
    let (frequency, stop) := strtoul 32 freqStr
    if charAt freqStr stop ≠ 0 then some (.ok, s)
    else handleFrequencyChange (UInt32.ofNat frequency)
      { s with catParser :=
        { s.catParser with
          transmitting := charAt command 26 = 49
          currentMode := modeOf (charAt command 27) } }

def runCommand : CatCommand → System → Option System
  | .fa param, s => (processFaCommand param s).map Prod.snd
  | .info param, s => (processIfCommand param s).map Prod.snd

/-! With a controller behind the pointer they are the handlers of the device. -/

def device (s : System) (c : RelayController) : Device := ⟨s.configManager, s.catParser, c⟩

def withDevice (s : System) (d : Device) : System :=
  { s with
    configManager := d.configManager
    catParser := d.catParser
    relayController := some d.relayController }

theorem withDevice_device {s : System} {c : RelayController} (h : s.relayController = some c) :
    withDevice s (device s c) = s := by
  cases s
  simp_all [withDevice, device]

theorem antennaSwitchSetFrequency_installed {s : System} {c : RelayController}
    (h : s.relayController = some c) (frequency : UInt32) :
    antennaSwitchSetFrequency frequency s = some (.ok, { s with
      relayController := some { c with
        latestRequest :=
          (choice s.configManager.currentConfig frequency).getD c.latestRequest } }) := by
  rw [antennaSwitchSetFrequency, searchRelay_choice]
  cases hq : choice s.configManager.currentConfig frequency with
  | none =>
      dsimp only
      rw [Option.getD_none, ← h]
  | some q =>
      dsimp only
      rw [h, Option.map_some, setRelayForAntenna_choice hq, Option.getD_some]

theorem antennaSwitchSetFrequency_missing {s : System} (h : s.relayController = none)
    (frequency : UInt32) :
    antennaSwitchSetFrequency frequency s =
      if choice s.configManager.currentConfig frequency = none then some (.ok, s) else none := by
  rw [antennaSwitchSetFrequency, searchRelay_choice]
  cases choice s.configManager.currentConfig frequency with
  | none => rfl
  | some q =>
      dsimp only
      rw [h]
      rfl

theorem handleFrequencyChange_installed {s : System} {c : RelayController}
    (h : s.relayController = some c) (frequency : UInt32) :
    (handleFrequencyChange frequency s).map Prod.snd =
      some (withDevice s (Cat.handleFrequencyChange frequency (device s c)).2) := by
  have hd : (device s c).catParser = s.catParser := rfl
  rw [handleFrequencyChange, Cat.handleFrequencyChange_eq, hd]
  dsimp only
  by_cases hf : frequency = s.catParser.currentFrequency
  · rw [if_pos hf, if_pos hf, Option.map_some, withDevice_device h]
  · rw [if_neg hf, if_neg hf]
    by_cases hb : getBandIndex frequency s.catParser = s.catParser.currentBandIndex
    · rw [if_neg (not_not.mpr hb.symm), if_pos hb, Option.map_some, h]
      rfl
    · rw [if_pos (Ne.symm hb), if_neg hb, antennaSwitchSetFrequency_installed h]
      rfl

/-- Once the controller is installed, a command does what it does to the device. -/
theorem runCommand_installed {s : System} {c : RelayController} (h : s.relayController = some c)
    (cmd : CatCommand) :
    runCommand cmd s = some (withDevice s (Cat.runCommand cmd (device s c))) := by
  have hs := withDevice_device h
  cases cmd with
  | fa param =>
      rw [runCommand, processFaCommand, Cat.runCommand, Cat.processFaCommand]
      dsimp only
      split
      · rw [Option.map_some, hs]
      · exact handleFrequencyChange_installed h _
  | info param =>
      rw [runCommand, processIfCommand, Cat.runCommand, Cat.processIfCommand]
      dsimp only
      split
      · rw [Option.map_some, hs]
      · split
        · rw [Option.map_some, hs]
        · let s' : System := { s with catParser := { s.catParser with
            transmitting := charAt param 26 = 49, currentMode := modeOf (charAt param 27) } }
          exact handleFrequencyChange_installed (show s'.relayController = some c from h) _

/-! Without a controller a command is harmless exactly if it asks for no relay. -/

theorem choice_congr {config : AntennaSwitchConfig} {f g : UInt32}
    (h : bandIndex config f = bandIndex config g) : choice config f = choice config g := by
  have hb : config.firstBand f = config.firstBand g := by
    rw [bandIndex, bandIndex] at h
    cases hf : config.firstBand f <;> cases hg : config.firstBand g <;> simp_all
  rw [choice, choice, hb]

def note : CatCommand → System → System
  | .fa _, s => s
  | .info param, s =>
      { s with catParser :=
        { s.catParser with
          transmitting := charAt param 26 = 49
          currentMode := modeOf (charAt param 27) } }

theorem runCommand_eq (cmd : CatCommand) (s : System) :
    runCommand cmd s =
      match frequencyOf cmd with
      | some f => (handleFrequencyChange f (note cmd s)).map Prod.snd
      | none => some s := by
  cases cmd with
  | fa param =>
      rw [runCommand, processFaCommand, frequencyOf]
      by_cases ha : Accepted param
      · have hc : ¬ charAt param (strtoul 32 param).2 ≠ 0 := not_not.mpr ha
        dsimp only
        rw [if_pos ha, if_neg hc]
        rfl
      · have hc : charAt param (strtoul 32 param).2 ≠ 0 := ha
        dsimp only
        rw [if_neg ha, if_pos hc, Option.map_some]
  | info param =>
      rw [runCommand, processIfCommand, frequencyOf]
      by_cases hlen : param.length < 35
      · rw [if_pos hlen, if_neg fun h => by omega]
        rfl
      · rw [if_neg hlen]
        by_cases ha : Accepted (param.take 11)
        · have hc : ¬ charAt (param.take 11) (strtoul 32 (param.take 11)).2 ≠ 0 := not_not.mpr ha
          dsimp only
          rw [if_neg hc, if_pos ⟨by omega, ha⟩]
          rfl
        · have hc : charAt (param.take 11) (strtoul 32 (param.take 11)).2 ≠ 0 := ha
          dsimp only
          rw [if_pos hc, if_neg fun h => ha h.2, Option.map_some]

/-- The UART task runs and no controller is installed; the configuration chooses no
relay for any frequency of the parser's band. -/
structure Waiting (s : System) : Prop where
  missing : s.relayController = none
  copy : s.catParser.currentConfig = s.configManager.currentConfig
  band : ∀ f, bandIndex s.configManager.currentConfig f = s.catParser.currentBandIndex →
    choice s.configManager.currentConfig f = none

def Asks (s : System) (cmd : CatCommand) : Prop :=
  ∃ f, frequencyOf cmd = some f ∧ f ≠ s.catParser.currentFrequency ∧
    choice s.configManager.currentConfig f ≠ none

theorem handleFrequencyChange_missing {s : System} (h : Waiting s) (f : UInt32) :
    (f = s.catParser.currentFrequency ∨ choice s.configManager.currentConfig f = none) ∧
        (∃ s', (handleFrequencyChange f s).map Prod.snd = some s' ∧ Waiting s') ∨
      (f ≠ s.catParser.currentFrequency ∧ choice s.configManager.currentConfig f ≠ none) ∧
        handleFrequencyChange f s = none := by
  rw [handleFrequencyChange]
  by_cases hf : f = s.catParser.currentFrequency
  · rw [if_pos hf]
    exact Or.inl ⟨Or.inl hf, s, rfl, h⟩
  · have hindex : getBandIndex f s.catParser = bandIndex s.configManager.currentConfig f := by
      rw [getBandIndex_eq, if_neg fun hc => hf hc.1, h.copy]
    have hcached (hq : choice s.configManager.currentConfig f = none) :
        Waiting { s with catParser := { s.catParser with
          currentFrequency := f, currentBandIndex := getBandIndex f s.catParser } } := by
      refine ⟨h.missing, h.copy, fun g hg => ?_⟩
      exact (choice_congr (hg.trans hindex)).trans hq
    rw [if_neg hf]
    dsimp only
    by_cases hb : getBandIndex f s.catParser = s.catParser.currentBandIndex
    · have hq := h.band f (hindex.symm.trans hb)
      rw [if_neg (not_not.mpr hb.symm)]
      exact Or.inl ⟨Or.inr hq, _, rfl, hcached hq⟩
    · rw [if_pos (Ne.symm hb), antennaSwitchSetFrequency_missing h.missing]
      by_cases hq : choice s.configManager.currentConfig f = none
      · rw [if_pos hq]
        exact Or.inl ⟨Or.inr hq, _, rfl, hcached hq⟩
      · rw [if_neg hq]
        exact Or.inr ⟨⟨hf, hq⟩, rfl⟩

theorem runCommand_missing {s : System} (h : Waiting s) (cmd : CatCommand) :
    (¬ Asks s cmd ∧ ∃ s', runCommand cmd s = some s' ∧ Waiting s') ∨
      (Asks s cmd ∧ runCommand cmd s = none) := by
  rw [runCommand_eq, Asks]
  cases hf : frequencyOf cmd with
  | none => exact Or.inl ⟨fun ⟨_, hc, _⟩ => (nomatch hc), s, rfl, h⟩
  | some f =>
      have hn : Waiting (note cmd s) := by
        cases cmd with
        | fa param => exact h
        | info param => exact ⟨h.missing, h.copy, h.band⟩
      have hfreq : (note cmd s).catParser.currentFrequency = s.catParser.currentFrequency := by
        cases cmd <;> rfl
      have hconfig : (note cmd s).configManager = s.configManager := by
        cases cmd <;> rfl
      dsimp only
      rcases handleFrequencyChange_missing hn f with ⟨hq, hs⟩ | ⟨hq, hs⟩
      · rw [hfreq, hconfig] at hq
        refine Or.inl ⟨fun ⟨g, hg, hne, hc⟩ => ?_, hs⟩
        cases hg
        tauto
      · rw [hfreq, hconfig] at hq
        exact Or.inr ⟨⟨f, rfl, hq⟩, by rw [hs, Option.map_none]⟩

/-! `initialize_full` and the UART task take turns. -/

/-- How far `initialize_full` has come, with the controller and the task count it holds
until it installs them. The UART task is the last thing that `cat_parser_init` creates:
a stop with an error comes before it. -/
inductive Stage
  | started
  | configured
  | connected (c : RelayController × Nat)
  | listening (c : RelayController × Nat)
  | installed
  | stopped (e : EspErr)

def Listens : Stage → Prop
  | .listening _ => True
  | .installed => True
  | _ => False

def advance (f : FullScript) (s : System) : Stage → Option (Stage × System)
  | .started => some (match antennaSwitchInit f s with
    | (.ok, s) => (.configured, s)
    | (e, s) => (.stopped e, s))
  | .configured => some (.connected (connect f s.configManager.currentConfig), s)
  | .connected c => some (match catParserInit f s with
    | (.ok, s) => (.listening c, s)
    | (e, s) => (.stopped e, s))
  | .listening c => some (.installed, install c s)
  | .installed => none
  | .stopped _ => none

def receive (accumulator : Bytes) : UartEvent → Bytes
  | .data read => accumulator ++ cstr read
  | .overflow => []
  | .other => accumulator

def takeCommand (accumulator : Bytes) : Option (Bytes × Bytes) :=
  (accumulator.findIdx? (· = semicolon)).map fun pos =>
    (accumulator.take pos, accumulator.drop (pos + 1))

def call (cmd : CatCommand) (s : Option System) : Option System := s.bind (runCommand cmd)

theorem drain_takeCommand {σ : Type*} (call : CatCommand → σ → σ) (s : σ) (accumulator : Bytes) :
    Cat.drain call s accumulator =
      match takeCommand accumulator with
      | some (cmd, rest) => Cat.drain call (Cat.dispatch call s cmd) rest
      | none => (s, accumulator) := by
  rw [Cat.drain, takeCommand]
  split
  · rename_i h
    rw [h]
    rfl
  · rename_i pos h
    rw [h]
    rfl

theorem uartEvent_receive {σ : Type*} (call : CatCommand → σ → σ) (s : σ) {accumulator : Bytes}
    (h : takeCommand accumulator = none) (e : UartEvent) :
    Cat.uartEvent call (s, accumulator) e = Cat.drain call s (receive accumulator e) := by
  have hstop : Cat.drain call s accumulator = (s, accumulator) := by
    rw [drain_takeCommand, h]
  cases e with
  | data read =>
      rw [Cat.uartEvent, Cat.uartData, receive]
      split
      · rename_i hr
        rw [hr, cstr, List.takeWhile_nil, List.append_nil, hstop]
      · rfl
  | overflow =>
      rw [Cat.uartEvent, receive, drain_takeCommand]
      rfl
  | other => exact hstop.symm

/-- `system` is `none` behind a call through the null pointer. -/
structure Boot where
  stage : Stage
  system : Option System
  accumulator : Bytes

inductive Action
  | advance
  | receive (e : UartEvent)
  | command

/-- The UART task reads on when no complete command is left. -/
inductive Step (f : FullScript) : Boot → Action → Boot → Prop
  | advance {stage stage' : Stage} {s s' : System} {accumulator : Bytes}
      (h : advance f s stage = some (stage', s')) :
      Step f ⟨stage, some s, accumulator⟩ .advance ⟨stage', some s', accumulator⟩
  | receive {stage : Stage} {s : System} {accumulator : Bytes} (e : UartEvent)
      (hl : Listens stage) (h : takeCommand accumulator = none) :
      Step f ⟨stage, some s, accumulator⟩ (.receive e) ⟨stage, some s, receive accumulator e⟩
  | command {stage : Stage} {s : System} {accumulator cmd rest : Bytes}
      (hl : Listens stage) (h : takeCommand accumulator = some (cmd, rest)) :
      Step f ⟨stage, some s, accumulator⟩ .command
        ⟨stage, Cat.dispatch call (some s) cmd, rest⟩

def finish : EspErr → Stage
  | .ok => .installed
  | e => .stopped e

theorem finish_error {e : EspErr} (h : e ≠ .ok) : finish e = .stopped e := by
  cases e <;> first | rfl | exact absurd rfl h

/-- Without the UART task in between, the stages are `initialize_full`. -/
theorem initializeFull_stages (f : FullScript) (s : System) (accumulator : Bytes) :
    Relation.ReflTransGen (fun b b' => Step f b .advance b') ⟨.started, some s, accumulator⟩
      ⟨finish (initializeFull f s).1, some (initializeFull f s).2, accumulator⟩ := by
  rw [initializeFull]
  split
  · rename_i s₁ h₁
    have hstart : advance f s .started = some (.configured, s₁) := by rw [advance, h₁]
    refine .head (.advance hstart) (.head (.advance rfl) ?_)
    dsimp only
    generalize connect f s₁.configManager.currentConfig = c
    split
    · rename_i s₂ h₂
      have huart : advance f s₁ (.connected c) = some (.listening c, s₂) := by rw [advance, h₂]
      exact .head (.advance huart) (.single (.advance rfl))
    · rename_i e s₂ hne h₂
      have hstop : advance f s₁ (.connected c) = some (.stopped e, s₂) := by
        rw [advance, h₂]
        cases e <;> first | rfl | exact absurd rfl hne
      rw [finish_error hne]
      exact .single (.advance hstop)
  · rename_i e s₁ hne h₁
    have hstop : advance f s .started = some (.stopped e, s₁) := by
      rw [advance, h₁]
      cases e <;> first | rfl | exact absurd rfl hne
    rw [finish_error hne]
    exact .single (.advance hstop)

/-! Before the UART task, while it waits for the controller, and behind that. -/

structure Fresh (s : System) : Prop where
  missing : s.relayController = none
  band : s.catParser.currentBandIndex = -1

theorem choice_of_no_band {config : AntennaSwitchConfig} {f : UInt32}
    (h : bandIndex config f = -1) : choice config f = none := by
  rw [bandIndex] at h
  rw [choice]
  cases hf : config.firstBand f with
  | none => simp
  | some i =>
      rw [hf] at h
      dsimp only at h
      omega

theorem antennaSwitchInit_fresh {f : FullScript} {s : System} (h : Fresh s) :
    Fresh (antennaSwitchInit f s).2 := ⟨h.missing, h.band⟩

theorem init_copy {w : NvsWrite} {d d' : Device} (h : Cat.init w d = (.ok, d')) :
    d'.catParser.currentConfig = d'.configManager.currentConfig ∧
      d'.catParser.currentBandIndex = d.catParser.currentBandIndex := by
  rw [Cat.init] at h
  dsimp only at h
  split at h
  · rcases hu : Config.updateConfig w { d.configManager.currentConfig with uartBaudRate := 9600 }
      d.configManager with ⟨e, m⟩
    rw [hu] at h
    obtain ⟨rfl, rfl⟩ := Prod.mk.inj h
    obtain ⟨-, rfl⟩ := updateConfig_ok hu
    exact ⟨rfl, rfl⟩
  · obtain rfl := congrArg Prod.snd h
    exact ⟨rfl, rfl⟩

theorem catParserInit_waiting {f : FullScript} {s s' : System} (h : Fresh s)
    (hs : catParserInit f s = (.ok, s')) : Waiting s' := by
  rw [catParserInit] at hs
  split at hs
  · rename_i d hd
    obtain ⟨hcopy, hband⟩ := init_copy hd
    obtain rfl := congrArg Prod.snd hs
    refine ⟨h.missing, hcopy, fun g hg => choice_of_no_band ?_⟩
    exact hg.trans (hband.trans h.band)
  · rename_i e d hne _
    exact (hne (congrArg Prod.fst hs)).elim

def Sound (s : System) : Stage → Prop
  | .listening _ => Waiting s
  | .installed => s.relayController ≠ none
  | .stopped _ => True
  | _ => Fresh s

theorem advance_sound {f : FullScript} {s s' : System} {stage stage' : Stage}
    (h : Sound s stage) (hs : advance f s stage = some (stage', s')) : Sound s' stage' := by
  cases stage with
  | started =>
      have hi := antennaSwitchInit_fresh (f := f) h
      rw [advance] at hs
      split at hs
      · rename_i s₁ h₁
        rw [h₁] at hi
        cases hs
        exact hi
      · cases hs
        trivial
  | configured =>
      cases hs
      exact h
  | connected c =>
      rw [advance] at hs
      split at hs
      · rename_i s₁ h₁
        cases hs
        exact catParserInit_waiting h h₁
      · cases hs
        trivial
  | listening c =>
      cases hs
      exact nofun
  | installed => cases hs
  | stopped e => cases hs

def NoNullCall (_ : Action) (b : Boot) : Prop := b.system ≠ none

def Harmless (b : Boot) : Action → Prop
  | .command => ∀ c s cmd rest parsed, b.stage = .listening c → b.system = some s →
      takeCommand b.accumulator = some (cmd, rest) → decode cmd = some parsed → ¬ Asks s parsed
  | _ => True

def Inv (b : Boot) : Prop := ∃ s, b.system = some s ∧ Sound s b.stage

theorem dispatch_installed {s : System} (h : s.relayController ≠ none) (cmd : Bytes) :
    ∃ s', Cat.dispatch call (some s) cmd = some s' ∧ s'.relayController ≠ none := by
  obtain ⟨c, hc⟩ := Option.ne_none_iff_exists'.mp h
  rw [Cat.dispatch]
  cases decode cmd with
  | none => exact ⟨s, rfl, h⟩
  | some parsed => exact ⟨_, runCommand_installed hc parsed, Option.some_ne_none _⟩

/-- Before the installation a harmless command keeps the band without a relay, and any
other one calls through the null pointer. -/
theorem command_waiting {s : System} (h : Waiting s) (cmd : Bytes) :
    ((∀ parsed, decode cmd = some parsed → ¬ Asks s parsed) ∧
        ∃ s', Cat.dispatch call (some s) cmd = some s' ∧ Waiting s') ∨
      (∃ parsed, decode cmd = some parsed ∧ Asks s parsed) ∧
        Cat.dispatch call (some s) cmd = none := by
  rw [Cat.dispatch]
  cases decode cmd with
  | none => exact Or.inl ⟨fun _ hp => absurd hp (Option.some_ne_none _).symm, s, rfl, h⟩
  | some parsed =>
      rcases runCommand_missing h parsed with ⟨hn, hs⟩ | ⟨ha, hs⟩
      · refine Or.inl ⟨fun p hp => ?_, hs⟩
        cases hp
        exact hn
      · exact Or.inr ⟨⟨parsed, rfl, ha⟩, hs⟩

theorem step_inv {f : FullScript} {b b' : Boot} {a : Action} (hi : Inv b) (hs : Step f b a b') :
    (Harmless b a ∧ Inv b') ∨ (¬ Harmless b a ∧ b'.system = none) := by
  obtain ⟨s, hb, hsound⟩ := hi
  cases hs with
  | advance h =>
      cases hb
      exact Or.inl ⟨trivial, _, rfl, advance_sound hsound h⟩
  | receive e hl h => exact Or.inl ⟨trivial, s, hb, hsound⟩
  | @command stage s accumulator cmd rest hl h =>
      cases hb
      cases stage with
      | started | configured | connected c | stopped e => cases hl
      | installed =>
          obtain ⟨s', hd, hs'⟩ := dispatch_installed hsound cmd
          exact Or.inl ⟨fun c s cmd rest parsed hc => (nomatch hc), s', hd, hs'⟩
      | listening c =>
          rcases command_waiting hsound cmd with ⟨hn, s', hd, hs'⟩ | ⟨⟨parsed, hp, ha⟩, hd⟩
          · refine Or.inl ⟨fun c₁ s₁ cmd₁ rest₁ parsed hc hs ht hp => ?_, s', hd, hs'⟩
            cases hs
            cases h.symm.trans ht
            exact hn parsed hp
          · exact Or.inr ⟨fun hh => hh c s cmd rest parsed rfl rfl h hp ha, hd⟩

/-- Whatever the order of the two tasks, a command meets a missing controller exactly
if one that asks for a relay is handled between the creation of the UART task and the
installation. -/
theorem noNullCall_iff (f : FullScript) (s : System) (hc : s.relayController = none)
    (hb : s.catParser.currentBandIndex = -1) (t : List (Action × Boot))
    (h : Run (Step f) ⟨.started, some s, []⟩ t) :
    (∀ x ∈ t, NoNullCall x.1 x.2) ↔ Guarded Harmless ⟨.started, some s, []⟩ t := by
  refine h.forall_iff_guarded Inv NoNullCall ⟨s, rfl, hc, hb⟩ ?_ ?_
  · intro b a b' hi hs hok
    rcases step_inv hi hs with ⟨-, hi'⟩ | ⟨hbad, -⟩
    · obtain ⟨s', hs', -⟩ := id hi'
      exact ⟨hi', fun hn => nomatch hn.symm.trans hs'⟩
    · exact absurd hok hbad
  · intro b a b' hi hs hbad
    rcases step_inv hi hs with ⟨hok, -⟩ | ⟨-, hn⟩
    · exact absurd hok hbad
    · exact fun hp => hp hn

def assigning : FullScript := { firstBoot false with read := ⟨.ok, .ok, twentyOnly true⟩ }

def forty : UartEvent := .data (text "FA00007074000;")

def twenty : UartEvent := .data (text "FA00014074000;")

/-- A frequency without a relay may arrive before the installation, and any behind it. -/
theorem noNullCall_iff_forty :
    ∃ t, Run (Step assigning) ⟨.started, some poweredOff, []⟩ t ∧
      t.map Prod.fst = [.advance, .advance, .advance, .receive forty, .command, .advance,
        .receive twenty, .command] ∧ ∀ x ∈ t, NoNullCall x.1 x.2 := by
  have h : Run (Step assigning) ⟨.started, some poweredOff, []⟩ _ :=
    .cons (.advance rfl) <| .cons (.advance rfl) <| .cons (.advance rfl) <|
      .cons (.receive forty trivial rfl) <| .cons (.command trivial rfl) <|
      .cons (.advance rfl) <| .cons (.receive twenty trivial rfl) <|
      .cons (.command trivial rfl) <| .nil _
  refine ⟨_, h, rfl, (noNullCall_iff assigning poweredOff rfl rfl _ h).mpr ?_⟩
  refine ⟨trivial, trivial, trivial, trivial, ?_, trivial, trivial, ?_, trivial⟩
  · intro c s cmd rest parsed _ hs ht hp ⟨f, hf, _, hq⟩
    cases hs
    cases ht
    cases hp
    obtain rfl : (7074000 : UInt32) = f := Option.some.inj hf
    exact hq rfl
  · exact fun c s cmd rest parsed hc => nomatch hc

/-- A radio that reports a frequency on 20 m while `initialize_full` has started the
UART task but not yet installed the controller. -/
theorem noNullCall_fails :
    ¬ ∀ (f : FullScript) (s : System), s.relayController = none →
      s.catParser.currentBandIndex = -1 → ∀ t, Run (Step f) ⟨.started, some s, []⟩ t →
        ∀ x ∈ t, NoNullCall x.1 x.2 := by
  intro h
  have hr : Run (Step assigning) ⟨.started, some poweredOff, []⟩ _ :=
    .cons (.advance rfl) <| .cons (.advance rfl) <| .cons (.advance rfl) <|
      .cons (.receive twenty trivial rfl) <| .cons (.command trivial rfl) <| .nil _
  have hp := h assigning poweredOff rfl rfl _ hr _
    (.tail _ <| .tail _ <| .tail _ <| .tail _ <| .head _)
  exact hp rfl

end BandDecoder.Startup
