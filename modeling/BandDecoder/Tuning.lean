import BandDecoder.BandCache
import BandDecoder.CatFraming
import BandDecoder.PromptBoard
import BandDecoder.StatusPage

namespace BandDecoder.Tuning

open CStrings SwitchConfig Config Relay Switch Cat Framing CatFraming BandCache FrequencyText Runs
open PromptBoard
open TcpTask (Task)
open BoardProtocol (World latest)

/-- The program behind its serial line: the parser with the text it has collected, the
relay task with its board, and the bytes read since the start, cut where the line
overflowed; the latest piece stands alone. -/
structure Rig where
  configManager : ConfigManager
  catParser : CatParser
  accumulator : Bytes
  world : World
  pieces : List Bytes
  piece : Bytes

def Rig.device (s : Rig) : Device := ⟨s.configManager, s.catParser, s.world.task.controller⟩

def Rig.withDevice (s : Rig) (d : Device) : Rig :=
  { s with
    configManager := d.configManager
    catParser := d.catParser
    world := { s.world with task := { s.world.task with controller := d.relayController } } }

def Rig.keep (s : Rig) (st : Device × Bytes) : Rig := { s.withDevice st.1 with accumulator := st.2 }

inductive Action
  | uart (e : UartEvent)
  | task (a : BoardProtocol.Action)

def note (s : Rig) : UartEvent → Rig
  | .data read => { s with piece := s.piece ++ read }
  | .overflow => { s with pieces := s.pieces ++ [s.piece], piece := [] }
  | .other => s

def next (s : Rig) : Action → Option Rig
  | .uart e => some ((note s e).keep (uartEvent runCommand (s.device, s.accumulator) e))
  | .task a => (BoardProtocol.step s.world a).map fun w => { s with world := w }

/-- Requests come from the parser alone, the line carries no NUL, and the board is
prompt. -/
def Fair (s : Rig) : Action → Prop
  | .uart (.data read) => 0 ∉ read
  | .uart _ => True
  | .task (.request _ _) => False
  | .task a => Prompt s.world a

def Step (s : Rig) (a : Action) (s' : Rig) : Prop := Fair s a ∧ next s a = some s'

def commands (s : Rig) : List CatCommand :=
  ((s.pieces ++ [s.piece]).flatMap (frames semicolon)).filterMap decode

def lastReport (s : Rig) : Option UInt32 := ((commands s).filterMap frequencyOf).getLast?

/-- Nothing was read, requested or sent yet, and no output is known to be on but the
selected one. -/
structure PoweredOn (c : AntennaSwitchConfig) (s : Rig) : Prop where
  config : s.configManager.currentConfig = c
  copy : s.catParser.currentConfig = c
  frequency : s.catParser.currentFrequency = 0
  band : s.catParser.currentBandIndex = -1
  accumulator : s.accumulator = []
  line : s.pieces = [] ∧ s.piece = []
  world : BoardProtocol.Started s.world
  replies : s.world.replies = []
  alone : Alone s.world.task.controller

structure On (c : AntennaSwitchConfig) (f : UInt32) (d : Device) : Prop where
  config : d.configManager.currentConfig = c
  copy : d.catParser.currentConfig = c
  frequency : d.catParser.currentFrequency = f
  band : d.catParser.currentBandIndex = bandIndex c f
  request : ∀ q, choice c f = some q → d.relayController.latestRequest = q

theorem choice_congr {c : AntennaSwitchConfig} {f f' : UInt32} (h : bandIndex c f = bandIndex c f') :
    choice c f = choice c f' := by
  have hband : c.firstBand f = c.firstBand f' := by
    rw [bandIndex, bandIndex] at h
    cases hf : c.firstBand f with
    | none =>
        cases hf' : c.firstBand f' with
        | none => rfl
        | some i =>
            rw [hf, hf'] at h
            dsimp only at h
            omega
    | some i =>
        cases hf' : c.firstBand f' with
        | none =>
            rw [hf, hf'] at h
            dsimp only at h
            omega
        | some j =>
            rw [hf, hf'] at h
            exact congrArg some (Int.ofNat.inj h)
  rw [choice, choice, hband]

/-- A report moves everything to its frequency; of the relays it touches the mailbox
alone, and only with the choice of the configuration. -/
theorem On.report {c : AntennaSwitchConfig} {f g : UInt32} {d : Device} (h : On c f d)
    {cmd : CatCommand} (hg : frequencyOf cmd = some g) :
    On c g (runCommand cmd d) ∧
      ((runCommand cmd d).relayController = d.relayController ∨ ∃ q, choice c g = some q ∧
        (runCommand cmd d).relayController = { d.relayController with latestRequest := q }) := by
  obtain ⟨hm, hr, hf, hb, hc⟩ := noteStatus_frame cmd d
  have hbi : getBandIndex g (noteStatus cmd d).catParser =
      if g = f ∧ bandIndex c f ≠ -1 then bandIndex c f else bandIndex c g := by
    rw [getBandIndex_eq, hf, hb, hc, h.frequency, h.band, h.copy]
  rw [runCommand_report hg, handleFrequencyChange_eq]
  dsimp only
  by_cases hsame : g = f
  · subst hsame
    rw [if_pos (by rw [hf, h.frequency])]
    refine ⟨⟨by rw [hm, h.config], by rw [hc, h.copy], by rw [hf, h.frequency], by rw [hb, h.band], ?_⟩,
      Or.inl hr⟩
    rw [hr]
    exact h.request
  · rw [if_neg (fun he => hsame (he.trans (by rw [hf, h.frequency])))]
    rw [if_neg (fun he => hsame he.1)] at hbi
    rw [hbi, hb, h.band, hm, h.config, hr]
    by_cases hband : bandIndex c g = bandIndex c f
    · rw [if_pos hband]
      refine ⟨⟨h.config, by rw [hc, h.copy], rfl, rfl, ?_⟩, Or.inl rfl⟩
      rw [choice_congr hband]
      exact h.request
    · rw [if_neg hband]
      refine ⟨⟨h.config, by rw [hc, h.copy], rfl, rfl, ?_⟩, ?_⟩
      · intro q hq
        dsimp only
        rw [hq, Option.getD_some]
      · cases hq : choice c g with
        | none => exact Or.inl rfl
        | some q => exact Or.inr ⟨q, rfl, rfl⟩

theorem world_request {w : World} (hi : BoardProtocol.Inv w) (hs : Sync w) {c : AntennaSwitchConfig}
    {f : UInt32} {q : RelayChangeRequest} (hq : choice c f = some q) {r : RelayController}
    (hr : r = { w.task.controller with latestRequest := q }) :
    BoardProtocol.Inv { w with task := { w.task with controller := r } } ∧
      Sync { w with task := { w.task with controller := r } } := by
  have hset : (setRelayForAntenna q.relayId q.bandNumber w.task.controller).2 = r := by
    rw [setRelayForAntenna_choice hq, hr]
  have hstep : BoardProtocol.step w (.request q.relayId q.bandNumber) =
      some { w with task := { w.task with controller := r } } := by
    rw [BoardProtocol.step, hset]
  have hp : Prompt w (.request q.relayId q.bandNumber) := trivial
  exact ⟨hi.step hstep (careful_of_prompt hs hp hstep), hs.step hp hstep⟩

structure Rung (c : AntennaSwitchConfig) (f : UInt32) (s : Rig) : Prop where
  on : On c f s.device
  world : BoardProtocol.Inv s.world
  sync : Sync s.world

theorem Rung.report {c : AntennaSwitchConfig} {f g : UInt32} {s : Rig} (h : Rung c f s)
    {cmd : CatCommand} (hg : frequencyOf cmd = some g) :
    Rung c g (s.withDevice (runCommand cmd s.device)) := by
  obtain ⟨hon, hr⟩ := h.on.report hg
  rcases hr with hr | ⟨q, hq, hr⟩
  · have hw : (s.withDevice (runCommand cmd s.device)).world = s.world := by
      rw [Rig.withDevice, hr]
      rfl
    exact ⟨hon, hw ▸ h.world, hw ▸ h.sync⟩
  · obtain ⟨hi, hs⟩ := world_request h.world h.sync hq hr
    exact ⟨hon, hi, hs⟩

def lastOf (f : UInt32) (cmds : List Bytes) : UInt32 :=
  (((cmds.filterMap decode).filterMap frequencyOf).getLast?).getD f

theorem Rung.dispatch {c : AntennaSwitchConfig} {f : UInt32} {s : Rig} (h : Rung c f s) (cmd : Bytes) :
    Rung c (((decode cmd).bind frequencyOf).getD f)
      (s.withDevice (Cat.dispatch runCommand s.device cmd)) := by
  rw [Cat.dispatch]
  cases hd : decode cmd with
  | none => exact h
  | some cc =>
      dsimp only [Option.bind_some]
      cases hf : frequencyOf cc with
      | none =>
          rw [StatusPage.runCommand_none hf]
          exact h
      | some g => exact h.report hf

theorem Rung.dispatches {c : AntennaSwitchConfig} {f : UInt32} {s : Rig} (h : Rung c f s)
    (cmds : List Bytes) :
    Rung c (lastOf f cmds) (s.withDevice (cmds.foldl (Cat.dispatch runCommand) s.device)) := by
  induction cmds generalizing f s with
  | nil => exact h
  | cons cmd cmds ih =>
      have hrest := ih (h.dispatch cmd)
      have hlast : lastOf f (cmd :: cmds) = lastOf (((decode cmd).bind frequencyOf).getD f) cmds := by
        rw [lastOf, lastOf, List.filterMap_cons]
        cases decode cmd with
        | none => rfl
        | some cc =>
            dsimp only [Option.bind_some]
            rw [List.filterMap_cons]
            cases frequencyOf cc with
            | none => rfl
            | some g => rw [List.getLast?_cons, Option.getD_some, Option.getD_some]
      rw [hlast]
      exact hrest

structure Inv (c : AntennaSwitchConfig) (s : Rig) : Prop where
  rung : Rung c ((lastReport s).getD 0) s
  accumulator : s.accumulator = rest semicolon s.piece

theorem lastReport_data (s : Rig) (read : Bytes) :
    (lastReport (note s (.data read))).getD 0 =
      lastOf ((lastReport s).getD 0) (frames semicolon (rest semicolon s.piece ++ read)) := by
  have hcommands : commands (note s (.data read)) =
      commands s ++ (frames semicolon (rest semicolon s.piece ++ read)).filterMap decode := by
    rw [commands, commands]
    dsimp only [note]
    rw [List.flatMap_append, List.flatMap_append, List.flatMap_singleton, List.flatMap_singleton,
      frames_append, ← List.append_assoc, List.filterMap_append]
  rw [lastReport, lastReport, lastOf, hcommands, List.filterMap_append, List.getLast?_append]
  cases ((frames semicolon (rest semicolon s.piece ++ read)).filterMap decode).filterMap
    frequencyOf |>.getLast? <;> rfl

theorem lastReport_overflow (s : Rig) : lastReport (note s .overflow) = lastReport s := by
  have hcommands : commands (note s .overflow) = commands s := by
    rw [commands, commands]
    simp [note, frames_of_not_mem]
  rw [lastReport, lastReport, hcommands]

theorem Inv.uart {c : AntennaSwitchConfig} {s : Rig} (h : Inv c s) {e : UartEvent}
    (hf : Fair s (.uart e)) :
    Inv c ((note s e).keep (uartEvent runCommand (s.device, s.accumulator) e)) := by
  cases e with
  | other => exact ⟨⟨h.rung.on, h.rung.world, h.rung.sync⟩, h.accumulator⟩
  | overflow =>
      refine ⟨?_, (rest_of_not_mem semicolon List.not_mem_nil).symm⟩
      have hl : lastReport ((note s .overflow).keep
          (uartEvent runCommand (s.device, s.accumulator) .overflow)) = lastReport s :=
        lastReport_overflow s
      rw [hl]
      exact ⟨h.rung.on, h.rung.world, h.rung.sync⟩
  | data read =>
      have hread : uartEvent runCommand (s.device, s.accumulator) (.data read) =
          ((frames semicolon (rest semicolon s.piece ++ read)).foldl (Cat.dispatch runCommand) s.device,
            rest semicolon (rest semicolon s.piece ++ read)) := by
        rw [h.accumulator]
        exact uartData_eq runCommand s.device s.piece hf
      rw [hread]
      have hr := h.rung.dispatches (frames semicolon (rest semicolon s.piece ++ read))
      rw [← lastReport_data s read] at hr
      exact ⟨⟨hr.on, hr.world, hr.sync⟩, (rest_append semicolon s.piece read).symm⟩

theorem prompt_of_fair {s : Rig} {a : BoardProtocol.Action} (h : Fair s (.task a)) :
    Prompt s.world a ∧ ∀ relay band, a ≠ .request relay band := by
  cases a with
  | request relay band => exact absurd h id
  | check | start | hear | board | loseOrder | loseReplies => exact ⟨h, fun _ _ => nofun⟩

theorem Inv.task {c : AntennaSwitchConfig} {s : Rig} (h : Inv c s) {a : BoardProtocol.Action} {w : World}
    (hf : Fair s (.task a)) (hs : BoardProtocol.step s.world a = some w) :
    Inv c { s with world := w } := by
  obtain ⟨hp, hreq⟩ := prompt_of_fair hf
  obtain ⟨hl, -⟩ := work_step h.rung.sync hp hreq hs
  have hon := h.rung.on
  refine ⟨⟨⟨hon.config, hon.copy, hon.frequency, hon.band, fun q hq => ?_⟩,
    h.rung.world.step hs (careful_of_prompt h.rung.sync hp hs), h.rung.sync.step hp hs⟩, h.accumulator⟩
  exact hl.trans (hon.request q hq)

theorem Inv.step {c : AntennaSwitchConfig} {s s' : Rig} {a : Action} (h : Inv c s) (hs : Step s a s') :
    Inv c s' := by
  obtain ⟨hf, hn⟩ := hs
  cases a with
  | uart e =>
      obtain rfl := Option.some.inj hn
      exact h.uart hf
  | task a =>
      obtain ⟨w, hw, rfl⟩ := Option.map_eq_some_iff.mp hn
      exact h.task hf hw

theorem PoweredOn.inv {c : AntennaSwitchConfig} {s : Rig} (h : PoweredOn c s) (hz : c.firstBand 0 = none) :
    Inv c s := by
  have hlast : lastReport s = none := by
    rw [lastReport, commands, h.line.1, h.line.2]
    rfl
  have hband : bandIndex c 0 = -1 := by rw [bandIndex, hz]
  have hchoice : choice c 0 = none := by rw [choice, hz, Option.bind_none, ite_self]
  refine ⟨?_, ?_⟩
  · rw [hlast]
    refine ⟨⟨h.config, h.copy, h.frequency, h.band.trans hband.symm, fun q hq => ?_⟩, h.world.inv,
      ⟨fun _ => ⟨h.world.confirmed, h.world.orders, h.replies⟩, fun current start received hw => ?_,
        h.alone⟩⟩
    · exact absurd hq (by rw [Option.getD_none, hchoice]; exact (Option.some_ne_none q).symm)
    · rw [h.world.phase] at hw
      cases hw
  · rw [h.accumulator, h.line.2]
    exact (rest_of_not_mem semicolon List.not_mem_nil).symm

/-- Five working steps from anywhere end with nothing left to do, and with the relay
that the configuration chooses on alone, if it chooses one. -/
theorem Inv.settles {c : AntennaSwitchConfig} {s : Rig} (hi : Inv c s) {f : UInt32}
    (hf : lastReport s = some f) {n : Nat} {w : World} (hw : Undisturbed s.world n w) :
    s.catParser.currentFrequency = f ∧ (5 ≤ n → Done w) ∧
      ∀ q, choice c f = some q → Done w → w.outputs = StateReply.only q.relayId.toNat := by
  have hon := hi.rung.on
  rw [hf, Option.getD_some] at hon
  obtain ⟨hi', -, hl, hwork⟩ := hw.spec hi.rung.world hi.rung.sync
  refine ⟨hon.frequency, fun hn => ?_, fun q hq hd => ?_⟩
  · have := work_le s.world
    exact (work_eq_zero_iff w).mp (by omega)
  · have hlatest : latest w = q := hl.trans (hon.request q hq)
    obtain ⟨hidle, hlast⟩ := hd
    have hpos := (choice_range hq).1
    rw [hlatest] at hlast
    have hsettled := hi'.settled_world hidle
    rw [hlatest] at hsettled
    exact hsettled (hlast.resolve_right (by omega)) (by omega)

theorem PoweredOn.reaches {c : AntennaSwitchConfig} (hz : c.firstBand 0 = none) {s₀ s : Rig}
    (h₀ : PoweredOn c s₀) (h : Reachable Step s₀ s) : Inv c s :=
  h.invariant (Inv c) (h₀.inv hz) fun _ _ _ hi hs => hi.step hs

def twentyRig : Rig :=
  ⟨(startedWith (twentyOnly true)).configManager, (startedWith (twentyOnly true)).catParser, [],
    BoardProtocol.poweredOn, [], []⟩

theorem poweredOn_twentyRig : PoweredOn (twentyOnly true) twentyRig :=
  ⟨rfl, rfl, rfl, rfl, rfl, ⟨rfl, rfl⟩, BoardProtocol.started_poweredOn, rfl,
    fun i _ _ hon => absurd hon (by rw [show isOn twentyRig.world.task.controller i = false from rfl]; decide)⟩

def line : Bytes := text "FA00014074000;"

def reported : Rig :=
  (note twentyRig (.data line)).keep
    ((frames semicolon line).foldl (Cat.dispatch runCommand) twentyRig.device, rest semicolon line)

theorem step_first {s : Rig} (ha : s.accumulator = []) {read : Bytes} (hnul : 0 ∉ read) :
    Step s (.uart (.data read)) ((note s (.data read)).keep
      ((frames semicolon read).foldl (Cat.dispatch runCommand) s.device, rest semicolon read)) := by
  refine ⟨hnul, ?_⟩
  have h : uartEvent runCommand (s.device, s.accumulator) (.data read) =
      ((frames semicolon read).foldl (Cat.dispatch runCommand) s.device, rest semicolon read) := by
    have h := uartData_eq runCommand s.device [] hnul
    rw [rest_of_not_mem semicolon List.not_mem_nil, deliver] at h
    rw [ha]
    exact h
  exact congrArg (fun st => some ((note s (.data read)).keep st)) h

theorem step_reported : Step twentyRig (.uart (.data line)) reported := step_first rfl (by decide)

def beginPass : BoardProtocol.Action :=
  .start SendCommand.undisturbed ⟨SendCommand.undisturbed, [.wrote 64]⟩ 0 SendCommand.undisturbed false

def answer : BoardProtocol.Action := .hear 10 (.data 24) SendCommand.undisturbed

theorem works_beginPass {w : World} (h : (w.task.begin SendCommand.undisturbed
    ⟨SendCommand.undisturbed, [.wrote 64]⟩ 0 SendCommand.undisturbed).1 = none) : Works w beginPass := by
  intro e he
  rw [h] at he
  cases he

theorem prompt_answer {w : World} (hlength : 24 = w.replies.length)
    (hphase : w.task.phase = .waiting ⟨1, 0⟩ 0 []) : Prompt w answer := by
  refine ⟨congrArg BoardProtocol.Source.data hlength, fun current start received hw => ?_⟩
  obtain ⟨-, rfl, -⟩ := TcpTask.Phase.waiting.inj (hphase.symm.trans hw)
  decide

/-- A request for relay 1 that is sent, carried out and answered, and two passes with
nothing left to do. -/
theorem undisturbed_round {w w₁ w₂ w₃ w₄ : World} (hw₁ : w₁ = BoardProtocol.after w beginPass)
    (hw₂ : w₂ = BoardProtocol.after w₁ (.board true)) (hw₃ : w₃ = BoardProtocol.after w₂ answer)
    (hw₄ : w₄ = BoardProtocol.after w₃ beginPass) (hphase : w₂.task.phase = .waiting ⟨1, 0⟩ 0 [])
    (hlength : 24 = w₂.replies.length)
    (hstep : (BoardProtocol.step w beginPass).isSome ∧ (BoardProtocol.step w₁ (.board true)).isSome ∧
      (BoardProtocol.step w₂ answer).isSome ∧ (BoardProtocol.step w₃ beginPass).isSome ∧
      (BoardProtocol.step w₄ beginPass).isSome)
    (hbegin : ∀ w' ∈ [w, w₃, w₄], (w'.task.begin SendCommand.undisturbed
      ⟨SendCommand.undisturbed, [.wrote 64]⟩ 0 SendCommand.undisturbed).1 = none) :
    ∃ w', Undisturbed w 5 w' := by
  obtain ⟨hs, hs₁, hs₂, hs₃, hs₄⟩ := hstep
  have hr : ∀ relay band, beginPass ≠ .request relay band := fun _ _ => nofun
  have hb (w' : World) (h : w' ∈ [w, w₃, w₄]) : Works w' beginPass := works_beginPass (hbegin w' h)
  have h₁ := (Undisturbed.refl (w := w)).after (a := beginPass) rfl hr hs (hb w (by simp))
  rw [← hw₁] at h₁
  have h₂ := h₁.after (a := .board true) rfl (fun _ _ => nofun) hs₁ trivial
  rw [← hw₂] at h₂
  have h₃ := h₂.after (a := answer) (prompt_answer hlength hphase) (fun _ _ => nofun) hs₂ trivial
  rw [← hw₃] at h₃
  have h₄ := h₃.after (a := beginPass) rfl hr hs₃ (hb w₃ (by simp))
  rw [← hw₄] at h₄
  exact ⟨_, h₄.after (a := beginPass) rfl hr hs₄ (hb w₄ (by simp))⟩

theorem undisturbed_five : ∃ w, Undisturbed reported.world 5 w :=
  undisturbed_round rfl rfl rfl rfl rfl (by decide) (by decide) (by decide)

end BandDecoder.Tuning
