import BandDecoder.BandCache
import BandDecoder.Passes

namespace BandDecoder.StatusPage

open CStrings SwitchConfig Config Relay Switch Cat Web BandCache FrequencyText Loops Runs
open Passes (Worker Idle request pass pass_selected)
open TcpTask (Iteration)

structure Status where
  frequency : UInt32
  antenna : Bytes

def statusGetHandler (d : Device) : Status :=
  let currentFreq := d.catParser.currentFrequency
  let activeAntenna := findActivePort currentFreq d.configManager.currentConfig
  ⟨currentFreq,
    if activeAntenna ≠ 0 then text "Antenna " ++ decimal activeAntenna else text "None"⟩

/-- The antenna of the first enabled port in the first band around a frequency, 0 if
there is none. -/
def assigned (config : AntennaSwitchConfig) (frequency : UInt32) : Nat :=
  match config.firstBand frequency with
  | some i => match config.firstPort i with
    | some j => j + 1
    | none => 0
  | none => 0

theorem findActivePort_eq (frequency : UInt32) (config : AntennaSwitchConfig) :
    findActivePort frequency config = assigned config frequency := by
  simp only [findActivePort, forIn_break, pure_bind, assigned, AntennaSwitchConfig.firstBand,
    AntennaSwitchConfig.firstPort]
  cases (List.range config.numBands.toNat).find? fun i => (config.band i).contains frequency with
  | none => rfl
  | some i =>
      dsimp only
      cases (List.range config.numAntennaPorts.toNat).find? (config.band i).port <;> rfl

theorem choice_assigned {config : AntennaSwitchConfig} {frequency : UInt32} {q : RelayChangeRequest}
    (h : choice config frequency = some q) : q.relayId = assigned config frequency := by
  rw [choice] at h
  split at h
  · obtain ⟨i, hi, hq⟩ := Option.bind_eq_some_iff.mp h
    obtain ⟨j, hj, rfl⟩ := Option.map_eq_some_iff.mp hq
    simp only [assigned, hi, hj]
    rfl
  · cases h

/-- A row of the table around the frequency, the first of them, enables this port and
none before it. -/
def Lists (config : AntennaSwitchConfig) (frequency : UInt32) (port : Nat) : Prop :=
  ∃ i < config.numBands.toNat, (config.band i).contains frequency ∧
    (∀ k < i, ¬ (config.band k).contains frequency) ∧
    ∃ j < config.numAntennaPorts.toNat, (config.band i).port j ∧
      (∀ k < j, ¬ (config.band i).port k) ∧ port = j + 1

theorem lists_iff {config : AntennaSwitchConfig} {frequency : UInt32} {port : Nat} :
    Lists config frequency port ↔ port ≠ 0 ∧ assigned config frequency = port := by
  rw [assigned]
  constructor
  · rintro ⟨i, hi, hc, hfirst, j, hj, hp, hports, rfl⟩
    have hband : config.firstBand frequency = some i :=
      List.find?_range_eq_some.mpr ⟨hc, List.mem_range.mpr hi, fun k hk => by simp [hfirst k hk]⟩
    have hport : config.firstPort i = some j :=
      List.find?_range_eq_some.mpr ⟨hp, List.mem_range.mpr hj, fun k hk => by simp [hports k hk]⟩
    simp only [hband, hport]
    exact ⟨Nat.succ_ne_zero j, trivial⟩
  · rintro ⟨hne, h⟩
    cases hband : config.firstBand frequency with
    | none =>
        rw [hband] at h
        exact absurd h.symm hne
    | some i =>
        cases hport : config.firstPort i with
        | none =>
            simp only [hband, hport] at h
            exact absurd h.symm hne
        | some j =>
            simp only [hband, hport] at h
            obtain ⟨hc, hi, hfirst⟩ := List.find?_range_eq_some.mp hband
            obtain ⟨hp, hj, hports⟩ := List.find?_range_eq_some.mp hport
            exact ⟨i, List.mem_range.mp hi, hc, fun k hk => by simpa using hfirst k hk,
              j, List.mem_range.mp hj, hp, fun k hk => by simpa using hports k hk, h.symm⟩

theorem names_iff (d : Device) (r : Nat) :
    (statusGetHandler d).antenna = text "Antenna " ++ decimal r ↔
      Lists d.configManager.currentConfig d.catParser.currentFrequency r := by
  rw [lists_iff]
  rw [statusGetHandler]
  dsimp only
  rw [findActivePort_eq]
  generalize assigned d.configManager.currentConfig d.catParser.currentFrequency = n
  by_cases hn : n = 0
  · subst hn
    refine iff_of_false (fun h => ?_) fun h => h.1 h.2.symm
    have hh : some (78 : UInt8) = some 65 := congrArg List.head? h
    exact absurd hh (by decide)
  · rw [if_pos hn, List.append_cancel_left_eq, decimal_injective.eq_iff]
    constructor
    · rintro rfl
      exact ⟨hn, rfl⟩
    · exact fun h => h.2

structure System where
  device : Device
  lastProcessed : RelayChangeRequest

def worker (s : System) : Worker := ⟨s.device.relayController, s.lastProcessed⟩

def selected (s : System) : Int := s.device.relayController.currentlySelectedRelay

def config (s : System) : AntennaSwitchConfig := s.device.configManager.currentConfig

def frequency (s : System) : UInt32 := s.device.catParser.currentFrequency

inductive Action
  | report (cmd : CatCommand)
  | post (w : NvsWrite) (r : PostRequest)
  | resetConfig (w : NvsWrite)
  | toggleAutoMode (w : NvsWrite)
  | setRelay (relay : Int) (state : Bool)
  | pass (i : Iteration)

/-- Whatever each handler answers, also when a save fails. -/
def next (parse : Bytes → Option Json) (s : System) : Action → System
  | .report cmd => { s with device := runCommand cmd s.device }
  | .post w r => { s with device := (configPostHandler parse w r s.device).2 }
  | .resetConfig w => { s with device := (resetConfigHandler w s.device).2 }
  | .toggleAutoMode w => { s with device := (toggleAutoModeHandler w s.device).2 }
  | .setRelay relay state => { s with device := { s.device with
      relayController := (antennaSwitchSetRelay relay state s.device.relayController).2 } }
  | .pass i => ⟨{ s.device with relayController := (pass i (worker s)).controller },
      (pass i (worker s)).lastProcessed⟩

def Answered (s : System) : Action → Prop
  | .pass i => Passes.TruthfulAction (worker s) (.pass i)
  | _ => True

def Step (parse : Bytes → Option Json) (s : System) (a : Action) (s' : System) : Prop :=
  s' = next parse s a

theorem step_next (parse : Bytes → Option Json) (s : System) (a : Action) :
    Step parse s a (next parse s a) := rfl

/-- An antenna named while `tcp_task` is idle is the selected relay. -/
def PageTrue (s : System) : Prop :=
  Idle (worker s) → ∀ r : Nat,
    (statusGetHandler s.device).antenna = text "Antenna " ++ decimal r → selected s = r

def target (s : System) : Int :=
  if 0 < (request (worker s)).relayId then (request (worker s)).relayId else selected s

/-- Whatever port a table lists for a frequency is the target. -/
def Matches (s : System) (config : AntennaSwitchConfig) (frequency : UInt32) : Prop :=
  ∀ port : Nat, Lists config frequency port → target s = port

/-- The conditions under which the page keeps up, each on the state before the step and
on what it is given: a report that requests nothing, with auto mode off or in the row of
the last one, is of a frequency for which the table lists the target or nothing; so does
a posted table for the current frequency; `/reset-config` is called outside its ten
bands or with relay 1 as the target; a relay is set by hand only as the table lists it. -/
def Keeps (parse : Bytes → Option Json) (s : System) : Action → Prop
  | .report cmd => ∀ f, frequencyOf cmd = some f → f ≠ frequency s →
      ((config s).autoMode = false ∨
        bandIndex s.device.catParser.currentConfig f = s.device.catParser.currentBandIndex) →
      Matches s (config s) f
  | .post _ r => ∀ c, posted parse r = some c → c.Checked → Matches s c (frequency s)
  | .resetConfig _ =>
      (∃ e ∈ bandInfo, e.startFreq ≤ frequency s ∧ frequency s ≤ e.endFreq) → target s = 1
  | .toggleAutoMode _ => True
  | .setRelay relay state => 1 ≤ relay → relay ≤ StateReply.NUM_RELAYS →
      s.device.relayController.relayStateBitfield.getLsbD (relay - 1).toNat ≠ state →
      ∀ port : Nat, Lists (config s) (frequency s) port → relay = port
  | .pass _ => True

structure Inv (s : System) : Prop where
  processed : 0 < s.lastProcessed.relayId → selected s = s.lastProcessed.relayId
  page : Matches s (config s) (frequency s)

theorem Inv.selected_target {s : System} (h : Inv s) (hidle : Idle (worker s)) :
    selected s = target s := by
  rw [target]
  split
  · rename_i hpos
    rcases hidle with hlast | h0
    · have hp := h.processed
      change request (worker s) = s.lastProcessed at hlast
      rw [hlast] at hpos ⊢
      exact hp hpos
    · omega
  · rfl

theorem Inv.pageTrue {s : System} (h : Inv s) : PageTrue s := by
  intro hidle r hr
  rw [h.selected_target hidle]
  exact h.page r ((names_iff s.device r).mp hr)

theorem Inv.pass {s : System} (h : Inv s) (i : Iteration) (parse : Bytes → Option Json) :
    Inv (next parse s (.pass i)) := by
  have hw : worker (next parse s (.pass i)) = Passes.pass i (worker s) := rfl
  have hsel : selected (next parse s (.pass i)) =
      (Passes.pass i (worker s)).controller.currentlySelectedRelay := rfl
  have hlast : (next parse s (.pass i)).lastProcessed = (Passes.pass i (worker s)).lastProcessed := rfl
  obtain ⟨hr, ⟨hs, hl⟩ | ⟨hidle, hs, hl⟩⟩ := pass_selected i (worker s)
  · refine ⟨?_, ?_⟩
    · rw [hsel, hlast, hl, hs]
      exact h.processed
    · rw [Matches, target, hw, hr, hsel, hs]
      exact h.page
  · have hpos : 0 < (request (worker s)).relayId := by
      rw [Idle, not_or, Int.not_le] at hidle
      exact hidle.2
    have hpage := h.page
    rw [Matches, target, if_pos hpos] at hpage
    refine ⟨?_, ?_⟩
    · rw [hsel, hlast, hl, hs]
      exact fun _ => rfl
    · rw [Matches, target, hw, hr, if_pos hpos]
      exact hpage

theorem target_congr {s s' : System}
    (h : s'.device.relayController = s.device.relayController) : target s' = target s := by
  simp only [target, selected, worker, request, h]
  rfl

theorem Inv.of_page {s s' : System} (h : Inv s) (hs : selected s' = selected s)
    (hl : s'.lastProcessed = s.lastProcessed) (hpage : Matches s' (config s') (frequency s')) :
    Inv s' := by
  refine ⟨?_, hpage⟩
  rw [hs, hl]
  exact h.processed

theorem runCommand_none {cmd : CatCommand} (h : frequencyOf cmd = none) (d : Device) :
    runCommand cmd d = d := by
  cases cmd with
  | fa param =>
      simp only [frequencyOf, ite_eq_right_iff, reduceCtorEq, imp_false] at h
      simp only [runCommand, processFaCommand, if_pos (show charAt param _ ≠ 0 from h)]
  | info param =>
      simp only [frequencyOf, ite_eq_right_iff, reduceCtorEq, imp_false, not_and] at h
      simp only [runCommand, processIfCommand]
      split
      · rfl
      · rename_i hlen
        have hno : charAt (param.take 11) (strtoul 32 (param.take 11)).2 ≠ 0 := h (Nat.not_lt.mp hlen)
        rw [if_pos hno]

theorem runCommand_frequency {cmd : CatCommand} {f : UInt32} (h : frequencyOf cmd = some f)
    (d : Device) : (runCommand cmd d).catParser.currentFrequency = f := by
  rw [runCommand_report h, handleFrequencyChange_frequency]

/-- The antenna that the switch chooses is the one the table lists. -/
theorem lists_choice {c : AntennaSwitchConfig} {f : UInt32} {q : RelayChangeRequest}
    (hq : choice c f = some q) {port : Nat} (h : Lists c f port) : q.relayId = port := by
  rw [choice_assigned hq, (lists_iff.mp h).2]

/-- With auto mode on, a listed antenna is chosen. -/
theorem choice_of_lists {c : AntennaSwitchConfig} {f : UInt32} (ha : c.autoMode = true)
    {port : Nat} (h : Lists c f port) : choice c f ≠ none := by
  intro hn
  obtain ⟨hne, hp⟩ := lists_iff.mp h
  rw [choice, if_pos ha] at hn
  simp only [assigned] at hp
  cases hb : c.firstBand f with
  | none =>
      rw [hb] at hp
      exact hne hp.symm
  | some i =>
      rw [hb, Option.bind_some, Option.map_eq_none_iff] at hn
      simp only [hb, hn] at hp
      exact hne hp.symm

theorem Inv.report {s : System} (h : Inv s) (parse : Bytes → Option Json) {cmd : CatCommand}
    (hok : Keeps parse s (.report cmd)) : Inv (next parse s (.report cmd)) := by
  cases hf : frequencyOf cmd with
  | none =>
      rw [next, runCommand_none hf]
      exact h
  | some f =>
      obtain ⟨hm, hr⟩ := runCommand_frame hf s.device
      have hconfig : config (next parse s (.report cmd)) = config s := by
        rw [config, next, hm, config]
      have hfreq : frequency (next parse s (.report cmd)) = f := by
        rw [frequency, next, runCommand_frequency hf]
      have hstays (hc : (runCommand cmd s.device).relayController = s.device.relayController)
          (hn : Matches s (config s) f) : Inv (next parse s (.report cmd)) := by
        have ht : target (next parse s (.report cmd)) = target s := target_congr hc
        refine h.of_page ?_ rfl ?_
        · rw [selected, next, hc, selected]
        · rw [Matches, ht, hconfig, hfreq]
          exact hn
      by_cases hsame : f = s.device.catParser.currentFrequency
      · rw [if_pos (Or.inl hsame)] at hr
        refine hstays hr ?_
        rw [hsame]
        exact h.page
      · have hindex : getBandIndex f s.device.catParser =
            bandIndex s.device.catParser.currentConfig f := by
          rw [getBandIndex_eq, if_neg fun hk => hsame hk.1]
        by_cases hb : getBandIndex f s.device.catParser = s.device.catParser.currentBandIndex
        · rw [if_pos (Or.inr hb)] at hr
          exact hstays hr (hok f hf hsame (Or.inr (hindex ▸ hb)))
        · rw [if_neg (not_or.mpr ⟨hsame, hb⟩)] at hr
          cases hq : choice s.device.configManager.currentConfig f with
          | none =>
              rw [hq] at hr
              refine hstays hr fun port hlist => ?_
              -- the switch chooses none: auto mode is off, or the table lists none
              cases ha : (config s).autoMode with
              | false => exact hok f hf hsame (Or.inl ha) port hlist
              | true => exact absurd hq (choice_of_lists ha hlist)
          | some q =>
              rw [hq, Option.getD_some] at hr
              refine h.of_page ?_ rfl fun port hlist => ?_
              · rw [selected, next, hr, selected]
              · rw [hconfig, hfreq] at hlist
                have hrel := lists_choice hq hlist
                have hpos := (lists_iff.mp hlist).1
                simp only [target, worker, request, next, hr]
                rw [if_pos (by omega), hrel]

theorem Inv.edit {s : System} (h : Inv s) {d : Device}
    (hr : d.relayController = s.device.relayController)
    (hf : d.catParser.currentFrequency = s.device.catParser.currentFrequency)
    (hok : Matches s d.configManager.currentConfig (frequency s)) : Inv { s with device := d } := by
  refine h.of_page ?_ rfl ?_
  · rw [selected, hr, selected]
  · have ht : target { s with device := d } = target s := target_congr hr
    rw [Matches, ht, frequency, hf]
    exact hok

theorem postDocument_frame (w : NvsWrite) (root : Json) (d : Device) :
    (postDocument w root d).2.relayController = d.relayController ∧
      (postDocument w root d).2.catParser.currentFrequency = d.catParser.currentFrequency := by
  rw [postDocument]
  split
  · exact ⟨rfl, rfl⟩
  · split <;> exact ⟨rfl, rfl⟩

theorem configPostHandler_frame (parse : Bytes → Option Json) (w : NvsWrite) (r : PostRequest)
    (d : Device) :
    (configPostHandler parse w r d).2.relayController = d.relayController ∧
      (configPostHandler parse w r d).2.catParser.currentFrequency =
        d.catParser.currentFrequency := by
  rcases configPostHandler_cases parse w r d with ⟨e, he⟩ | ⟨b, received, root, -, -, hp⟩
  · rw [he]
    exact ⟨rfl, rfl⟩
  · rw [hp]
    exact postDocument_frame w root d

/-- A POST leaves the configuration alone or stores the one that the document reads as. -/
theorem configPostHandler_config (parse : Bytes → Option Json) (w : NvsWrite) (r : PostRequest)
    (d : Device) :
    (configPostHandler parse w r d).2.configManager.currentConfig = d.configManager.currentConfig ∨
      ∃ c, posted parse r = some c ∧ c.Checked ∧
        (configPostHandler parse w r d).2.configManager.currentConfig = c := by
  rcases configPostHandler_cases parse w r d with ⟨e, he⟩ | ⟨b, received, root, hrec, hparse, hp⟩
  · rw [he]
    exact Or.inl rfl
  · rw [hp, postDocument]
    cases hc : configOf root with
    | error e => exact Or.inl rfl
    | ok c =>
        have hpost : posted parse r = some c := by
          simp only [posted, hrec, hparse, hc]
          rfl
        have hkept := updateConfig_cases w c d.configManager
        dsimp only
        cases hu : Config.updateConfig w c d.configManager with
        | mk e m =>
            rw [hu] at hkept
            rcases hkept with ⟨-, hn⟩ | ⟨hcheck, hm, -⟩
            · obtain ⟨rfl, rfl⟩ := Prod.mk.inj hn
              exact Or.inl rfl
            · refine Or.inr ⟨c, hpost, hcheck, ?_⟩
              cases e <;> exact hm

/-- The reset table lists port 1 for the frequencies of the ten bands, and no other. -/
theorem lists_resetConfig {f : UInt32} {port : Nat} (h : Lists Web.resetConfig f port) :
    (∃ e ∈ bandInfo, e.startFreq ≤ f ∧ f ≤ e.endFreq) ∧ port = 1 := by
  obtain ⟨i, hi, hc, -, j, hj, -, -, rfl⟩ := h
  have hi : i < 10 := hi
  have hj : j < 1 := hj
  have hlen : bandInfo.length = 10 := rfl
  obtain ⟨e, he⟩ : ∃ e, bandInfo[i]? = some e := ⟨_, List.getElem?_eq_getElem (by omega)⟩
  have hband : Web.resetConfig.band i = resetBand e := by
    rw [AntennaSwitchConfig.band, dif_pos (show i < MAX_BANDS from hi)]
    simp only [Web.resetConfig, he]
  rw [hband, BandConfig.contains, Bool.and_eq_true, decide_eq_true_iff, decide_eq_true_iff] at hc
  exact ⟨⟨e, List.mem_of_getElem? he, hc⟩, by omega⟩

theorem Inv.setRelay {s : System} (h : Inv s) (parse : Bytes → Option Json) {relay : Int}
    {state : Bool} (hok : Keeps parse s (.setRelay relay state)) :
    Inv (next parse s (.setRelay relay state)) := by
  simp only [next, antennaSwitchSetRelay, Relay.setRelay]
  split
  · exact h
  · rename_i hr
    split
    · exact h
    · rename_i hbit
      refine h.of_page rfl rfl fun port hlist => ?_
      have hrel := hok (by omega) (by omega) hbit port hlist
      have hpos : 0 < relay := by omega
      exact (if_pos hpos).trans hrel

theorem Inv.step {parse : Bytes → Option Json} {s s' : System} {a : Action} (h : Inv s)
    (hs : Step parse s a s') (hok : Keeps parse s a) : Inv s' := by
  cases hs
  cases a with
  | report cmd => exact h.report parse hok
  | post w r =>
      obtain ⟨hr, hf⟩ := configPostHandler_frame parse w r s.device
      refine h.edit hr hf ?_
      rcases configPostHandler_config parse w r s.device with hc | ⟨c, hp, hcheck, hc⟩
      · rw [hc]
        exact h.page
      · rw [hc]
        exact hok c hp hcheck
  | resetConfig w =>
      rw [next, resetConfigHandler_snd]
      refine h.edit rfl rfl ?_
      rcases updateConfig_cases w Web.resetConfig s.device.configManager with ⟨hc, -⟩ | ⟨-, hc, -⟩
      · exact absurd (by decide) hc
      · dsimp only
        rw [hc]
        intro port hlist
        obtain ⟨hin, rfl⟩ := lists_resetConfig hlist
        exact hok hin
  | toggleAutoMode w =>
      rw [next, toggleAutoModeHandler_snd]
      refine h.edit rfl rfl ?_
      rcases updateConfig_cases w
        { s.device.configManager.currentConfig with
          autoMode := !s.device.configManager.currentConfig.autoMode } s.device.configManager with
        ⟨-, hc⟩ | ⟨-, hc, -⟩
      · dsimp only
        rw [hc]
        exact h.page
      · dsimp only
        rw [hc]
        exact h.page
  | setRelay relay state => exact h.setRelay parse hok
  | pass i => exact h.pass i parse

/-- The task has processed nothing, and the table lists no antenna for the current
frequency, or the one that is selected or pending. -/
structure Started (s : System) : Prop where
  lastProcessed : s.lastProcessed = noRequest
  page : Matches s (config s) (frequency s)

/-- In a run that keeps the page in step, it tells the truth whenever the task is
idle. -/
theorem pageTrue_of_keeps (parse : Bytes → Option Json) (s : System) (hs : Started s)
    (t : List (Action × System)) (h : Run (Step parse) s t) (hg : Guarded (Keeps parse) s t) :
    PageTrue s ∧ ∀ x ∈ t, PageTrue x.2 := by
  have hi : Inv s := by
    refine ⟨fun hpos => ?_, hs.page⟩
    rw [hs.lastProcessed] at hpos
    exact absurd hpos (by decide)
  have ht := h.invariant_of_guarded Inv hi hg fun s a s' hi hs hok => hi.step hs hok
  exact ⟨hi.pageTrue, fun x hx => (ht x hx).pageTrue⟩

def poweredOn (autoMode : Bool) : System := ⟨startedWith (twentyOnly autoMode), noRequest⟩

theorem started_poweredOn (autoMode : Bool) : Started (poweredOn autoMode) := by
  refine ⟨rfl, fun port hlist => ?_⟩
  obtain ⟨hne, rfl⟩ := lists_iff.mp hlist
  cases autoMode <;> exact absurd (by decide) hne

def twenty : Action := .report (.fa (text "00014074000"))

def confirmed : Action :=
  .pass ⟨none, SendCommand.exchange [.data (text "RELAY-SET_ALL-255,0,1,OK")],
    SendCommand.undisturbed⟩

def linked : System :=
  ⟨{ startedWith (twentyOnly true) with
      relayController := { Relay.construct with tcpClient := SendCommand.linkUp } }, noRequest⟩

theorem started_linked : Started linked := by
  refine ⟨rfl, fun port hlist => ?_⟩
  obtain ⟨hne, rfl⟩ := lists_iff.mp hlist
  exact absurd (by decide) hne

def tunedRun : List (Action × System) :=
  trace (next fun _ => none) linked
    [twenty, confirmed, .report (.fa (text "00014080000")), .setRelay 1 false]

theorem pageTrue_of_keeps_tuned :
    (PageTrue linked ∧ ∀ x ∈ tunedRun, PageTrue x.2) ∧
      ∃ x ∈ tunedRun, Idle (worker x.2) ∧
        (statusGetHandler x.2.device).antenna = text "Antenna " ++ decimal 1 := by
  refine ⟨pageTrue_of_keeps (fun _ => none) linked started_linked _
    (run_trace (step_next _) _ _) ⟨fun f hf _ hor => ?_, trivial, fun f hf _ _ port hlist => ?_,
      fun _ _ _ port hlist => ?_, trivial⟩, ?_⟩
  · obtain rfl : (14074000 : UInt32) = f := Option.some.inj hf
    exact absurd hor (by decide)
  · obtain rfl : (14080000 : UInt32) = f := Option.some.inj hf
    rw [← (lists_iff.mp hlist).2]
    decide
  · rw [← (lists_iff.mp hlist).2]
    decide
  · refine ⟨_, List.mem_cons_of_mem _ List.mem_cons_self, ?_, ?_⟩
    · decide
    · decide

/-- With auto mode off, the first report makes the page name antenna 1, and no relay
is selected. -/
theorem pageTrue_fails :
    ¬ ∀ (parse : Bytes → Option Json) s, Started s → ∀ t : List (Action × System),
      Run (Step parse) s t → Guarded Answered s t → ∀ x ∈ t, PageTrue x.2 := by
  intro h
  have hrun : Run (Step fun _ => none) (poweredOn false)
      (trace (next fun _ => none) (poweredOn false) [twenty]) := run_trace (step_next _) _ _
  have hp := h _ _ (started_poweredOn false) _ hrun ⟨trivial, trivial⟩ _ List.mem_cons_self
  exact absurd (hp (by decide) 1 (by decide)) (by decide)

end BandDecoder.StatusPage
