import BandDecoder.FrequencyText
import BandDecoder.Runs
import BandDecoder.Web

namespace BandDecoder.BandCache

open CStrings SwitchConfig Config Relay Switch Cat Web FrequencyText Loops Runs

def bandIndex (c : AntennaSwitchConfig) (freq : UInt32) : Int :=
  match c.firstBand freq with
  | some i => i
  | none => -1

theorem getBandIndex_eq (freq : UInt32) (p : CatParser) :
    getBandIndex freq p =
      if freq = p.currentFrequency ∧ p.currentBandIndex ≠ -1 then p.currentBandIndex
      else bandIndex p.currentConfig freq := by
  simp only [getBandIndex, forIn_return, pure_bind, bandIndex, AntennaSwitchConfig.firstBand]
  split
  · rfl
  · cases (List.range p.currentConfig.numBands.toNat).find?
      fun i => (p.currentConfig.band i).contains freq <;> rfl

theorem bandIndex_congr {c c' : AntennaSwitchConfig} (hn : c.numBands = c'.numBands)
    (hb : c.bands = c'.bands) : bandIndex c = bandIndex c' := by
  funext freq
  rw [bandIndex, bandIndex, AntennaSwitchConfig.firstBand_congr hn hb]

/-- The frequency that an accepted report hands to `handle_frequency_change`. -/
def frequencyOf : CatCommand → Option UInt32
  | .fa param => if Accepted param then some (reading param) else none
  | .info param =>
      if 35 ≤ param.length ∧ Accepted (param.take 11) then some (reading (param.take 11)) else none

def noteStatus : CatCommand → Device → Device
  | .fa _, d => d
  | .info param, d =>
      { d with catParser :=
        { d.catParser with
          transmitting := charAt param 26 = 49
          currentMode := modeOf (charAt param 27) } }

theorem runCommand_report {cmd : CatCommand} {f : UInt32} (h : frequencyOf cmd = some f)
    (d : Device) : runCommand cmd d = (handleFrequencyChange f (noteStatus cmd d)).2 := by
  cases cmd with
  | fa param =>
      simp only [frequencyOf, Option.ite_none_right_eq_some, Option.some.injEq] at h
      obtain ⟨ha, rfl⟩ := h
      have hc : ¬ charAt param (strtoul 32 param).2 ≠ 0 := not_not.mpr ha
      simp only [runCommand, processFaCommand, if_neg hc]
      rfl
  | info param =>
      simp only [frequencyOf, Option.ite_none_right_eq_some, Option.some.injEq] at h
      obtain ⟨⟨hlen, ha⟩, rfl⟩ := h
      have hc : ¬ charAt (param.take 11) (strtoul 32 (param.take 11)).2 ≠ 0 := not_not.mpr ha
      simp only [runCommand, processIfCommand, if_neg (Nat.not_lt.mpr hlen), if_neg hc]
      rfl

/-- The report of the reference controller: no early return, no skip. -/
def referenceFrequencyChange (frequency : UInt32) (d : Device) : EspErr × Device :=
  let newBandIndex := getBandIndex frequency d.catParser
  match antennaSwitchSetFrequency d.configManager.currentConfig frequency d.relayController with
  | (.ok, c) => (.ok,
      { d with
        relayController := c
        catParser := { d.catParser with
          currentFrequency := frequency, currentBandIndex := newBandIndex } })
  | (e, c) => (e, { d with relayController := c })

def referenceCommand (cmd : CatCommand) (d : Device) : Device :=
  match frequencyOf cmd with
  | some f => (referenceFrequencyChange f (noteStatus cmd d)).2
  | none => d

inductive Op
  | report (cmd : CatCommand)
  | post (w : NvsWrite) (r : PostRequest)
  | resetConfig (w : NvsWrite)
  | toggleAutoMode (w : NvsWrite)
  | apCommand (w : NvsWrite) (param : Bytes)
  | setAutoMode (w : NvsWrite) (autoMode : Bool)

section

variable (parse : Bytes → Option Json)

def ifHandled : Except HttpError Unit × Device → Option Device
  | (.ok _, d) => some d
  | (.error _, _) => none

/-- A successful operation; `none` for one that fails and for a report whose text
is not accepted. -/
def apply (report : CatCommand → Device → Device) (d : Device) : Op → Option Device
  | .report cmd => if (frequencyOf cmd).isSome then some (report cmd d) else none
  | .post w r => ifHandled (configPostHandler parse w r d)
  | .resetConfig w => ifHandled (resetConfigHandler w d)
  | .toggleAutoMode w => ifHandled (toggleAutoModeHandler w d)
  | .apCommand w param => match processApCommand w param d with
    | (.ok, d) => some d
    | _ => none
  | .setAutoMode w autoMode => match antennaSwitchSetAutoMode w autoMode d.configManager with
    | (.ok, m) => some { d with configManager := m }
    | _ => none

def posted (r : PostRequest) : Option AntennaSwitchConfig :=
  match r.received with
  | some (b :: received) => match parse (cstr (contentOf r (b :: received))) with
    | some root => (configOf root).toOption
    | none => none
  | _ => none

def edited (op : Op) (c : AntennaSwitchConfig) : Option AntennaSwitchConfig :=
  match op with
  | .report _ => none
  | .post _ r => posted parse r
  | .resetConfig _ => some resetConfig
  | .toggleAutoMode _ => some { c with autoMode := !c.autoMode }
  | .apCommand _ param => some { c with numAntennaPorts := UInt8.ofNat (strtoul 32 param).1 }
  | .setAutoMode _ autoMode => some { c with autoMode }

def refreshed (op : Op) (c copy : AntennaSwitchConfig) : AntennaSwitchConfig :=
  match op with
  | .post _ _ => c
  | _ => copy

theorem postDocument_ok {w : NvsWrite} {root : Json} {d d' : Device}
    (h : postDocument w root d = (.ok (), d')) :
    ∃ c, configOf root = .ok c ∧ d' =
      { d with
        configManager := stored c d.configManager
        catParser := { d.catParser with currentConfig := c } } := by
  rw [postDocument] at h
  cases hc : configOf root with
  | error e =>
      rw [hc] at h
      cases h
  | ok c =>
      rw [hc] at h
      dsimp only at h
      split at h
      · rename_i m hm
        obtain ⟨-, rfl⟩ := updateConfig_ok hm
        cases h
        exact ⟨c, rfl, rfl⟩
      · cases h

theorem configPostHandler_ok {w : NvsWrite} {r : PostRequest} {d d' : Device}
    (h : configPostHandler parse w r d = (.ok (), d')) :
    ∃ c, posted parse r = some c ∧ d' =
      { d with
        configManager := stored c d.configManager
        catParser := { d.catParser with currentConfig := c } } := by
  rcases configPostHandler_cases parse w r d with ⟨e, he⟩ | ⟨b, received, root, hr, hroot, hp⟩
  · rw [he] at h
    cases h
  · rw [hp] at h
    obtain ⟨c, hc, hd⟩ := postDocument_ok h
    refine ⟨c, ?_, hd⟩
    simp only [posted, hr, hroot, hc]
    rfl

theorem processApCommand_eq {w : NvsWrite} {param : Bytes} {d d' : Device}
    (h : processApCommand w param d = (.ok, d')) : d' =
      { d with
        configManager := stored
          { d.configManager.currentConfig with
            numAntennaPorts := UInt8.ofNat (strtoul 32 param).1 } d.configManager } := by
  rw [processApCommand] at h
  dsimp only at h
  split at h
  · cases h
  · obtain ⟨he, hd⟩ := Prod.mk.inj h
    obtain ⟨-, hm⟩ := updateConfig_ok (Prod.ext he rfl)
    rw [← hd]
    exact congrArg (fun m : ConfigManager => { d with configManager := m }) hm

theorem ifHandled_eq_some {result : Except HttpError Unit × Device} {d : Device}
    (h : ifHandled result = some d) : result = (.ok (), d) := by
  obtain ⟨status, d'⟩ := result
  cases status with
  | error e => cases h
  | ok u =>
      cases h
      rfl

/-- Everything a successful operation can do: report a frequency, or store the
configuration it stands for and, after a POST, hand it to the parser too. -/
theorem apply_cases {report : CatCommand → Device → Device} {d d' : Device} {op : Op}
    (h : apply parse report d op = some d') :
    (∃ cmd f, op = .report cmd ∧ frequencyOf cmd = some f ∧ d' = report cmd d) ∨
    (∃ c, edited parse op d.configManager.currentConfig = some c ∧ d' =
      { d with
        configManager := stored c d.configManager
        catParser := { d.catParser with
          currentConfig := refreshed op c d.catParser.currentConfig } }) := by
  cases op with
  | report cmd =>
      simp only [apply, Option.isSome_iff_exists, Option.ite_none_right_eq_some,
        Option.some.injEq] at h
      obtain ⟨⟨f, hf⟩, rfl⟩ := h
      exact Or.inl ⟨cmd, f, rfl, hf, rfl⟩
  | post w r =>
      have hok : configPostHandler parse w r d = (.ok (), d') := ifHandled_eq_some h
      exact Or.inr (configPostHandler_ok parse hok)
  | resetConfig w =>
      have hok : resetConfigHandler w d = (.ok (), d') := ifHandled_eq_some h
      exact Or.inr ⟨resetConfig, rfl, answered_ok hok⟩
  | toggleAutoMode w =>
      have hok : toggleAutoModeHandler w d = (.ok (), d') := ifHandled_eq_some h
      exact Or.inr ⟨_, rfl, answered_ok hok⟩
  | apCommand w param =>
      refine Or.inr ⟨_, rfl, ?_⟩
      simp only [apply] at h
      split at h
      · rename_i d₁ hd
        cases h
        exact processApCommand_eq hd
      · cases h
  | setAutoMode w autoMode =>
      refine Or.inr ⟨_, rfl, ?_⟩
      simp only [apply, antennaSwitchSetAutoMode] at h
      split at h
      · rename_i m hm
        obtain ⟨-, rfl⟩ := updateConfig_ok hm
        cases h
        rfl
      · cases h

end

/-! Reports against the reference controller -/

/-- A report whose relay request is skipped although the configuration now asks
for another one than the pending one. -/
def StaleSkip (cmd : CatCommand) (d : Device) : Prop :=
  ∃ f q, frequencyOf cmd = some f ∧
    (f = d.catParser.currentFrequency ∨
      getBandIndex f d.catParser = d.catParser.currentBandIndex) ∧
    choice d.configManager.currentConfig f = some q ∧ q ≠ d.relayController.latestRequest

def PairStep (parse : Bytes → Option Json) (s : Device × Device) (op : Op) (s' : Device × Device) :
    Prop :=
  apply parse runCommand s.1 op = some s'.1 ∧ apply parse referenceCommand s.2 op = some s'.2

def InStep (s : Device × Device) : Prop :=
  s.1.configManager = s.2.configManager ∧ s.1.relayController = s.2.relayController

def ReportsFresh (s : Device × Device) (op : Op) : Prop := ∀ cmd, op = .report cmd → ¬ StaleSkip cmd s.1

def SamePending (op : Op) (s : Device × Device) : Prop :=
  ∀ cmd, op = .report cmd → s.1.relayController.latestRequest = s.2.relayController.latestRequest

theorem noteStatus_frame (cmd : CatCommand) (d : Device) :
    (noteStatus cmd d).configManager = d.configManager ∧
      (noteStatus cmd d).relayController = d.relayController ∧
      (noteStatus cmd d).catParser.currentFrequency = d.catParser.currentFrequency ∧
      (noteStatus cmd d).catParser.currentBandIndex = d.catParser.currentBandIndex ∧
      (noteStatus cmd d).catParser.currentConfig = d.catParser.currentConfig := by
  cases cmd <;> exact ⟨rfl, rfl, rfl, rfl, rfl⟩

theorem handleFrequencyChange_frame (f : UInt32) (d : Device) :
    (handleFrequencyChange f d).2.configManager = d.configManager ∧
      (handleFrequencyChange f d).2.relayController =
        if f = d.catParser.currentFrequency ∨
            getBandIndex f d.catParser = d.catParser.currentBandIndex then d.relayController
        else { d.relayController with latestRequest :=
          (choice d.configManager.currentConfig f).getD d.relayController.latestRequest } := by
  rw [handleFrequencyChange_eq]
  by_cases hf : f = d.catParser.currentFrequency
  · rw [if_pos hf, if_pos (Or.inl hf)]
    exact ⟨rfl, rfl⟩
  · rw [if_neg hf]
    refine ⟨rfl, ?_⟩
    by_cases hb : getBandIndex f d.catParser = d.catParser.currentBandIndex
    · rw [if_pos hb, if_pos (Or.inr hb)]
    · rw [if_neg hb, if_neg (not_or.mpr ⟨hf, hb⟩)]

theorem referenceCommand_frame {cmd : CatCommand} {f : UInt32} (h : frequencyOf cmd = some f)
    (d : Device) :
    (referenceCommand cmd d).configManager = d.configManager ∧
      (referenceCommand cmd d).relayController =
        { d.relayController with latestRequest :=
          (choice d.configManager.currentConfig f).getD d.relayController.latestRequest } := by
  obtain ⟨hm, hr, -⟩ := noteStatus_frame cmd d
  simp only [referenceCommand, h, referenceFrequencyChange, antennaSwitchSetFrequency_eq, hm, hr,
    and_self]

theorem runCommand_frame {cmd : CatCommand} {f : UInt32} (h : frequencyOf cmd = some f)
    (d : Device) :
    (runCommand cmd d).configManager = d.configManager ∧
      (runCommand cmd d).relayController =
        if f = d.catParser.currentFrequency ∨
            getBandIndex f d.catParser = d.catParser.currentBandIndex then d.relayController
        else { d.relayController with latestRequest :=
          (choice d.configManager.currentConfig f).getD d.relayController.latestRequest } := by
  obtain ⟨hm, hr, hf, hb, hc⟩ := noteStatus_frame cmd d
  have h' := handleFrequencyChange_frame f (noteStatus cmd d)
  have hi : getBandIndex f (noteStatus cmd d).catParser = getBandIndex f d.catParser := by
    rw [getBandIndex_eq, getBandIndex_eq, hf, hb, hc]
  rw [hm, hr, hf, hb, hi] at h'
  rw [runCommand_report h]
  exact h'

theorem report_inStep {cmd : CatCommand} {f : UInt32} {s : Device × Device}
    (h : frequencyOf cmd = some f) (hs : InStep s) (hok : ¬ StaleSkip cmd s.1) :
    InStep (runCommand cmd s.1, referenceCommand cmd s.2) := by
  obtain ⟨hm, hr⟩ := runCommand_frame h s.1
  obtain ⟨hm', hr'⟩ := referenceCommand_frame h s.2
  refine ⟨by rw [hm, hm', hs.1], ?_⟩
  rw [hr, hr', ← hs.1, ← hs.2]
  split
  · rename_i hskip
    cases hq : choice s.1.configManager.currentConfig f with
    | none => rfl
    | some q =>
        have hp : q = s.1.relayController.latestRequest := by
          by_contra hne
          exact hok ⟨f, q, h, hskip, hq, hne⟩
        rw [Option.getD_some, hp]
  · rfl

theorem edit_inStep {parse : Bytes → Option Json} {op : Op} {s s' : Device × Device}
    (h : PairStep parse s op s') (hs : InStep s) (hop : ∀ cmd, op ≠ .report cmd) : InStep s' := by
  rcases apply_cases parse h.1 with ⟨cmd, _, hc, _⟩ | ⟨c, hc, he⟩
  · exact absurd hc (hop cmd)
  · rcases apply_cases parse h.2 with ⟨cmd, _, hc', _⟩ | ⟨c', hc', he'⟩
    · exact absurd hc' (hop cmd)
    · rw [← hs.1, hc, Option.some.injEq] at hc'
      rw [InStep, he, he', ← hs.1, ← hc']
      exact ⟨rfl, hs.2⟩

def twentyOnly (autoMode : Bool) : AntennaSwitchConfig :=
  { AntennaSwitchConfig.zero with
    autoMode, numBands := 1, numAntennaPorts := 1
    bands := fun _ => ⟨CharArray.zero, 14000000, 14350000, fun _ => true⟩ }

def startedWith (c : AntennaSwitchConfig) : Device :=
  ⟨⟨c, [], []⟩, ⟨c, 0, -1, false, .unset⟩, Relay.construct⟩

def reportTwenty : Op := .report (.fa (text "00014074000"))

/-- The cache shows nothing after any report of a run exactly when no report of the
run skips a request that the configuration in force asks for. -/
theorem samePending_iff (parse : Bytes → Option Json) (d : Device) (t : List (Op × Device × Device))
    (h : Run (PairStep parse) (d, d) t) :
    (∀ x ∈ t, SamePending x.1 x.2) ↔ Guarded ReportsFresh (d, d) t := by
  refine h.forall_iff_guarded InStep SamePending ⟨rfl, rfl⟩ ?_ ?_
  · intro s op s' hs ha hok
    have hs' : InStep s' := by
      rcases apply_cases parse ha.1 with ⟨cmd, f, rfl, hf, he⟩ | ⟨c, hc, _⟩
      · have he' := ha.2
        simp only [apply, hf, Option.isSome_some, if_true, Option.some.injEq] at he'
        have hi := report_inStep hf hs (hok cmd rfl)
        rwa [← he, he'] at hi
      · refine edit_inStep ha hs ?_
        rintro cmd rfl
        cases hc
    exact ⟨hs', fun _ _ => congrArg RelayController.latestRequest hs'.2⟩
  · intro s op s' hs ha hok hp
    simp only [ReportsFresh, not_forall, not_not] at hok
    obtain ⟨cmd, rfl, f, q, hf, hskip, hq, hne⟩ := hok
    obtain ⟨h1, h2⟩ := ha
    simp only [apply, hf, Option.isSome_some, if_true, Option.some.injEq] at h1 h2
    have hr := (runCommand_frame hf s.1).2
    have hr' := (referenceCommand_frame hf s.2).2
    have he := hp cmd rfl
    rw [if_pos hskip] at hr
    rw [← h1, ← h2, hr, hr', ← hs.1, hq] at he
    exact hne he.symm

def after (report : CatCommand → Device → Device) (d : Device) (op : Op) : Device :=
  (apply (fun _ => none) report d op).getD d

theorem apply_after {report : CatCommand → Device → Device} {d : Device} {op : Op}
    (h : (apply (fun _ => none) report d op).isSome) :
    apply (fun _ => none) report d op = some (after report d op) := by
  obtain ⟨d', hd⟩ := Option.isSome_iff_exists.mp h
  rw [after, hd, Option.getD_some]

def afterBoth (s : Device × Device) (op : Op) : Device × Device :=
  (after runCommand s.1 op, after referenceCommand s.2 op)

def reportsAndToggles : List Op :=
  [reportTwenty, .toggleAutoMode .success, .report (.fa (text "00014080000")), .toggleAutoMode .success,
    .report (.fa (text "00014085000"))]

theorem samePending_iff_report :
    let s := (startedWith (twentyOnly true), startedWith (twentyOnly true))
    let t := trace afterBoth s reportsAndToggles
    (∀ x ∈ t, SamePending x.1 x.2) ∧ Guarded ReportsFresh s t := by
  intro s t
  have hstep {s : Device × Device} {op : Op}
      (h : (apply (fun _ => none) runCommand s.1 op).isSome ∧
        (apply (fun _ => none) referenceCommand s.2 op).isSome) :
      PairStep (fun _ => none) s op (afterBoth s op) := ⟨apply_after h.1, apply_after h.2⟩
  have run : Run (PairStep fun _ => none) s t :=
    .cons (hstep (by decide +kernel)) (.cons (hstep (by decide +kernel))
      (.cons (hstep (by decide +kernel)) (.cons (hstep (by decide +kernel))
        (.cons (hstep (by decide +kernel)) (.nil _)))))
  have hsame : ∀ x ∈ t, SamePending x.1 x.2 := by
    have hall : ∀ x ∈ t, x.2.1.relayController.latestRequest = x.2.2.relayController.latestRequest := by
      decide +kernel
    exact fun x hx _ _ => hall x hx
  exact ⟨hsame, (samePending_iff (fun _ => none) _ _ run).mp hsame⟩

/-- With auto mode switched on between two reports of one frequency the second
report still requests nothing. -/
theorem samePending_fails :
    ¬ ∀ (parse : Bytes → Option Json) (d : Device) (t : List (Op × Device × Device)),
      Run (PairStep parse) (d, d) t → ∀ x ∈ t, SamePending x.1 x.2 := by
  intro h
  let s := (startedWith (twentyOnly false), startedWith (twentyOnly false))
  let report (s : Device × Device) : Device × Device :=
    (runCommand (.fa (text "00014074000")) s.1, referenceCommand (.fa (text "00014074000")) s.2)
  let toggle (s : Device × Device) : Device × Device :=
    ((toggleAutoModeHandler .success s.1).2, (toggleAutoModeHandler .success s.2).2)
  have run : Run (PairStep fun _ => none) s [(reportTwenty, report s),
      (.toggleAutoMode .success, toggle (report s)),
      (reportTwenty, report (toggle (report s)))] :=
    .cons ⟨rfl, rfl⟩ (.cons ⟨rfl, rfl⟩ (.cons ⟨rfl, rfl⟩ (.nil _)))
  have hp := h _ _ _ run _ (List.mem_cons_of_mem _ (List.mem_cons_of_mem _ List.mem_cons_self))
  exact absurd (hp _ rfl) (by decide)

/-! Lookups of the parser and of the switch -/

def LookupsAgree (d : Device) : Prop :=
  ∀ freq, getBandIndex freq d.catParser = bandIndex d.configManager.currentConfig freq

def Started (d : Device) : Prop :=
  d.catParser.currentConfig = d.configManager.currentConfig ∧ d.catParser.currentBandIndex = -1

/-- A POST keeps the current frequency in the cached band, and a reset finds the
parser's copy looking up like the default table. -/
def KeepsLookups (parse : Bytes → Option Json) (d : Device) (op : Op) : Prop :=
  match op with
  | .post _ r => d.catParser.currentBandIndex = -1 ∨
      ∀ c, posted parse r = some c →
        bandIndex c d.catParser.currentFrequency = d.catParser.currentBandIndex
  | .resetConfig _ => bandIndex resetConfig = bandIndex d.catParser.currentConfig
  | _ => True

def CacheValid (d : Device) : Prop :=
  bandIndex d.catParser.currentConfig = bandIndex d.configManager.currentConfig ∧
    (d.catParser.currentBandIndex ≠ -1 →
      d.catParser.currentBandIndex =
        bandIndex d.configManager.currentConfig d.catParser.currentFrequency)

theorem CacheValid.lookupsAgree {d : Device} (h : CacheValid d) : LookupsAgree d := by
  intro freq
  rw [getBandIndex_eq]
  split
  · rename_i hf
    rw [h.2 hf.2, hf.1]
  · rw [h.1]

theorem report_cacheValid {cmd : CatCommand} {f : UInt32} {d : Device}
    (h : frequencyOf cmd = some f) (hv : CacheValid d) : CacheValid (runCommand cmd d) := by
  obtain ⟨hm, hr, hf, hb, hc⟩ := noteStatus_frame cmd d
  have hv' : CacheValid (noteStatus cmd d) := by
    rw [CacheValid, hm, hf, hb, hc]
    exact hv
  rw [runCommand_report h, handleFrequencyChange_eq]
  dsimp only
  split
  · exact hv'
  · exact ⟨hv'.1, fun _ => hv'.lookupsAgree f⟩

theorem edit_cacheValid {parse : Bytes → Option Json} {op : Op} {d : Device}
    {c : AntennaSwitchConfig} (h : edited parse op d.configManager.currentConfig = some c)
    (hv : CacheValid d) (hok : KeepsLookups parse d op) :
    CacheValid
      { d with
        configManager := stored c d.configManager
        catParser := { d.catParser with
          currentConfig := refreshed op c d.catParser.currentConfig } } := by
  have same (hn : d.configManager.currentConfig.numBands = c.numBands)
      (hb : d.configManager.currentConfig.bands = c.bands) :
      CacheValid
        { d with
          configManager := stored c d.configManager
          catParser := { d.catParser with currentConfig := d.catParser.currentConfig } } := by
    have hl := bandIndex_congr hn hb
    exact ⟨hv.1.trans hl, fun hi => (hv.2 hi).trans (congrFun hl _)⟩
  cases op with
  | report cmd => cases h
  | post w r =>
      refine ⟨rfl, fun hi => ?_⟩
      rcases hok with hn | hk
      · exact absurd hn hi
      · exact (hk c h).symm
  | resetConfig w =>
      cases h
      refine ⟨Eq.symm hok, fun hi => ?_⟩
      have hcur := hv.2 hi
      rw [← hv.1, ← show bandIndex resetConfig = bandIndex d.catParser.currentConfig from hok] at hcur
      exact hcur
  | toggleAutoMode w =>
      cases h
      exact same rfl rfl
  | apCommand w param =>
      cases h
      exact same rfl rfl
  | setAutoMode w autoMode =>
      cases h
      exact same rfl rfl

theorem edit_disagrees {parse : Bytes → Option Json} {op : Op} {d : Device}
    {c : AntennaSwitchConfig} (h : edited parse op d.configManager.currentConfig = some c)
    (hv : CacheValid d) (hok : ¬ KeepsLookups parse d op) :
    ¬ LookupsAgree
      { d with
        configManager := stored c d.configManager
        catParser := { d.catParser with
          currentConfig := refreshed op c d.catParser.currentConfig } } := by
  intro hl
  cases op with
  | post w r =>
      simp only [KeepsLookups, not_or, not_forall] at hok
      obtain ⟨hi, c', hc', hne⟩ := hok
      obtain rfl : c' = c := Option.some.inj (hc'.symm.trans h)
      have hcur := hl d.catParser.currentFrequency
      rw [getBandIndex_eq, if_pos ⟨rfl, hi⟩] at hcur
      exact hne hcur.symm
  | resetConfig w =>
      cases h
      refine hok (funext fun freq => ?_)
      have hf := hl freq
      rw [getBandIndex_eq] at hf
      split at hf
      · rename_i hc
        rw [hv.1, hc.1]
        rw [hc.1] at hf
        exact hf.symm.trans (hv.2 hc.2)
      · exact hf.symm
  | _ => exact hok trivial

/-- Along a run the parser finds the bands of the configuration in force exactly
when no POST moves the current frequency out of its cached band and no reset
changes what the parser's copy looks up. -/
theorem lookupsAgree_iff (parse : Bytes → Option Json) (d : Device) (hd : Started d)
    (t : List (Op × Device))
    (h : Run (fun d op d' => apply parse runCommand d op = some d') d t) :
    (LookupsAgree d ∧ ∀ x ∈ t, LookupsAgree x.2) ↔ Guarded (KeepsLookups parse) d t := by
  have hv : CacheValid d := ⟨by rw [hd.1], fun hi => absurd hd.2 hi⟩
  rw [and_iff_right hv.lookupsAgree]
  refine h.forall_iff_guarded CacheValid (fun _ => LookupsAgree) hv ?_ ?_
  · intro d op d' hv ha hok
    have hv' : CacheValid d' := by
      rcases apply_cases parse ha with ⟨cmd, f, rfl, hf, rfl⟩ | ⟨c, hc, rfl⟩
      · exact report_cacheValid hf hv
      · exact edit_cacheValid hc hv hok
    exact ⟨hv', hv'.lookupsAgree⟩
  · intro d op d' hv ha hok
    rcases apply_cases parse ha with ⟨cmd, f, rfl, hf, rfl⟩ | ⟨c, hc, rfl⟩
    · exact absurd trivial hok
    · exact edit_disagrees hc hv hok

theorem after_copy {op : Op} (hop : ∀ w r, op ≠ .post w r) (d : Device) :
    (after runCommand d op).catParser.currentConfig = d.catParser.currentConfig := by
  rw [after]
  cases ha : apply (fun _ => none) runCommand d op with
  | none => rfl
  | some d' =>
      rw [Option.getD_some]
      rcases apply_cases _ ha with ⟨cmd, f, rfl, hf, rfl⟩ | ⟨c, -, rfl⟩
      · obtain ⟨-, -, -, -, hc⟩ := noteStatus_frame cmd d
        rw [runCommand_report hf, handleFrequencyChange_eq]
        dsimp only
        split <;> exact hc
      · cases op with
        | post w r => exact absurd rfl (hop w r)
        | _ => rfl

theorem lookupsAgree_iff_report :
    let d := startedWith resetConfig
    let t := trace (after runCommand) d
      (reportsAndToggles ++ [.apCommand .success (text "4"), .resetConfig .success])
    (LookupsAgree d ∧ ∀ x ∈ t, LookupsAgree x.2) ∧ Guarded (KeepsLookups fun _ => none) d t := by
  intro d t
  have run : Run (fun d op d' => apply (fun _ => none) runCommand d op = some d') d t :=
    .cons (apply_after (by decide +kernel)) (.cons (apply_after (by decide +kernel))
      (.cons (apply_after (by decide +kernel)) (.cons (apply_after (by decide +kernel))
        (.cons (apply_after (by decide +kernel)) (.cons (apply_after (by decide +kernel))
          (.cons (apply_after (by decide +kernel)) (.nil _)))))))
  have hkeeps : Guarded (KeepsLookups fun _ => none) d t := by
    refine ⟨trivial, trivial, trivial, trivial, trivial, trivial, ?_, trivial⟩
    rw [KeepsLookups]
    iterate 6 rw [after_copy fun _ _ => Op.noConfusion]
    rfl
  exact ⟨(lookupsAgree_iff (fun _ => none) _ ⟨rfl, rfl⟩ _ run).mpr hkeeps, hkeeps⟩

/-- After a reset the parser still looks up the band table from before. -/
theorem lookupsAgree_fails :
    ¬ ∀ (parse : Bytes → Option Json) (d : Device), Started d → ∀ t : List (Op × Device),
      Run (fun d op d' => apply parse runCommand d op = some d') d t →
        ∀ x ∈ t, LookupsAgree x.2 := by
  intro h
  have h₁ : apply (fun _ => none) runCommand (startedWith (twentyOnly true))
    (.resetConfig .success) = some _ := rfl
  have hl := h _ _ ⟨rfl, rfl⟩ _ (.cons h₁ (.nil _)) _ List.mem_cons_self 14074000
  exact absurd hl (by decide)

end BandDecoder.BandCache
