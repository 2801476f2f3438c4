import BandDecoder.EventLoop
import BandDecoder.WebServer
import BandDecoder.WifiManager

namespace BandDecoder.WifiEvents

open CStrings SwitchConfig WifiManager WebServer EventLoop Runs
open EventGroup (bits collect)

inductive Bit
  | connected
  | fail
  | esptouchDone
  deriving DecidableEq, Repr

inductive Base
  | wifi
  | ip
  | sc
  deriving DecidableEq, Repr

/-- What a `smartconfig_task` does next: look at the connection, stop an older session,
start its own, poll the group, and stop twice on its way out. -/
inductive TaskStage
  | look
  | stop
  | start
  | poll
  | complete
  | leave
  | ended
  deriving DecidableEq, Repr

inductive Stage
  | eventGroup
  | netif
  | eventLoop
  | staNetif
  | wifiInit
  | setStorage
  | setMode
  | registerWifi
  | registerIp
  | registerSc
  | wifiStart
  | load
  | connect (ssid password : Bytes)
  | returned (e : EspErr)
  deriving DecidableEq, Repr

inductive Link
  | up
  | down
  deriving DecidableEq, Repr

/-- The station, with `fault` for a call on a group that does not exist. The last four
are kept for the properties alone: the last event that decided on the link, whether a
SmartConfig task has taken the connected bit since the handler wrote it, whether an
`esp_smartconfig_start` has succeeded and no `esp_smartconfig_stop` since, and how many
of these have failed since. -/
structure Station (G σ : Type*) where
  stage : Stage
  group : Option G
  registered : List Base
  startPosted : Bool
  usingSavedCredentials : Bool
  wifiConnected : Bool
  ipObtained : Bool
  tasks : List TaskStage
  server : Webserver σ
  storage : Storage
  fault : Bool
  link : Option Link
  taken : Bool
  session : Bool
  refused : Nat

variable {G σ : Type*}

def poweredOn (L : Library σ) (storage : Storage) : Station G σ :=
  ⟨.eventGroup, none, [], false, false, false, false, [], off L, storage, false, none, false, false, 0⟩

def isConnected (s : Station G σ) : Bool := s.wifiConnected

def startSmartconfig (s : Station G σ) : Station G σ := { s with usingSavedCredentials := false }

/-- The result of `esp_smartconfig_stop` is not looked at. -/
def smartconfigStop (e : EspErr) (s : Station G σ) : Station G σ :=
  if e = .ok then { s with session := false } else { s with refused := s.refused + 1 }

/-- What `xEventGroupWaitBits` has seen when it ends decides. -/
def waitForConnection [EventGroup G Bit] (s : Station G σ) : EspErr :=
  match s.group with
  | none => .invalidState
  | some g => if bits g .connected then .ok else if bits g .fail then .fail else .timeout

/-! The event handler, one call or assignment after the other -/

inductive Op
  | createTask (created : Bool)
  | setUsingSavedCredentials (b : Bool)
  | setWifiConnected (b : Bool)
  | setIpObtained (b : Bool)
  | clearBits (b : Bit)
  | setBits (b : Bit)
  | smartconfigStop (e : EspErr)
  | webserverStart (ipInfo : EspErr)
  | saveWifiConfig (w : SaveScript) (r : LoadScript) (ssid : CharArray 32) (password : CharArray 64)

inductive Event
  | staStart (created : Bool)
  | staDisconnected
  | staConnected
  | gotIp (stop ipInfo : EspErr)
  | gotSsidPswd (w : SaveScript) (r : LoadScript) (ssid : CharArray 32) (password : CharArray 64)
  | sendAckDone
  | other (b : Base)

def base : Event → Base
  | .staStart _ | .staDisconnected | .staConnected => .wifi
  | .gotIp _ _ => .ip
  | .gotSsidPswd _ _ _ _ | .sendAckDone => .sc
  | .other b => b

def eventHandler : Event → List Op
  | .staStart created => [.createTask created]
  | .staDisconnected => [.setUsingSavedCredentials false, .setWifiConnected false,
      .setIpObtained false, .clearBits .connected, .setBits .fail]
  | .staConnected => [.setWifiConnected true]
  | .gotIp stop ipInfo => [.setIpObtained true, .setWifiConnected true, .clearBits .fail,
      .setBits .connected, .smartconfigStop stop, .setUsingSavedCredentials true,
      .webserverStart ipInfo]
  | .gotSsidPswd w r ssid password => [.saveWifiConfig w r ssid password]
  | .sendAckDone => [.setBits .esptouchDone]
  | .other _ => []

def write (f : G → G) (b : Bit) (s : Station G σ) : Station G σ :=
  match s.group with
  | none => { s with fault := true }
  | some g => { s with group := some (f g), taken := s.taken && decide (b ≠ .connected) }

theorem write_of_group {f : G → G} {b : Bit} {s : Station G σ} {g : G} (hg : s.group = some g) :
    write f b s = { s with group := some (f g), taken := s.taken && decide (b ≠ .connected) } := by
  simp only [write, hg]

/-- `STA_START` creates the SmartConfig task unless stored credentials are in use. -/
def apply [EventGroup G Bit] (L : Library σ) : Op → Station G σ → Station G σ
  | .createTask created, s =>
      if s.usingSavedCredentials || !created then s else { s with tasks := s.tasks ++ [.look] }
  | .setUsingSavedCredentials b, s => { s with usingSavedCredentials := b }
  | .setWifiConnected b, s => { s with wifiConnected := b }
  | .setIpObtained b, s => { s with ipObtained := b }
  | .clearBits b, s => write (EventGroup.clear · b) b s
  | .setBits b, s => write (EventGroup.set · b) b s
  | .smartconfigStop e, s => smartconfigStop e s
  | .webserverStart ipInfo, s => { s with server := (webserverStart L ipInfo s.server).2 }
  | .saveWifiConfig w r ssid password, s =>
      { s with storage := (gotSsidPswd w r ssid password s.storage).storage }

/-- The driver posts `STA_START` once for each `esp_wifi_start`. -/
def deliverable (s : Station G σ) (e : Event) : Prop :=
  base e ∈ s.registered ∧ ∀ created, e = .staStart created → s.startPosted = true

def note : Event → Station G σ → Station G σ
  | .staStart _, s => { s with startPosted := false }
  | .staDisconnected, s => { s with link := some .down }
  | .gotIp _ _, s => { s with link := some .up }
  | _, s => s

/-! The threads beside the event loop -/

structure TaskScript where
  setType : EspErr
  start : EspErr
  stop : EspErr

def TaskScript.success : TaskScript := ⟨.ok, .ok, .ok⟩

def smartconfigTask [EventGroup G Bit] (x : TaskScript) (s : Station G σ) : TaskStage → TaskStage × Station G σ
  | .look => match s.group with
    | none => (.look, { s with fault := true })
    | some g => (if bits g .connected then .ended else .stop, s)
  | .stop => (.start, smartconfigStop x.stop s)
  | .start =>
      if x.setType ≠ .ok ∨ x.start ≠ .ok then (.ended, s)
      else (.poll, { s with session := true, refused := 0 })
  | .poll => match s.group with
    | none => (.poll, { s with fault := true })
    | some g => match collect g [.connected, .esptouchDone] with
      | none => (.poll, s)
      | some g' => (.complete, { s with group := some g', taken := s.taken || bits g .connected })
  | .complete => (.leave, smartconfigStop x.stop s)
  | .leave => (.ended, smartconfigStop x.stop s)
  | .ended => (.ended, s)

structure InitScript where
  result : EspErr
  load : LoadScript
  connect : ConnectScript

def proceed (e : EspErr) (stage : Stage) (s : Station G σ) : Station G σ :=
  { s with stage := if e = .ok then stage else .returned e }

def register (e : EspErr) (b : Base) (stage : Stage) (s : Station G σ) : Station G σ :=
  proceed e stage (if e = .ok then { s with registered := s.registered ++ [b] } else s)

/-- One call of `init`; `start_smartconfig` stands at its end for every failure of
`try_connect_with_saved_credentials`. -/
def advance [EventGroup G Bit] (x : InitScript) (s : Station G σ) : Station G σ :=
  match s.stage with
  | .eventGroup =>
      if x.result = .ok then { s with group := some EventGroup.create, stage := .netif }
      else { s with stage := .returned .noMem }
  | .netif => proceed x.result .eventLoop s
  | .eventLoop =>
      proceed (if x.result = .invalidState then .ok else x.result) .staNetif s
  | .staNetif => proceed (if x.result = .ok then .ok else .fail) .wifiInit s
  | .wifiInit => proceed x.result .setStorage s
  | .setStorage => proceed x.result .setMode s
  | .setMode => proceed x.result .registerWifi s
  | .registerWifi => register x.result .wifi .registerIp s
  | .registerIp => register x.result .ip .registerSc s
  | .registerSc => register x.result .sc .wifiStart s
  | .wifiStart =>
      proceed x.result .load (if x.result = .ok then { s with startPosted := true } else s)
  | .load =>
      let loaded := loadCredentials x.load (List.replicate 33 0) 33 (List.replicate 65 0) 65 s.storage
      if loaded.status = .ok then
        { s with
          usingSavedCredentials := true
          stage := .connect (cstr loaded.ssid) (cstr loaded.password) }
      else { startSmartconfig s with stage := .returned .ok }
  | .connect ssid password =>
      if (connectSta x.connect ssid password).1 = .ok then { s with stage := .returned .ok }
      else { startSmartconfig s with stage := .returned .ok }
  | .returned _ => s

inductive Thread
  | init (x : InitScript)
  | task (i : Nat) (x : TaskScript)
  | startSmartconfig

def runTask [EventGroup G Bit] (i : Nat) (x : TaskScript) (s : Station G σ) : Station G σ :=
  match s.tasks[i]? with
  | none => s
  | some t =>
      { (smartconfigTask x s t).2 with tasks := s.tasks.set i (smartconfigTask x s t).1 }

def other [EventGroup G Bit] : Thread → Station G σ → Station G σ
  | .init x, s => advance x s
  | .task i x, s => runTask i x s
  | .startSmartconfig, s => startSmartconfig s

def station [EventGroup G Bit] (L : Library σ) : Loop (Station G σ) Event Op Thread where
  deliverable := deliverable
  note := note
  handler := eventHandler
  apply := apply L
  possible := fun _ _ => True
  other := other

abbrev Moment (G σ : Type*) := EventLoop.Config (Station G σ) Op

/-- Any moment of a boot, in whatever order the threads run. -/
def Boots [EventGroup G Bit] (L : Library σ) (storage : Storage) (m : Moment G σ) : Prop :=
  Reachable (station L).Step ⟨poweredOn L storage, []⟩ m

/-! What holds at every moment -/

def toCome : Stage → Nat
  | .load | .connect _ _ | .returned _ => 0
  | _ => 1

def creates : Op → Nat
  | .createTask _ => 1
  | _ => 0

def Past : TaskStage → Prop
  | .complete | .leave | .ended => True
  | _ => False

def Owns : TaskStage → Prop
  | .poll | .complete | .leave => True
  | _ => False

def stops : TaskStage → Nat
  | .leave => 1
  | .ended => 2
  | _ => 0

/-- The task looks after the session, or has tried to stop it twice. -/
def Answers (s : Station G σ) (t : TaskStage) : Prop := (Owns t ∨ t = .ended) ∧ stops t ≤ s.refused

structure Inv (m : Moment G σ) : Prop where
  fault : m.state.fault = false
  grouped : m.state.group = none →
    m.state.registered = [] ∧ (m.state.stage = .eventGroup ∨ ∃ e, m.state.stage = .returned e)
  early : m.state.stage = .eventGroup → m.state.group = none
  quiet : m.state.registered = [] → m.pending = [] ∧ m.state.tasks = [] ∧ m.state.link = none
  budget : toCome m.state.stage + m.state.startPosted.toNat + (m.pending.map creates).sum +
    m.state.tasks.length ≤ 1
  sole : m.state.taken = true → ∃ t, m.state.tasks = [t] ∧ Past t
  owned : m.state.session = true → ∃ t ∈ m.state.tasks, Answers m.state t

theorem inv_poweredOn (L : Library σ) (storage : Storage) :
    Inv (⟨poweredOn L storage, []⟩ : Moment G σ) :=
  ⟨rfl, fun _ => ⟨rfl, Or.inl rfl⟩, fun _ => rfl, fun _ => ⟨rfl, rfl, rfl⟩, Nat.le_refl _,
    fun h => Bool.noConfusion h, fun h => Bool.noConfusion h⟩

theorem Inv.drop {s : Station G σ} {a : Op} {p : List Op} (h : Inv ⟨s, a :: p⟩) : Inv ⟨s, p⟩ := by
  have hb := h.budget
  refine ⟨h.fault, h.grouped, h.early, fun hn => absurd (h.quiet hn).1 (List.cons_ne_nil a p), ?_, h.sole,
    h.owned⟩
  simp only [List.map_cons, List.sum_cons] at hb
  dsimp only
  omega

theorem Inv.registered {s : Station G σ} {a : Op} {p : List Op} (h : Inv ⟨s, a :: p⟩) :
    s.registered ≠ [] := fun hn => List.cons_ne_nil a p (h.quiet hn).1

theorem Inv.group {m : Moment G σ} (h : Inv m) (hr : m.state.registered ≠ []) :
    ∃ g, m.state.group = some g :=
  Option.ne_none_iff_exists'.mp fun hn => hr (h.grouped hn).1

theorem Inv.write {s : Station G σ} {p : List Op} (h : Inv ⟨s, p⟩) (hr : s.registered ≠ [])
    (f : G → G) (b : Bit) : Inv ⟨write f b s, p⟩ := by
  obtain ⟨g, hg⟩ : ∃ g, s.group = some g := h.group hr
  rw [write_of_group hg]
  refine ⟨h.fault, fun hn => (Option.some_ne_none _ hn).elim, fun he => ?_, fun hn => absurd hn hr, h.budget,
    fun ht => h.sole (Bool.and_eq_true_iff.mp ht).1, h.owned⟩
  exact absurd (h.early he) (by simp [hg])

theorem Inv.take {s : Station G σ} {e : Event} (h : Inv ⟨s, []⟩) (hd : deliverable s e) :
    Inv ⟨note e s, eventHandler e⟩ := by
  have hr : s.registered ≠ [] := List.ne_nil_of_mem hd.1
  have hb := h.budget
  cases e with
  | staStart created =>
      refine ⟨h.fault, h.grouped, h.early, fun hn => absurd hn hr, ?_, h.sole, h.owned⟩
      have hp := hd.2 created rfl
      simp only [hp] at hb
      exact hb
  | _ => exact ⟨h.fault, h.grouped, h.early, fun hn => absurd hn hr, hb, h.sole, h.owned⟩

theorem Inv.alone {s : Station G σ} {p : List Op} (h : Inv ⟨s, p⟩) {i : Nat} {t : TaskStage}
    (ht : s.tasks[i]? = some t) : s.tasks = [t] ∧ s.registered ≠ [] := by
  have hb := h.budget
  dsimp only at hb
  obtain ⟨hi, hget⟩ := List.getElem?_eq_some_iff.mp ht
  obtain ⟨u, hu⟩ := List.length_eq_one_iff.mp (show s.tasks.length = 1 by omega)
  refine ⟨?_, fun hn => ?_⟩
  · have hmem : t ∈ s.tasks := hget ▸ List.getElem_mem hi
    rw [hu, List.mem_singleton] at hmem
    rw [hu, hmem]
  · exact absurd (hu.symm.trans (h.quiet hn).2.1) (List.cons_ne_nil u [])

theorem Inv.goesOn {s : Station G σ} {p : List Op} {t t' : TaskStage} {g : G}
    {session taken : Bool} {refused : Nat} (h : Inv ⟨s, p⟩) (ht : s.tasks = [t])
    (hr : s.registered ≠ []) (htaken : taken = true → Past t')
    (hsession : session = true → (Owns t' ∨ t' = .ended) ∧ stops t' ≤ refused) :
    Inv ⟨{ s with group := some g, session, refused, taken, tasks := [t'] }, p⟩ := by
  have hb := h.budget
  dsimp only at hb
  rw [ht] at hb
  refine ⟨h.fault, fun hn => (Option.some_ne_none _ hn).elim, fun he => ?_, fun hn => absurd hn hr, hb,
    fun hs => ⟨t', rfl, htaken hs⟩, fun hs => ⟨t', List.mem_singleton_self t', hsession hs⟩⟩
  exact absurd (h.grouped (h.early he)).1 hr

theorem smartconfigStop_eq (e : EspErr) (s : Station G σ) : ∃ session refused,
    smartconfigStop e s = { s with session, refused } ∧ (session = true → s.session = true) ∧
      (session = true → s.refused + 1 ≤ refused) := by
  rw [smartconfigStop]
  split
  · exact ⟨false, s.refused, rfl, fun h => Bool.noConfusion h, fun h => Bool.noConfusion h⟩
  · exact ⟨s.session, s.refused + 1, rfl, id, fun _ => Nat.le_refl _⟩

/-- A stop leaves a session without a task to answer for it only by failing. -/
theorem Inv.smartconfigStop {s : Station G σ} {p : List Op} (h : Inv ⟨s, p⟩) (e : EspErr) :
    Inv ⟨smartconfigStop e s, p⟩ := by
  rw [WifiEvents.smartconfigStop]
  split
  · exact ⟨h.fault, h.grouped, h.early, h.quiet, h.budget, h.sole, fun hs => Bool.noConfusion hs⟩
  · refine ⟨h.fault, h.grouped, h.early, h.quiet, h.budget, h.sole, fun hs => ?_⟩
    obtain ⟨t, ht, ho, hn⟩ := h.owned hs
    exact ⟨t, ht, ho, Nat.le_succ_of_le hn⟩

variable [EventGroup G Bit]

structure Advanced (s s' : Station G σ) : Prop where
  rest : s' = { s with
    stage := s'.stage, group := s'.group, registered := s'.registered
    startPosted := s'.startPosted, usingSavedCredentials := s'.usingSavedCredentials }
  group : s'.group = s.group ∨ s.stage = .eventGroup ∧ s'.group = some EventGroup.create
  registered : s.stage = .eventGroup ∨ (∃ e, s.stage = .returned e) → s'.registered = s.registered
  more : s.registered ≠ [] → s'.registered ≠ []
  stopped : s.stage = .eventGroup ∨ (∃ e, s.stage = .returned e) → s'.group = none →
    ∃ e, s'.stage = .returned e
  begun : s'.stage ≠ .eventGroup
  starts : toCome s'.stage + s'.startPosted.toNat ≤ toCome s.stage + s.startPosted.toNat

theorem advanced_proceed (e : EspErr) {stage : Stage} {s : Station G σ} (h : s.stage ≠ .eventGroup)
    (hr : ∀ e, s.stage ≠ .returned e) (hs : stage ≠ .eventGroup) (hc : toCome stage ≤ toCome s.stage) :
    Advanced s (proceed e stage s) := by
  have hearly : ¬ (s.stage = .eventGroup ∨ ∃ e, s.stage = .returned e) :=
    not_or.mpr ⟨h, fun ⟨e, he⟩ => hr e he⟩
  refine ⟨rfl, Or.inl rfl, fun _ => rfl, id, fun he => absurd he hearly, ?_, ?_⟩
  · change (if e = .ok then stage else .returned e) ≠ .eventGroup
    split
    · exact hs
    · exact Stage.noConfusion
  · change toCome (if e = .ok then stage else .returned e) + _ ≤ _
    split
    · exact Nat.add_le_add_right hc _
    · exact Nat.add_le_add_right (Nat.zero_le _) _

theorem advanced_register (e : EspErr) (b : Base) {stage : Stage} {s : Station G σ}
    (h : s.stage ≠ .eventGroup) (hr : ∀ e, s.stage ≠ .returned e) (hs : stage ≠ .eventGroup)
    (hc : toCome stage ≤ toCome s.stage) : Advanced s (register e b stage s) := by
  have hearly : ¬ (s.stage = .eventGroup ∨ ∃ e, s.stage = .returned e) :=
    not_or.mpr ⟨h, fun ⟨e, he⟩ => hr e he⟩
  rw [register]
  split
  · rename_i he
    subst he
    exact ⟨rfl, Or.inl rfl, fun hn => absurd hn hearly, fun _ => List.append_ne_nil_of_right_ne_nil _ (by simp),
      fun hn => absurd hn hearly, hs, Nat.add_le_add_right hc _⟩
  · exact advanced_proceed e h hr hs hc

theorem advanced_returned (s : Station G σ) (saved : Bool) :
    Advanced s { s with usingSavedCredentials := saved, stage := .returned .ok } :=
  ⟨rfl, Or.inl rfl, fun _ => rfl, id, fun _ _ => ⟨_, rfl⟩, Stage.noConfusion,
    Nat.add_le_add_right (Nat.zero_le _) _⟩

theorem advanced (x : InitScript) (s : Station G σ) : Advanced s (advance x s) := by
  cases hs : s.stage with
  | eventGroup =>
      rw [advance, hs]
      dsimp only
      split
      · exact ⟨rfl, Or.inr ⟨hs, rfl⟩, fun _ => rfl, id, fun _ hn => (Option.some_ne_none _ hn).elim,
          Stage.noConfusion, by rw [hs]; exact Nat.le_refl _⟩
      · exact ⟨rfl, Or.inl rfl, fun _ => rfl, id, fun _ _ => ⟨_, rfl⟩, Stage.noConfusion,
          Nat.add_le_add_right (Nat.zero_le _) _⟩
  | netif | eventLoop | staNetif | wifiInit | setStorage | setMode =>
      rw [advance, hs]
      exact advanced_proceed _ (by rw [hs]; exact Stage.noConfusion)
        (by rw [hs]; exact fun _ => Stage.noConfusion) Stage.noConfusion (by rw [hs]; exact Nat.le_refl _)
  | registerWifi | registerIp | registerSc =>
      rw [advance, hs]
      exact advanced_register _ _ (by rw [hs]; exact Stage.noConfusion)
        (by rw [hs]; exact fun _ => Stage.noConfusion) Stage.noConfusion (by rw [hs]; exact Nat.le_refl _)
  | wifiStart =>
      rw [advance, hs]
      dsimp only
      by_cases he : x.result = .ok
      · rw [he]
        refine ⟨rfl, Or.inl rfl, fun _ => rfl, id, fun hn => ?_, Stage.noConfusion, ?_⟩
        · simp [hs] at hn
        · rw [hs]
          exact Nat.le_add_right 1 _
      · rw [if_neg he]
        exact advanced_proceed _ (by rw [hs]; exact Stage.noConfusion)
          (by rw [hs]; exact fun _ => Stage.noConfusion) Stage.noConfusion (by rw [hs]; exact Nat.zero_le _)
  | load =>
      rw [advance, hs]
      dsimp only
      split
      · refine ⟨rfl, Or.inl rfl, fun _ => rfl, id, fun hn => ?_, Stage.noConfusion, ?_⟩
        · simp [hs] at hn
        · rw [hs]
          exact Nat.le_refl _
      · exact advanced_returned s false
  | connect ssid password =>
      rw [advance, hs]
      dsimp only
      split
      · exact advanced_returned s s.usingSavedCredentials
      · exact advanced_returned s false
  | returned e =>
      rw [advance, hs]
      exact ⟨rfl, Or.inl rfl, fun _ => rfl, id, fun _ _ => ⟨e, hs⟩, by rw [hs]; exact Stage.noConfusion,
        Nat.le_refl _⟩

theorem Inv.work {s : Station G σ} {a : Op} {p : List Op} (L : Library σ) (h : Inv ⟨s, a :: p⟩) :
    Inv ⟨apply L a s, p⟩ := by
  have hd := h.drop
  have hr := h.registered
  cases a with
  | createTask created =>
      rw [apply]
      split
      · exact hd
      · have hb := h.budget
        simp only [List.map_cons, List.sum_cons, creates] at hb
        have htasks : s.tasks = [] := List.length_eq_zero_iff.mp (by omega)
        refine ⟨hd.fault, hd.grouped, hd.early, fun hn => absurd hn hr, ?_, fun ht => ?_, fun hs => ?_⟩
        · dsimp only
          rw [List.length_append, List.length_singleton]
          omega
        · obtain ⟨t, ht, -⟩ := hd.sole ht
          exact absurd (htasks.symm.trans ht) (List.cons_ne_nil t []).symm
        · obtain ⟨t, ht, -⟩ := hd.owned hs
          exact absurd ht (by simp [htasks])
  | clearBits b | setBits b => exact hd.write hr _ b
  | smartconfigStop e => exact hd.smartconfigStop e
  | setUsingSavedCredentials b | setWifiConnected b | setIpObtained b | webserverStart x
  | saveWifiConfig w r ssid password =>
      exact ⟨hd.fault, hd.grouped, hd.early, hd.quiet, hd.budget, hd.sole, hd.owned⟩

theorem Inv.init {s : Station G σ} {p : List Op} (h : Inv ⟨s, p⟩) (x : InitScript) :
    Inv ⟨advance x s, p⟩ := by
  have ha := advanced x s
  have hb := h.budget
  have hs := ha.starts
  rw [ha.rest]
  refine ⟨h.fault, fun hn => ?_, fun he => absurd he ha.begun, fun hn => ?_, ?_, h.sole, h.owned⟩
  · have hg : s.group = none := by
      rcases ha.group with hg | ⟨-, hg⟩
      · exact hg ▸ hn
      · exact absurd (hg.symm.trans hn) (Option.some_ne_none _)
    obtain ⟨hreg, hst⟩ := h.grouped hg
    exact ⟨(ha.registered hst).trans hreg, Or.inr (ha.stopped hst hn)⟩
  · exact h.quiet (by_contra fun hne => ha.more hne hn)
  · dsimp only at hb ⊢
    omega

theorem smartconfigTask_group (x : TaskScript) {s : Station G σ} {g : G} (hg : s.group = some g)
    (t : TaskStage) (hsole : s.taken = true → Past t) (howned : s.session = true → Answers s t) :
    ∃ g' session refused taken,
      (smartconfigTask x s t).2 = { s with group := some g', session, refused, taken } ∧
      (taken = true → Past (smartconfigTask x s t).1) ∧
      (session = true → (Owns (smartconfigTask x s t).1 ∨ (smartconfigTask x s t).1 = .ended) ∧
        stops (smartconfigTask x s t).1 ≤ refused) := by
  have hsame : s = { s with group := some g } := by rw [← hg]
  have hnone (ht : ¬ (Owns t ∨ t = .ended)) (hs : s.session = true) : False := ht (howned hs).1
  obtain ⟨session, refused, hstop, hon, hmore⟩ := smartconfigStop_eq x.stop s
  cases t with
  | look =>
      refine ⟨g, s.session, s.refused, s.taken, ?_, fun ht => (hsole ht).elim,
        fun hs => (hnone (by simp [Owns]) hs).elim⟩
      simp only [smartconfigTask, hg]
      exact hsame
  | stop =>
      refine ⟨g, session, refused, s.taken, ?_, fun ht => (hsole ht).elim,
        fun hs => (hnone (by simp [Owns]) (hon hs)).elim⟩
      rw [smartconfigTask, hstop, ← hg]
  | start =>
      rw [smartconfigTask]
      split
      · exact ⟨g, s.session, s.refused, s.taken, hsame, fun _ => trivial,
          fun hs => (hnone (by simp [Owns]) hs).elim⟩
      · refine ⟨g, true, 0, s.taken, ?_, fun ht => (hsole ht).elim,
          fun _ => ⟨Or.inl trivial, Nat.le_refl _⟩⟩
        rw [← hg]
  | poll =>
      simp only [smartconfigTask, hg]
      split
      · exact ⟨g, s.session, s.refused, s.taken, hsame, fun ht => (hsole ht).elim,
          fun _ => ⟨Or.inl trivial, Nat.zero_le _⟩⟩
      · rename_i g' _
        exact ⟨g', s.session, s.refused, _, rfl, fun _ => trivial,
          fun _ => ⟨Or.inl trivial, Nat.zero_le _⟩⟩
  | complete =>
      refine ⟨g, session, refused, s.taken, ?_, fun _ => trivial, fun hs => ⟨Or.inl trivial, ?_⟩⟩
      · rw [smartconfigTask, hstop, ← hg]
      · exact Nat.le_trans (Nat.le_add_left 1 _) (hmore hs)
  | leave =>
      refine ⟨g, session, refused, s.taken, ?_, fun _ => trivial, fun hs => ⟨Or.inr rfl, ?_⟩⟩
      · rw [smartconfigTask, hstop, ← hg]
      · exact Nat.le_trans (Nat.succ_le_succ (howned (hon hs)).2) (hmore hs)
  | ended =>
      exact ⟨g, s.session, s.refused, s.taken, hsame, fun _ => trivial,
        fun hs => ⟨Or.inr rfl, (howned hs).2⟩⟩

theorem Inv.task {s : Station G σ} {p : List Op} (h : Inv ⟨s, p⟩) (i : Nat) (x : TaskScript) :
    Inv ⟨runTask i x s, p⟩ := by
  rw [runTask]
  cases ht : s.tasks[i]? with
  | none => exact h
  | some t =>
      obtain ⟨htasks, hr⟩ := h.alone ht
      obtain ⟨g, hg⟩ := h.group hr
      have hi : i = 0 := by
        rw [htasks] at ht
        have := (List.getElem?_eq_some_iff.mp ht).1
        rw [List.length_singleton] at this
        omega
      have hsole : s.taken = true → Past t := fun hs => by
        obtain ⟨u, hu, hp⟩ := h.sole hs
        rw [List.singleton_inj.mp (htasks.symm.trans hu)]
        exact hp
      have howned : s.session = true → Answers s t := fun hs => by
        obtain ⟨u, hu, hp⟩ := h.owned hs
        rw [htasks, List.mem_singleton] at hu
        exact hu ▸ hp
      obtain ⟨g', session, refused, taken, hs', hp, ho⟩ := smartconfigTask_group x hg t hsole howned
      dsimp only
      rw [hs', htasks, hi]
      exact h.goesOn htasks hr hp ho

variable {L : Library σ}

theorem Inv.step {m m' : Moment G σ} {a : EventLoop.Action Event Thread} (h : Inv m)
    (hs : (station L).Step m a m') : Inv m' := by
  cases hs with
  | take e hd => exact h.take hd
  | work a p => exact h.work L
  | other x hp =>
      cases x with
      | init x => exact h.init x
      | task i x => exact h.task i x
      | startSmartconfig =>
          exact ⟨h.fault, h.grouped, h.early, h.quiet, h.budget, h.sole, h.owned⟩

theorem inv_of_boots {storage : Storage} {m : Moment G σ} (h : Boots L storage m) : Inv m :=
  h.invariant Inv (inv_poweredOn L storage) fun _ _ _ hi hs => hi.step hs

theorem runTask_server (i : Nat) (x : TaskScript) (s : Station G σ) :
    (runTask i x s).server = s.server := by
  rw [runTask]
  cases s.tasks[i]? with
  | none => rfl
  | some t =>
      obtain ⟨session, refused, he, -⟩ := smartconfigStop_eq x.stop s
      dsimp only
      cases t with
      | look | start | poll =>
          rw [smartconfigTask]
          repeat' split
          all_goals rfl
      | stop | complete | leave => rw [smartconfigTask, he]
      | ended => rfl

/-- The handler is the only one to start the web server, and leaves it whole. -/
theorem whole_of_boots (hL : L.Documented) {storage : Storage} {m : Moment G σ}
    (h : Boots L storage m) : Whole L m.state.server := by
  refine h.invariant (fun m => Whole L m.state.server) (whole_off hL) ?_
  rintro m a m' hw hs
  cases hs with
  | @take s e hd => cases e <;> exact hw
  | @work s a p =>
      cases a with
      | webserverStart ipInfo => exact (whole_start hL hw ipInfo).1
      | createTask created =>
          simp only [station, apply]
          split <;> exact hw
      | clearBits b | setBits b =>
          simp only [station, apply, write]
          split <;> exact hw
      | smartconfigStop e =>
          simp only [station, apply, smartconfigStop]
          split <;> exact hw
      | setUsingSavedCredentials b | setWifiConnected b | setIpObtained b
      | saveWifiConfig w r ssid password => exact hw
  | @other s p x hp =>
      cases x with
      | init x =>
          have hrest : (advance x s).server = s.server := by rw [(advanced x s).rest]
          simp only [station, other, hrest]
          exact hw
      | task i x =>
          simp only [station, other, runTask_server]
          exact hw
      | startSmartconfig => exact hw

/-- Whatever the order of events, `init` and tasks: the handler and the tasks never call
a group that is not there, no second SmartConfig task is created, and a session that no
task is left to stop has seen two stops fail. -/
theorem session_owned {storage : Storage} {m : Moment G σ} (h : Boots L storage m) :
    m.state.fault = false ∧ m.state.tasks.length ≤ 1 ∧
      (m.state.session = true → (∃ t ∈ m.state.tasks, Owns t) ∨ 2 ≤ m.state.refused) := by
  have hi := inv_of_boots h
  have hb := hi.budget
  refine ⟨hi.fault, by omega, fun hs => ?_⟩
  obtain ⟨t, ht, ho | rfl, hn⟩ := hi.owned hs
  · exact Or.inl ⟨t, ht, ho⟩
  · exact Or.inr hn

/-! Boots put together from their steps -/

theorem Boots.take {storage : Storage} {s : Station G σ} (h : Boots L storage ⟨s, []⟩) (e : Event)
    (hd : deliverable s e) : Boots L storage ⟨note e s, eventHandler e⟩ := .tail h ⟨_, .take e hd⟩

theorem Boots.work {storage : Storage} {s : Station G σ} {p : List Op} (h : Boots L storage ⟨s, p⟩) :
    Boots L storage ⟨(station L).exec p s, []⟩ := by
  induction p generalizing s with
  | nil => exact h
  | cons a p ih => exact ih (.tail h ⟨_, .work a p⟩)

theorem Boots.inits {storage : Storage} {s : Station G σ} {p : List Op} (h : Boots L storage ⟨s, p⟩)
    (x : InitScript) (n : Nat) : Boots L storage ⟨(advance x)^[n] s, p⟩ := by
  induction n generalizing s with
  | zero => exact h
  | succ n ih => exact ih (.tail h ⟨_, .other (Thread.init x) trivial⟩)

theorem Boots.tasks {storage : Storage} {s : Station G σ} {p : List Op} (h : Boots L storage ⟨s, p⟩)
    (i : Nat) (x : TaskScript) (n : Nat) : Boots L storage ⟨(runTask i x)^[n] s, p⟩ := by
  induction n generalizing s with
  | zero => exact h
  | succ n ih => exact ih (.tail h ⟨_, .other (Thread.task i x) trivial⟩)

def InitScript.success : InitScript := ⟨.ok, .success, ⟨.ok, .ok⟩⟩

def home : Storage := ⟨some (text "home"), some (text "secret")⟩

instance plainGroup : EventGroup (Bit → Bool) Bit where
  create := fun _ => false
  bits := id
  set g b := Function.update g b true
  clear g b := Function.update g b false
  collect g bs := if bs.any g then some fun b => g b && !bs.contains b else none
  bits_create _ := rfl
  bits_set g b b' := Function.update_apply g b true b'
  bits_clear g b b' := Function.update_apply g b false b'
  collect_isSome g bs := by
    cases h : bs.any g <;> simp [h]
  bits_collect g g' bs h b := by
    obtain ⟨-, h⟩ := Option.ite_none_right_eq_some.mp h
    exact congrFun (Option.some.inj h).symm b

/-- `STA_START` is handled before `init` comes to the stored credentials; the address
comes, and both stops of the task fail. -/
theorem session_owned_refused : ∃ m : Moment (Bit → Bool) _, Boots numbered home m ∧
    m.state.session = true ∧ m.state.tasks = [.ended] ∧
      ((∃ t ∈ m.state.tasks, Owns t) ∨ 2 ≤ m.state.refused) := by
  have h : Boots (G := Bit → Bool) numbered home ⟨poweredOn numbered home, []⟩ := .refl
  have h := (((h.inits .success 11).take (.staStart true) ⟨by decide, fun _ _ => rfl⟩).work).tasks 0
    .success 3
  have h := (h.take (.gotIp .fail .ok) ⟨by decide, fun _ hc => nomatch hc⟩).work
  have h := h.tasks 0 ⟨.ok, .ok, .fail⟩ 3
  exact ⟨_, h, rfl, rfl, (session_owned h).2.2 rfl⟩

end BandDecoder.WifiEvents
