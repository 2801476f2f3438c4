import BandDecoder.RestartManager

namespace BandDecoder.AppMain

open SwitchConfig RestartManager

def ESP_ERR_NVS_NO_FREE_PAGES : EspErr := .nvs 0x110d

def ESP_ERR_NVS_NEW_VERSION_FOUND : EspErr := .nvs 0x1110

/-- The results of the calls of `initialize_basic`; `WifiManager::init` is one of them. -/
structure BasicScript where
  nvsFlashInit : EspErr
  nvsFlashInitAgain : EspErr
  eventLoop : EspErr
  wifi : EspErr
  watchdogInit : EspErr
  watchdogAdd : EspErr

def BasicScript.success : BasicScript := ⟨.ok, .ok, .ok, .ok, .ok, .ok⟩

/-- The storage of one boot: the result of the call and whether it erased the flash. -/
def initNvs (x : BasicScript) : EspErr × Bool :=
  if x.nvsFlashInit = ESP_ERR_NVS_NO_FREE_PAGES ∨ x.nvsFlashInit = ESP_ERR_NVS_NEW_VERSION_FOUND then
    (x.nvsFlashInitAgain, true)
  else (x.nvsFlashInit, false)

def initTaskWatchdog (x : BasicScript) : EspErr :=
  if x.watchdogInit ≠ .ok ∧ x.watchdogInit ≠ .invalidState then x.watchdogInit else x.watchdogAdd

def initializeBasic (x : BasicScript) : EspErr × Bool :=
  let (e, erased) := initNvs x
  if e ≠ .ok then (e, erased)
  else if x.eventLoop ≠ .ok then (x.eventLoop, erased)
  else if x.wifi ≠ .ok ∧ x.wifi ≠ .nvsNotFound then (x.wifi, erased)
  else (initTaskWatchdog x, erased)

/-- What one boot meets: the answers of `is_connected` in the order of the looks, the
one answer of `is_in_smartconfig_mode`, how many looks an endless loop gets before the
power goes, and the storage calls that are made on the way. -/
structure BootScript where
  basic : BasicScript
  connected : Nat → Bool
  smartconfigMode : Bool
  full : EspErr
  looks : Nat
  store : NvsScript
  check : NvsScript
  clear : NvsScript

inductive Event
  | erased
  | fatal (n : NvsScript) (check : EspErr)
  | initialized
  | cleared (stored : Bool)

def MAX_WIFI_WAIT_MS : Nat := 30000

def WIFI_CONNECT_CHECK_INTERVAL_MS : Nat := 100

/-- The number of the look that comes behind the loop, from the `i`-th look on. -/
def waitRounds (connected : Nat → Bool) : Nat → Nat → Nat
  | 0, i => i
  | n + 1, i => if connected i then i + 1 else waitRounds connected n (i + 1)

/-- One round for each interval while `elapsed_ms` is below the limit. -/
def waitForWifi (connected : Nat → Bool) (i : Nat) : Nat :=
  waitRounds connected (MAX_WIFI_WAIT_MS / WIFI_CONNECT_CHECK_INTERVAL_MS) i

/-- The endless loops of both handlers; only a connection leads out of them. -/
def smartconfigLoop (b : BootScript) (i : Nat) (s : Storage) : List Event × Storage :=
  if (List.range b.looks).any fun j => b.connected (i + j) then
    ([.cleared (decide (b.clear.opened = .ok ∧ b.clear.set = .ok))], clearRestartCount b.clear s)
  else ([], s)

def errorHandler (b : BootScript) (ret : EspErr) (i : Nat) (s : Storage) : List Event × Storage :=
  match checkRestartCount b.check (storeErrorState b.store ret s) with
  | (.fail, s) => (.fatal b.check .fail :: (smartconfigLoop b i s).1, (smartconfigLoop b i s).2)
  | (e, s) => ([.fatal b.check e], s)

def afterWifi (b : BootScript) (i : Nat) (s : Storage) : List Event × Storage :=
  if b.full ≠ .ok then errorHandler b b.full i s else ([.initialized], s)

def afterBasic (b : BootScript) (s : Storage) : List Event × Storage :=
  if b.connected 0 then afterWifi b 1 s
  else if b.smartconfigMode then smartconfigLoop b 1 s
  else
    let i := waitForWifi b.connected 1
    if b.connected i then afterWifi b (i + 1) s else errorHandler b .timeout (i + 1) s

/-- `app_main` from power on to its end or to the last look of an endless loop. -/
def appMain (b : BootScript) (s : Storage) : List Event × Storage :=
  let (ret, wiped) := initializeBasic b.basic
  let s := if wiped then ⟨none, none⟩ else s
  let (log, s) := if ret ≠ .ok then errorHandler b ret 0 s else afterBasic b s
  (if wiped then .erased :: log else log, s)

structure History where
  storage : Storage
  log : List Event

def erased : History := ⟨⟨none, none⟩, []⟩

def record (h : History) (r : List Event × Storage) : History := ⟨r.2, r.1.reverse ++ h.log⟩

def boot (h : History) (b : BootScript) : History := record h (appMain b h.storage)

def live (boots : List BootScript) : History := boots.foldl boot erased

/-- The fatal boots since the counter was last cleared in fact. -/
def sinceCleared : List Event → Nat
  | [] => 0
  | .fatal _ _ :: l => sinceCleared l + 1
  | .initialized :: l => sinceCleared l
  | .cleared stored :: l => if stored then 0 else sinceCleared l
  | .erased :: _ => 0

def Works (n : NvsScript) : Prop := n.opened = .ok ∧ n.get = .ok ∧ n.set = .ok

instance (n : NvsScript) : Decidable (Works n) := inferInstanceAs (Decidable (_ ∧ _ ∧ _))

/-- The fatal boots in a row, the last ones, whose check found its storage working. -/
def streak : List Event → Nat
  | .fatal n _ :: l => if Works n then streak l + 1 else 0
  | .initialized :: l => streak l
  | _ => 0

structure Bounded (h : History) : Prop where
  upper : (h.storage.restartCnt.getD 0).toNat ≤ sinceCleared h.log
  lower : sinceCleared h.log < 256 → streak h.log ≤ (h.storage.restartCnt.getD 0).toNat
  checks : ∀ n check l, .fatal n check :: l <:+ h.log → n.opened ≠ .fail →
    (check = .fail → MAX_RESTART_ATTEMPTS.toNat ≤ sinceCleared l + 1) ∧
      (MAX_RESTART_ATTEMPTS.toNat ≤ streak (.fatal n check :: l) → sinceCleared l + 1 < 256 →
        check = .fail)

theorem bounded_erased : Bounded erased :=
  ⟨Nat.le_refl _, fun _ => Nat.le_refl _, fun n check l h => by simp [erased] at h⟩

theorem Bounded.quiet {h : History} (hb : Bounded h) {e : Event} {s : Storage}
    (he : ∀ n check, e ≠ .fatal n check) (hu : (s.restartCnt.getD 0).toNat ≤ sinceCleared (e :: h.log))
    (hl : sinceCleared (e :: h.log) < 256 → streak (e :: h.log) ≤ (s.restartCnt.getD 0).toNat) :
    Bounded ⟨s, e :: h.log⟩ := by
  refine ⟨hu, hl, fun n check l hs => ?_⟩
  rcases List.suffix_cons_iff.mp hs with hc | hs
  · exact absurd (List.cons_eq_cons.mp hc).1.symm (he n check)
  · exact hb.checks n check l hs

theorem toNat_succ_le (c : UInt8) : (c + 1).toNat ≤ c.toNat + 1 := by
  rw [UInt8.toNat_add]
  exact Nat.mod_le _ _

theorem toNat_succ {c : UInt8} (h : c.toNat < 255) : (c + 1).toNat = c.toNat + 1 := by
  rw [UInt8.toNat_add]
  exact Nat.mod_eq_of_lt (by have := UInt8.toNat_one; omega)

theorem storeErrorState_restartCnt (n : NvsScript) (ret : EspErr) (s : Storage) :
    (storeErrorState n ret s).restartCnt = s.restartCnt := by
  rw [storeErrorState]
  split <;> rfl

def counted (n : NvsScript) (s : Storage) : UInt8 := (if n.get = .ok then s.restartCnt.getD 0 else 0) + 1

theorem checkRestartCount_opened {n : NvsScript} (s : Storage) (h : n.opened = .ok) :
    checkRestartCount n s = (if MAX_RESTART_ATTEMPTS ≤ counted n s then .fail else .ok,
      if n.set = .ok then { s with restartCnt := some (counted n s) } else s) := by
  rw [checkRestartCount, if_neg (fun hc => hc h)]
  rfl

theorem counted_le (n : NvsScript) (s : Storage) :
    (counted n s).toNat ≤ (s.restartCnt.getD 0).toNat + 1 := by
  rw [counted]
  split
  · exact toNat_succ_le _
  · exact Nat.le_add_left 1 _

theorem le_counted {n : NvsScript} {s : Storage} (h : Works n) (hs : (s.restartCnt.getD 0).toNat < 255) :
    (counted n s).toNat = (s.restartCnt.getD 0).toNat + 1 := by
  rw [counted, if_pos h.2.1]
  exact toNat_succ hs

theorem Bounded.fatal {h : History} (hb : Bounded h) {n : NvsScript} {check : EspErr} {s : Storage}
    (hu : (s.restartCnt.getD 0).toNat ≤ sinceCleared h.log + 1)
    (hl : sinceCleared h.log + 1 < 256 → streak (.fatal n check :: h.log) ≤ (s.restartCnt.getD 0).toNat)
    (hk : n.opened ≠ .fail → (check = .fail → MAX_RESTART_ATTEMPTS.toNat ≤ sinceCleared h.log + 1) ∧
      (MAX_RESTART_ATTEMPTS.toNat ≤ streak (.fatal n check :: h.log) → sinceCleared h.log + 1 < 256 →
        check = .fail)) : Bounded ⟨s, .fatal n check :: h.log⟩ := by
  refine ⟨hu, hl, fun n' check' l hs => ?_⟩
  rcases List.suffix_cons_iff.mp hs with hc | hs
  · cases hc
    exact hk
  · exact hb.checks n' check' l hs

/-- A check adds one failure to the counts and at most one to the byte. -/
theorem Bounded.check {h : History} (hb : Bounded h) (n m : NvsScript) (ret : EspErr) :
    Bounded ⟨(checkRestartCount n (storeErrorState m ret h.storage)).2,
      .fatal n (checkRestartCount n (storeErrorState m ret h.storage)).1 :: h.log⟩ := by
  have hs := storeErrorState_restartCnt m ret h.storage
  generalize storeErrorState m ret h.storage = s at hs ⊢
  have hu : (s.restartCnt.getD 0).toNat ≤ sinceCleared h.log := hs ▸ hb.upper
  have hl : sinceCleared h.log < 256 → streak h.log ≤ (s.restartCnt.getD 0).toNat := hs ▸ hb.lower
  by_cases ho : n.opened = .ok
  · have hle := counted_le n s
    have hmore (hw : Works n) (h256 : sinceCleared h.log + 1 < 256) :
        streak h.log + 1 ≤ (counted n s).toNat := by
      have hk := le_counted (s := s) hw (by omega)
      have := hl (by omega)
      omega
    rw [checkRestartCount_opened s ho]
    refine hb.fatal ?_ (fun h256 => ?_) fun _ => ⟨fun hf => ?_, fun h3 h256 => ?_⟩
    · dsimp only
      split
      · exact hle.trans (Nat.succ_le_succ hu)
      · exact Nat.le_succ_of_le hu
    · rw [streak]
      split
      · rename_i hw
        rw [if_pos hw.2.2]
        exact hmore hw h256
      · exact Nat.zero_le _
    · by_cases h3 : MAX_RESTART_ATTEMPTS ≤ counted n s
      · exact (UInt8.le_iff_toNat_le.mp h3).trans (hle.trans (Nat.succ_le_succ hu))
      · rw [if_neg h3] at hf
        exact EspErr.noConfusion hf
    · rw [streak] at h3
      split at h3
      · rename_i hw
        exact if_pos (UInt8.le_iff_toNat_le.mpr (h3.trans (hmore hw h256)))
      · exact absurd h3 (by decide)
  · have hw : ¬ Works n := fun hw => ho hw.1
    have hk : checkRestartCount n s = (n.opened, s) := by rw [checkRestartCount, if_pos ho]
    rw [hk]
    refine hb.fatal (Nat.le_succ_of_le hu) (fun _ => ?_) fun hf => ⟨fun he => absurd he hf, fun h3 => ?_⟩
    · rw [streak, if_neg hw]
      exact Nat.zero_le _
    · rw [streak, if_neg hw] at h3
      exact absurd h3 (by decide)

theorem Bounded.cleared {h : History} (hb : Bounded h) (n : NvsScript) :
    Bounded ⟨clearRestartCount n h.storage,
      .cleared (decide (n.opened = .ok ∧ n.set = .ok)) :: h.log⟩ := by
  refine hb.quiet (fun _ _ => Event.noConfusion) ?_ fun _ => Nat.zero_le _
  rw [clearRestartCount, sinceCleared]
  by_cases hn : n.opened = .ok ∧ n.set = .ok
  · rw [if_pos hn]
    exact Nat.zero_le _
  · rw [if_neg hn, decide_eq_false hn]
    exact hb.upper

theorem Bounded.initialized {h : History} (hb : Bounded h) :
    Bounded ⟨h.storage, .initialized :: h.log⟩ :=
  hb.quiet (fun _ _ => Event.noConfusion) hb.upper hb.lower

theorem Bounded.smartconfigLoop {h : History} (hb : Bounded h) (b : BootScript) (i : Nat) :
    Bounded (record h (smartconfigLoop b i h.storage)) := by
  rw [AppMain.smartconfigLoop]
  split
  · exact hb.cleared b.clear
  · exact hb

theorem Bounded.errorHandler {h : History} (hb : Bounded h) (b : BootScript) (ret : EspErr) (i : Nat) :
    Bounded (record h (errorHandler b ret i h.storage)) := by
  have hc := hb.check b.check b.store ret
  rw [AppMain.errorHandler]
  split
  · rename_i s hs
    rw [hs] at hc
    have hl := hc.smartconfigLoop b i
    rw [record] at hl ⊢
    dsimp only at hl ⊢
    rw [List.reverse_cons, List.append_assoc]
    exact hl
  · rename_i e s _ hs
    rw [hs] at hc
    exact hc

theorem Bounded.afterWifi {h : History} (hb : Bounded h) (b : BootScript) (i : Nat) :
    Bounded (record h (afterWifi b i h.storage)) := by
  rw [AppMain.afterWifi]
  split
  · exact hb.errorHandler b b.full i
  · exact hb.initialized

theorem Bounded.afterBasic {h : History} (hb : Bounded h) (b : BootScript) :
    Bounded (record h (afterBasic b h.storage)) := by
  rw [AppMain.afterBasic]
  split
  · exact hb.afterWifi b 1
  · split
    · exact hb.smartconfigLoop b 1
    · dsimp only
      split
      · exact hb.afterWifi b _
      · exact hb.errorHandler b .timeout _

theorem Bounded.basic {h : History} (hb : Bounded h) (b : BootScript) (ret : EspErr) :
    Bounded (record h (if ret ≠ .ok then AppMain.errorHandler b ret 0 h.storage
      else AppMain.afterBasic b h.storage)) := by
  split
  · exact hb.errorHandler b ret 0
  · exact hb.afterBasic b

theorem Bounded.boot {h : History} (hb : Bounded h) (b : BootScript) : Bounded (boot h b) := by
  rw [AppMain.boot, appMain]
  rcases initializeBasic b.basic with ⟨ret, wiped⟩
  cases wiped with
  | false => exact hb.basic b ret
  | true =>
      have he : Bounded ⟨⟨none, none⟩, .erased :: h.log⟩ :=
        hb.quiet (fun _ _ => Event.noConfusion) (Nat.le_refl _) fun _ => Nat.zero_le _
      have hr := he.basic b ret
      simp only [record, if_true, List.reverse_cons, List.append_assoc] at hr ⊢
      exact hr

theorem bounded_live (boots : List BootScript) : Bounded (live boots) := by
  have keep (h : History) (hb : Bounded h) : Bounded (boots.foldl boot h) := by
    induction boots generalizing h with
    | nil => exact hb
    | cons b boots ih => exact ih (boot h b) (hb.boot b)
  exact keep erased bounded_erased

/-- Whatever the storage does, the limiter never trips before the third failure since
the counter was cleared, and it trips at the latest on the third failure in a row whose
check found the storage working, as long as the byte has not wrapped. -/
theorem limiter_bounds (boots : List BootScript) {n : NvsScript} {check : EspErr} {l : List Event}
    (h : .fatal n check :: l <:+ (live boots).log) (ho : n.opened ≠ .fail) :
    (check = .fail → MAX_RESTART_ATTEMPTS.toNat ≤ sinceCleared l + 1) ∧
      (MAX_RESTART_ATTEMPTS.toNat ≤ streak (.fatal n check :: l) → sinceCleared l + 1 < 256 →
        check = .fail) :=
  (bounded_live boots).checks n check l h ho

def failing (set : EspErr) : BootScript :=
  ⟨{ BasicScript.success with eventLoop := .noMem }, fun _ => false, false, .ok, 0, .success,
    ⟨.ok, .ok, set⟩, .success⟩

/-- The second of four failures is not counted. -/
theorem limiter_bounds_uncounted :
    (live [failing .ok, failing .noMem, failing .ok, failing .ok]).storage.restartCnt = some 3 ∧
      MAX_RESTART_ATTEMPTS.toNat ≤ 4 := by
  refine ⟨by decide, ?_⟩
  exact (limiter_bounds [failing .ok, failing .noMem, failing .ok, failing .ok]
    (n := ⟨.ok, .ok, .ok⟩) (List.suffix_refl _) EspErr.noConfusion).1 (by decide)

/-! The polling loops in sum -/

theorem waitRounds_bounds (connected : Nat → Bool) (n i : Nat) :
    i ≤ waitRounds connected n i ∧ waitRounds connected n i ≤ i + n := by
  induction n generalizing i with
  | zero => exact ⟨Nat.le_refl _, Nat.le_refl _⟩
  | succ n ih =>
      rw [waitRounds]
      split
      · omega
      · have := ih (i + 1)
        omega

theorem waitRounds_seen {connected : Nat → Bool} {n i k : Nat} (hi : i ≤ k) (hk : k < i + n)
    (hseen : connected k = true) (hfirst : ∀ j, i ≤ j → j < k → connected j = false) :
    waitRounds connected n i = k + 1 := by
  induction n generalizing i with
  | zero => omega
  | succ n ih =>
      rw [waitRounds]
      rcases Nat.eq_or_lt_of_le hi with rfl | hlt
      · rw [if_pos hseen]
      · rw [if_neg (by rw [hfirst i (Nat.le_refl i) hlt]; decide)]
        exact ih hlt (by omega) fun j hj hjk => hfirst j (by omega) hjk

def endlessFrom (b : BootScript) : Nat :=
  if (initializeBasic b.basic).1 ≠ .ok then 0
  else if b.connected 0 || b.smartconfigMode then 1
  else waitForWifi b.connected 1 + 1

def summary (b : BootScript) : RestartManager.BootScript where
  basic := (initializeBasic b.basic).1
  connected := b.connected 0
  smartconfigMode := b.smartconfigMode
  wifiUp := b.connected (waitForWifi b.connected 1)
  full := b.full
  provisioned := (List.range b.looks).any fun j => b.connected (endlessFrom b + j)

def plain : Event → RestartManager.Event
  | .fatal _ check => .fatal check
  | .cleared _ => .cleared
  | .initialized | .erased => .initialized

def Agrees (r : List Event × Storage) (r' : List RestartManager.Event × Storage) : Prop :=
  r.1.map plain = r'.1 ∧ r.2 = r'.2

theorem smartconfigLoop_agrees {b : BootScript} {n : NvsScript} (hn : b.clear = n) (s : Storage) :
    Agrees (smartconfigLoop b (endlessFrom b) s)
      (RestartManager.smartconfigHandler n (summary b) s) := by
  rw [smartconfigLoop, RestartManager.smartconfigHandler, hn, summary]
  dsimp only
  split <;> exact ⟨rfl, rfl⟩

theorem errorHandler_agrees {b : BootScript} {n : NvsScript} (hstore : b.store = n)
    (hcheck : b.check = n) (hclear : b.clear = n) (ret : EspErr) (s : Storage) :
    Agrees (errorHandler b ret (endlessFrom b) s)
      (RestartManager.errorHandler n (summary b) ret s) := by
  obtain ⟨e, s', hs⟩ : ∃ e s', checkRestartCount n (storeErrorState n ret s) = (e, s') :=
    ⟨_, _, rfl⟩
  rw [errorHandler, RestartManager.errorHandler, hstore, hcheck, hs]
  cases e with
  | fail =>
      have hl := smartconfigLoop_agrees hclear s'
      rw [RestartManager.smartconfigHandler] at hl
      dsimp only
      by_cases hp : (summary b).provisioned
      · rw [if_pos hp] at hl ⊢
        exact ⟨congrArg (RestartManager.Event.fatal .fail :: ·) hl.1, hl.2⟩
      · rw [if_neg hp] at hl ⊢
        exact ⟨congrArg (RestartManager.Event.fatal .fail :: ·) hl.1, hl.2⟩
  | _ => exact ⟨rfl, rfl⟩

theorem afterWifi_agrees {b : BootScript} {n : NvsScript} (hstore : b.store = n)
    (hcheck : b.check = n) (hclear : b.clear = n) (s : Storage) :
    Agrees (afterWifi b (endlessFrom b) s)
      (if (summary b).full ≠ .ok then RestartManager.errorHandler n (summary b) (summary b).full s
        else ([.initialized], s)) := by
  rw [afterWifi]
  change Agrees _ (if b.full ≠ .ok then RestartManager.errorHandler n (summary b) b.full s
    else ([.initialized], s))
  split
  · exact errorHandler_agrees hstore hcheck hclear b.full s
  · exact ⟨rfl, rfl⟩

theorem afterBasic_agrees {b : BootScript} {n : NvsScript} (hstore : b.store = n)
    (hcheck : b.check = n) (hclear : b.clear = n) (s : Storage) (hb : (initializeBasic b.basic).1 = .ok) :
    Agrees (afterBasic b s) (RestartManager.appMain n (summary b) s) := by
  have hbasic : ¬ (summary b).basic ≠ .ok := fun h => h hb
  have hfrom : endlessFrom b = if b.connected 0 || b.smartconfigMode then 1
      else waitForWifi b.connected 1 + 1 := by
    rw [endlessFrom, if_neg (fun h => h hb)]
  have hwifi := afterWifi_agrees hstore hcheck hclear s
  have herror := errorHandler_agrees hstore hcheck hclear .timeout s
  have hloop := smartconfigLoop_agrees hclear s
  rw [hfrom] at hwifi herror hloop
  rw [afterBasic, RestartManager.appMain, if_neg hbasic]
  change Agrees _ (if (!b.connected 0 && b.smartconfigMode) = true then _
    else if (!b.connected 0 && !b.connected (waitForWifi b.connected 1)) = true then _ else _)
  cases h0 : b.connected 0 with
  | true =>
      rw [h0] at hwifi
      exact hwifi
  | false =>
      cases hm : b.smartconfigMode with
      | true =>
          rw [h0, hm] at hloop
          exact hloop
      | false =>
          rw [h0, hm] at hwifi herror
          dsimp only
          cases hl : b.connected (waitForWifi b.connected 1) with
          | true => exact hwifi
          | false => exact herror

structure Sound (b : BootScript) : Prop where
  store : b.store = .success
  check : b.check = .success
  clear : b.clear = .success
  kept : (initializeBasic b.basic).2 = false

theorem appMain_agrees {b : BootScript} (h : Sound b) (s : Storage) :
    Agrees (appMain b s) (RestartManager.appMain .success (summary b) s) := by
  have hsplit : appMain b s = if (initializeBasic b.basic).1 ≠ .ok then
      errorHandler b (initializeBasic b.basic).1 0 s else afterBasic b s := by
    simp only [appMain, h.kept, Bool.false_eq_true, if_false]
  rw [hsplit]
  split
  · rename_i hb
    have herror := errorHandler_agrees h.store h.check h.clear (initializeBasic b.basic).1 s
    rw [endlessFrom, if_pos hb] at herror
    rw [RestartManager.appMain, if_pos (show (summary b).basic ≠ .ok from hb)]
    exact herror
  · rename_i hb
    exact afterBasic_agrees h.store h.check h.clear s (not_not.mp hb)

/-- The waiting loop sees the connection at look `k`, and at the next one it is gone. -/
structure Flickers (b : BootScript) (k : Nat) : Prop where
  basic : (initializeBasic b.basic).1 = .ok
  down : b.connected 0 = false
  waits : b.smartconfigMode = false
  within : 1 ≤ k ∧ k ≤ 300
  seen : b.connected k = true
  first : ∀ j, 1 ≤ j → j < k → b.connected j = false
  gone : b.connected (k + 1) = false

theorem appMain_flickers {b : BootScript} (h : Sound b) {k : Nat} (hk : Flickers b k) (s : Storage) :
    ∃ check l, (appMain b s).1 = .fatal b.check check :: l := by
  have hwait : waitForWifi b.connected 1 = k + 1 :=
    waitRounds_seen hk.within.1 (Nat.lt_of_le_of_lt hk.within.2 (by decide)) hk.seen hk.first
  have hmain : appMain b s = errorHandler b .timeout (k + 2) s := by
    simp only [appMain, h.kept, hk.basic, afterBasic, hk.down, hk.waits, hwait, hk.gone,
      Bool.false_eq_true, if_false, ne_eq, not_true_eq_false]
  rw [hmain, errorHandler]
  split
  · exact ⟨.fail, _, rfl⟩
  · exact ⟨_, [], rfl⟩

def Alike (h : History) (h' : RestartManager.History) : Prop :=
  h.log.map plain = h'.log ∧ h.storage = h'.storage

theorem Alike.boot {h : History} {h' : RestartManager.History} (ha : Alike h h') {b : BootScript}
    (hs : Sound b) : Alike (boot h b) (RestartManager.boot h' (summary b)) := by
  obtain ⟨hlog, hst⟩ := ha
  obtain ⟨hl, hr⟩ := appMain_agrees hs h.storage
  rw [AppMain.boot, RestartManager.boot, ← hst]
  refine ⟨?_, hr⟩
  change ((appMain b h.storage).1.reverse ++ h.log).map plain = _
  rw [List.map_append, List.map_reverse, hl, hlog]
  rfl

/-- A life of boots that look and wait is the life of their summaries: of all looks at
the connection only the first and the one behind the waiting loop decide. The loop takes
300 rounds at most, and a connection that it saw and that is gone at the next look is a
failure. -/
theorem live_agrees (boots : List BootScript) (h : ∀ b ∈ boots, Sound b) :
    Alike (live boots) (RestartManager.live (boots.map summary)) ∧
      (∀ b ∈ boots, waitForWifi b.connected 1 ≤ 1 + 300) ∧
      ∀ b ∈ boots, ∀ k, Flickers b k → ∀ s, ∃ check l, (appMain b s).1 = .fatal b.check check :: l := by
  refine ⟨?_, fun b _ => (waitRounds_bounds b.connected _ 1).2, fun b hb _ hk => appMain_flickers (h b hb) hk⟩
  have keep (g : History) (g' : RestartManager.History) (ha : Alike g g') :
      Alike (boots.foldl boot g) ((boots.map summary).foldl RestartManager.boot g') := by
    induction boots generalizing g g' with
    | nil => exact ha
    | cons b boots ih =>
        exact ih (fun c hc => h c (List.mem_cons_of_mem b hc)) _ _ (ha.boot (h b List.mem_cons_self))
  exact keep erased RestartManager.erased ⟨rfl, rfl⟩

def flickering : BootScript :=
  ⟨.success, fun i => i = 3, false, .ok, 0, .success, .success, .success⟩

theorem live_agrees_flickering :
    (RestartManager.live [summary flickering]).log = [.fatal .ok] ∧ Alike (live [flickering])
      (RestartManager.live [summary flickering]) ∧
      ∃ check l, (appMain flickering ⟨none, none⟩).1 = .fatal .success check :: l := by
  have h : ∀ b ∈ [flickering], Sound b := fun b hb => List.mem_singleton.mp hb ▸ ⟨rfl, rfl, rfl, rfl⟩
  have hf : Flickers flickering 3 :=
    ⟨rfl, rfl, rfl, by decide, rfl, fun j _ hj => decide_eq_false (Nat.ne_of_lt hj), rfl⟩
  have ha := live_agrees [flickering] h
  exact ⟨by decide, ha.1, ha.2.2 flickering List.mem_cons_self 3 hf _⟩

end BandDecoder.AppMain
