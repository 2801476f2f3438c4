import BandDecoder.SwitchConfig

namespace BandDecoder.RestartManager

open SwitchConfig

structure Storage where
  restartCnt : Option UInt8
  lastError : Option EspErr

structure NvsScript where
  opened : EspErr
  get : EspErr
  set : EspErr

def NvsScript.success : NvsScript := ⟨.ok, .ok, .ok⟩

def MAX_RESTART_ATTEMPTS : UInt8 := 3

def checkRestartCount (n : NvsScript) (s : Storage) : EspErr × Storage :=
  if n.opened ≠ .ok then (n.opened, s)
  else
    let restartCount := (if n.get = .ok then s.restartCnt.getD 0 else 0) + 1
    (if MAX_RESTART_ATTEMPTS ≤ restartCount then .fail else .ok,
      if n.set = .ok then { s with restartCnt := some restartCount } else s)

def clearRestartCount (n : NvsScript) (s : Storage) : Storage :=
  if n.opened = .ok ∧ n.set = .ok then { s with restartCnt := some 0 } else s

def storeErrorState (n : NvsScript) (error : EspErr) (s : Storage) : Storage :=
  if n.opened = .ok ∧ n.set = .ok then { s with lastError := some error } else s

/-- What one boot meets: the results of the two initialisations, the state of the
WiFi at the first look, whether it comes up in the wait, and whether SmartConfig
ever brings it up. -/
structure BootScript where
  basic : EspErr
  connected : Bool
  smartconfigMode : Bool
  wifiUp : Bool
  full : EspErr
  provisioned : Bool

inductive Event
  | fatal (check : EspErr)
  | initialized
  | cleared
  deriving DecidableEq, Repr

def errorHandler (n : NvsScript) (b : BootScript) (ret : EspErr) (s : Storage) :
    List Event × Storage :=
  match checkRestartCount n (storeErrorState n ret s) with
  | (.fail, s) =>
      if b.provisioned then ([.fatal .fail, .cleared], clearRestartCount n s) else ([.fatal .fail], s)
  | (e, s) => ([.fatal e], s)

def smartconfigHandler (n : NvsScript) (b : BootScript) (s : Storage) : List Event × Storage :=
  if b.provisioned then ([.cleared], clearRestartCount n s) else ([], s)

/-- `app_main` from power on to its end or to one of its endless loops. -/
def appMain (n : NvsScript) (b : BootScript) (s : Storage) : List Event × Storage :=
  if b.basic ≠ .ok then errorHandler n b b.basic s
  else if !b.connected && b.smartconfigMode then smartconfigHandler n b s
  else if !b.connected && !b.wifiUp then errorHandler n b .timeout s
  else if b.full ≠ .ok then errorHandler n b b.full s
  else ([.initialized], s)

structure History where
  storage : Storage
  log : List Event

def erased : History := ⟨⟨none, none⟩, []⟩

def record (h : History) (r : List Event × Storage) : History := ⟨r.2, r.1.reverse ++ h.log⟩

def boot (h : History) (b : BootScript) : History := record h (appMain .success b h.storage)

def live (boots : List BootScript) : History := boots.foldl boot erased

def sinceClear : List Event → Nat
  | [] => 0
  | .fatal _ :: l => sinceClear l + 1
  | .initialized :: l => sinceClear l
  | .cleared :: _ => 0

def sinceReset : List Event → Nat
  | [] => 0
  | .fatal _ :: l => sinceReset l + 1
  | .initialized :: _ => 0
  | .cleared :: _ => 0

/-- The limiter trips exactly on the third and every later failure in a row. -/
def LimitsRestarts (log : List Event) : Prop :=
  ∀ check l, .fatal check :: l <:+ log →
    (check = .fail ↔ MAX_RESTART_ATTEMPTS.toNat ≤ sinceReset l + 1)

structure Counted (h : History) : Prop where
  counter : h.storage.restartCnt.getD 0 = UInt8.ofNat (sinceClear h.log)
  checks : ∀ check l, .fatal check :: l <:+ h.log →
    (check = .fail ↔ MAX_RESTART_ATTEMPTS.toNat ≤ (sinceClear l + 1) % 256)

theorem le_ofNat_iff (n : Nat) :
    MAX_RESTART_ATTEMPTS ≤ UInt8.ofNat n ↔ MAX_RESTART_ATTEMPTS.toNat ≤ n % 256 := by
  rw [UInt8.le_iff_toNat_le, UInt8.toNat_ofNat']

theorem Counted.fatal {h : History} (hc : Counted h) (check : EspErr) (s : Storage)
    (hs : s.restartCnt = some (UInt8.ofNat (sinceClear h.log + 1)))
    (hk : check = .fail ↔ MAX_RESTART_ATTEMPTS.toNat ≤ (sinceClear h.log + 1) % 256) :
    Counted ⟨s, .fatal check :: h.log⟩ := by
  refine ⟨?_, fun check' l hl => ?_⟩
  · rw [hs]
    rfl
  · rcases List.suffix_cons_iff.mp hl with he | hl
    · cases he
      exact hk
    · exact hc.checks check' l hl

theorem Counted.cleared {h : History} (hc : Counted h) (s : Storage) (hs : s.restartCnt = some 0) :
    Counted ⟨s, .cleared :: h.log⟩ := by
  refine ⟨?_, fun check l hl => ?_⟩
  · rw [hs]
    rfl
  · rcases List.suffix_cons_iff.mp hl with he | hl
    · cases he
    · exact hc.checks check l hl

theorem Counted.initialized {h : History} (hc : Counted h) :
    Counted ⟨h.storage, .initialized :: h.log⟩ := by
  refine ⟨hc.counter, fun check l hl => ?_⟩
  rcases List.suffix_cons_iff.mp hl with he | hl
  · cases he
  · exact hc.checks check l hl

theorem Counted.check {h : History} (hc : Counted h) (ret : EspErr) :
    ∃ check s, checkRestartCount .success (storeErrorState .success ret h.storage) = (check, s) ∧
      (check = .ok ∨ check = .fail) ∧ Counted ⟨s, .fatal check :: h.log⟩ := by
  have hn : h.storage.restartCnt.getD 0 + 1 = UInt8.ofNat (sinceClear h.log + 1) := by
    rw [hc.counter, UInt8.ofNat_add]
    rfl
  refine ⟨if MAX_RESTART_ATTEMPTS ≤ h.storage.restartCnt.getD 0 + 1 then .fail else .ok, _, rfl,
    (ite_eq_or_eq _ _ _).symm, hc.fatal _ _ (congrArg some hn) ?_⟩
  rw [← le_ofNat_iff, ← hn]
  split
  · rename_i hle
    exact iff_of_true rfl hle
  · rename_i hle
    exact iff_of_false EspErr.noConfusion hle

theorem Counted.errorHandler {h : History} (hc : Counted h) (b : BootScript) (ret : EspErr) :
    Counted (record h (errorHandler .success b ret h.storage)) := by
  obtain ⟨check, s, hk, hr, hs⟩ := hc.check ret
  rw [RestartManager.errorHandler, hk]
  rcases hr with rfl | rfl
  · exact hs
  · dsimp only
    split
    · exact hs.cleared _ rfl
    · exact hs

theorem Counted.boot {h : History} (hc : Counted h) (b : BootScript) : Counted (boot h b) := by
  rw [RestartManager.boot, appMain]
  split
  · exact hc.errorHandler b b.basic
  · split
    · rw [smartconfigHandler]
      split
      · exact hc.cleared _ rfl
      · exact hc
    · split
      · exact hc.errorHandler b .timeout
      · split
        · exact hc.errorHandler b b.full
        · exact hc.initialized

theorem counted_live (boots : List BootScript) : Counted (live boots) := by
  have keep (h : History) (hc : Counted h) : Counted (boots.foldl boot h) := by
    induction boots generalizing h with
    | nil => exact hc
    | cons b boots ih => exact ih (boot h b) (hc.boot b)
  exact keep erased ⟨rfl, fun check l hl => by simp [erased] at hl⟩

/-- At no failure does a success stand between failures that are counted together, and
none is the 256th since the last clear. -/
def Unbroken (log : List Event) : Prop :=
  ∀ check l, .fatal check :: l <:+ log → sinceReset l = sinceClear l ∧ sinceClear l + 1 < 256

theorem limitsRestarts_of_unbroken (boots : List BootScript) (h : Unbroken (live boots).log) :
    LimitsRestarts (live boots).log := by
  intro check l hl
  obtain ⟨hsame, hlt⟩ := h check l hl
  rw [(counted_live boots).checks check l hl, Nat.mod_eq_of_lt hlt, hsame]

/-- The limiter is right over a whole life exactly when at every failure the count
since the last clear, in a byte, passes the limit together with the count since the
last clear or success. Both pass it together as long as the history is unbroken; they
part at the first failure behind a success that two counted failures stand before, and
at the 256th failure since a clear, where the byte is 0. -/
theorem limitsRestarts_iff (boots : List BootScript) :
    (LimitsRestarts (live boots).log ↔ ∀ check l, .fatal check :: l <:+ (live boots).log →
      (MAX_RESTART_ATTEMPTS.toNat ≤ (sinceClear l + 1) % 256 ↔
        MAX_RESTART_ATTEMPTS.toNat ≤ sinceReset l + 1)) ∧
    (Unbroken (live boots).log → LimitsRestarts (live boots).log) := by
  have hc := (counted_live boots).checks
  refine ⟨?_, limitsRestarts_of_unbroken boots⟩
  constructor
  · intro h check l hl
    rw [← hc check l hl, h check l hl]
  · intro h check l hl
    rw [hc check l hl, h check l hl]

def failing : BootScript := ⟨.fail, false, false, false, .ok, false⟩

def succeeding : BootScript := ⟨.ok, true, false, false, .ok, false⟩

/-- Two failures, a full success and one failure more trip the limiter. -/
theorem limitsRestarts_fails : ¬ ∀ boots, LimitsRestarts (live boots).log := by
  intro h
  have hl := h [failing, failing, succeeding, failing] .fail
    [.initialized, .fatal .ok, .fatal .ok] (by decide)
  exact absurd (hl.mp rfl) (by decide)

end BandDecoder.RestartManager
