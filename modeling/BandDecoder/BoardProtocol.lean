import BandDecoder.RelayState
import BandDecoder.TcpTask

namespace BandDecoder.BoardProtocol

open CStrings SwitchConfig Tcp StateReply Relay SendCommand RelayState TcpTask Runs

structure Order where
  number : Nat
  d1 : UInt8
  d0 : UInt8

/-- The task, the board and what is on its way between them. Three numbers are kept
for the proof alone: of the last command sent, of the one the board executed last,
and of the last one sent when a relay change was confirmed. -/
structure World where
  task : Task
  outputs : BitVec 16
  orders : List Order
  replies : Bytes
  sent : Nat
  executed : Nat
  confirmed : Nat

inductive Source
  | quiet
  | selectError
  | recvError
  | closed
  | data (n : Nat)

def draw (room : Nat) (replies : Bytes) : Source → Option (Slice × Bytes)
  | .quiet => some (.quiet, replies)
  | .selectError => some (.selectError, replies)
  | .recvError => some (.recvError, replies)
  | .closed => some (.data [], replies)
  | .data n =>
      if 0 < n ∧ n ≤ room ∧ n ≤ replies.length then some (.data (replies.take n), replies.drop n)
      else none

/-- `leaked` says whether a send that failed had put the whole command on the wire;
commands and replies are lost when a connection breaks. -/
inductive Action
  | request (relay band : Int)
  | check (e retry : EnsureScript)
  | start (ensure : EnsureScript) (send : SendScript) (now : Int) (reconnect : EnsureScript)
      (leaked : Bool)
  | hear (now : Int) (source : Source) (reconnect : EnsureScript)
  | board (answers : Bool)
  | loseOrder (i : Nat)
  | loseReplies (n : Nat)

def emits (leaked : Bool) : Option EspErr × Task → Bool
  | (none, t) => match t.phase with
    | .idle => false
    | .waiting _ _ _ => true
  | (some .ok, _) => false
  | (some _, _) => leaked

def dispatch (relay : Int) (w : World) : World :=
  { w with
    orders := w.orders ++ [⟨w.sent + 1, dataByte1 relay, dataByte0 relay⟩]
    sent := w.sent + 1 }

def boardReply (o : Order) : Bytes := setAllCommand o.d1 o.d0 ++ text ",OK"

def heard (w : World) (now : Int) (source : Source) (reconnect : EnsureScript) :
    Option (Option EspErr × Task × Bytes) :=
  match w.task.phase with
  | .idle => none
  | .waiting _ _ received => match draw (255 - received.length) w.replies source with
    | none => none
    | some (slice, replies) =>
        some ((w.task.hear ⟨now, slice⟩ reconnect).1, (w.task.hear ⟨now, slice⟩ reconnect).2, replies)

def step (w : World) : Action → Option World
  | .request relay band => some { w with task :=
      { w.task with controller := (setRelayForAntenna relay band w.task.controller).2 } }
  | .check e retry => match w.task.phase with
    | .idle => some { w with task :=
        { w.task with controller := checkConnection e retry w.task.controller } }
    | .waiting _ _ _ => none
  | .start ensure send now reconnect leaked => match w.task.phase with
    | .idle =>
        let begun := w.task.begin ensure send now reconnect
        if emits leaked begun then
          some (dispatch w.task.controller.latestRequest.relayId { w with task := begun.2 })
        else some { w with task := begun.2 }
    | .waiting _ _ _ => none
  | .hear now source reconnect => match heard w now source reconnect with
    | none => none
    | some (result, task, replies) => some { w with
        task, replies, confirmed := if result = some .ok then w.sent else w.confirmed }
  | .board answers => match w.orders with
    | [] => none
    | o :: orders => some { w with
        orders, outputs := combine o.d1 o.d0, executed := o.number
        replies := if answers then w.replies ++ boardReply o else w.replies }
  | .loseOrder i => some { w with orders := w.orders.eraseIdx i }
  | .loseReplies n => some { w with replies := w.replies.drop n }

def latest (w : World) : RelayChangeRequest := w.task.controller.latestRequest

def Settled (w : World) : Prop :=
  w.task.phase = .idle → latest w = w.task.lastProcessed → 0 < (latest w).relayId →
    w.outputs = only (latest w).relayId.toNat

structure Shows (c : RelayController) (v : BitVec 16) : Prop where
  states : ∀ i : Int, 1 ≤ i → i ≤ NUM_RELAYS → isOn c i = v.getLsbD (i - 1).toNat
  lower : 1 ≤ c.currentlySelectedRelay
  upper : c.currentlySelectedRelay ≤ NUM_RELAYS
  selected : isOn c c.currentlySelectedRelay = true

/-- The task has just been created, after the state query of `init`: it takes no relay to
be selected, or it knows the outputs as they are. -/
structure Started (w : World) : Prop where
  phase : w.task.phase = .idle
  request : latest w = noRequest
  lastProcessed : w.task.lastProcessed = noRequest
  orders : w.orders = []
  executed : w.executed = w.sent
  confirmed : w.confirmed = w.sent
  known : w.task.controller.currentlySelectedRelay = 0 ∨ Shows w.task.controller w.outputs

def ended (w : World) (now : Int) (source : Source) : Option (EspErr × Bytes) :=
  match w.task.phase with
  | .idle => none
  | .waiting _ _ received => match draw (255 - received.length) w.replies source with
    | none => none
    | some (slice, _) => w.task.waitEnd ⟨now, slice⟩

def Careful (w : World) : Action → Prop
  | .request relay band =>
      w.task.phase = .idle → w.confirmed ≠ w.sent → ⟨relay, band⟩ ≠ w.task.lastProcessed
  | .start _ _ _ _ _ =>
      latest w ≠ w.task.lastProcessed → 0 < (latest w).relayId →
        (latest w).relayId = w.task.controller.currentlySelectedRelay →
        w.confirmed = w.sent ∧ ∀ i : Int, 1 ≤ i → i ≤ NUM_RELAYS →
          isOn w.task.controller i = true → i = w.task.controller.currentlySelectedRelay
  | .hear now source _ => match ended w now source with
    | some (status, reply) =>
        if Confirms status reply then w.executed = w.sent else latest w ≠ w.task.lastProcessed
    | none => True
  | _ => True

structure Inv (w : World) : Prop where
  range : (latest w).relayId ≤ NUM_RELAYS
  sorted : w.orders.Pairwise (·.number < ·.number)
  above : ∀ o ∈ w.orders, w.executed < o.number ∧ o.number ≤ w.sent
  confirmed_le : w.confirmed ≤ w.sent
  executed_le : w.executed ≤ w.sent
  settled : w.task.phase = .idle → w.confirmed = w.sent → w.executed = w.sent
  known : w.task.phase = .idle → w.confirmed = w.sent →
    w.task.controller.currentlySelectedRelay = 0 ∨ Shows w.task.controller w.outputs
  processed : w.task.phase = .idle → w.confirmed = w.sent → 0 < w.task.lastProcessed.relayId →
    w.outputs = only w.task.lastProcessed.relayId.toNat
  unsettled : w.task.phase = .idle → w.confirmed ≠ w.sent → latest w ≠ w.task.lastProcessed
  waiting : ∀ current start received, w.task.phase = .waiting current start received →
    1 ≤ current.relayId ∧ current.relayId ≤ NUM_RELAYS ∧ w.confirmed ≠ w.sent ∧
      (w.executed = w.sent → w.outputs = only current.relayId.toNat) ∧
      ∀ o ∈ w.orders, o.number = w.sent → combine o.d1 o.d0 = only current.relayId.toNat

theorem Inv.settled_world {w : World} (h : Inv w) : Settled w := by
  intro hidle hlast hpos
  by_cases hc : w.confirmed = w.sent
  · rw [hlast] at hpos ⊢
    exact h.processed hidle hc hpos
  · exact absurd hlast (h.unsettled hidle hc)

theorem Started.inv {w : World} (h : Started w) : Inv w := by
  have hl : (latest w).relayId = 0 := congrArg RelayChangeRequest.relayId h.request
  have hp : w.task.lastProcessed.relayId = 0 := congrArg RelayChangeRequest.relayId h.lastProcessed
  refine ⟨by rw [hl]; decide, by simp [h.orders], by simp [h.orders], h.confirmed.le, h.executed.le,
    fun _ _ => h.executed, fun _ _ => h.known, fun _ _ hpos => ?_, fun _ hc => absurd h.confirmed hc,
    fun _ _ _ hw => ?_⟩
  · omega
  · rw [h.phase] at hw
    cases hw

theorem Shows.of_untouched {c c' : RelayController} {v : BitVec 16} (h : Shows c v)
    (hc : Untouched c c') : Shows c' v := by
  refine ⟨fun i h1 h16 => ?_, ?_, ?_, ?_⟩
  · rw [hc.isOn]
    exact h.states i h1 h16
  · rw [hc.selected]
    exact h.lower
  · rw [hc.selected]
    exact h.upper
  · rw [hc.selected, hc.isOn]
    exact h.selected

theorem Inv.known_of_untouched {w : World} (h : Inv w) {c : RelayController}
    (hc : Untouched w.task.controller c) (hidle : w.task.phase = .idle)
    (hconf : w.confirmed = w.sent) : c.currentlySelectedRelay = 0 ∨ Shows c w.outputs := by
  rcases h.known hidle hconf with h0 | hk
  · exact Or.inl (hc.selected.trans h0)
  · exact Or.inr (hk.of_untouched hc)

theorem Inv.withController {w : World} (h : Inv w) {c : RelayController}
    (hc : SameRelays w.task.controller c) :
    Inv { w with task := { w.task with controller := c } } := by
  have hs : Untouched w.task.controller c := .of_sameRelays hc
  have hl : c.latestRequest = w.task.controller.latestRequest := by rw [hc]
  refine ⟨?_, h.sorted, h.above, h.confirmed_le, h.executed_le, h.settled, fun hi he => ?_, h.processed,
    fun hi he => ?_, h.waiting⟩
  · rw [latest, hl]
    exact h.range
  · exact h.known_of_untouched hs hi he
  · rw [latest, hl]
    exact h.unsettled hi he

theorem Inv.request {w : World} (h : Inv w) {relay band : Int}
    (hok : Careful w (.request relay band)) :
    Inv { w with task :=
      { w.task with controller := (setRelayForAntenna relay band w.task.controller).2 } } := by
  have hu := untouched_setRelayForAntenna relay band w.task.controller
  rcases setRelayForAntenna_cases relay band w.task.controller with ⟨-, hn⟩ | ⟨-, h16, hn⟩
  · rw [hn]
    exact h
  · rw [hn] at hu ⊢
    exact ⟨h16, h.sorted, h.above, h.confirmed_le, h.executed_le, h.settled,
      h.known_of_untouched hu, h.processed, hok, h.waiting⟩

theorem Inv.shortcut {w : World} (h : Inv w) (hidle : w.task.phase = .idle)
    (hpos : 0 < (latest w).relayId)
    (hsel : (latest w).relayId = w.task.controller.currentlySelectedRelay)
    (hconf : w.confirmed = w.sent)
    (halone : ∀ i : Int, 1 ≤ i → i ≤ NUM_RELAYS → isOn w.task.controller i = true →
      i = w.task.controller.currentlySelectedRelay) :
    Inv { w with task := ⟨recordForBand (latest w).bandNumber (latest w).relayId w.task.controller,
      latest w, .idle⟩ } := by
  have hk : Shows w.task.controller w.outputs := by
    rcases h.known hidle hconf with h0 | hk
    · omega
    · exact hk
  refine ⟨h.range, h.sorted, h.above, h.confirmed_le, h.executed_le, fun _ => h.settled hidle, fun _ _ => ?_,
    fun _ _ _ => ?_, fun _ he => absurd hconf he, nofun⟩
  · exact Or.inr ⟨hk.states, hk.lower, hk.upper, hk.selected⟩
  · have hr : 1 ≤ (latest w).relayId.toNat ∧ (latest w).relayId.toNat ≤ NUM_RELAYS := by
      have := h.range
      omega
    refine (eq_only_iff hr.1 hr.2).mpr fun i hi => ?_
    have hbit := hk.states (i + 1) (by omega) (by omega)
    have hi' : ((i : Int) + 1 - 1).toNat = i := by omega
    rw [hi'] at hbit
    rw [← hbit]
    constructor
    · intro hon
      have := halone (i + 1) (by omega) (by omega) hon
      omega
    · intro he
      have hrelay : (i : Int) + 1 = w.task.controller.currentlySelectedRelay := by omega
      rw [hrelay]
      exact hk.selected

theorem Inv.dispatch {w : World} (h : Inv w) {task : Task} {relay : Int} (h1 : 1 ≤ relay)
    (h16 : relay ≤ NUM_RELAYS) (hl : task.controller.latestRequest = latest w)
    (hidle : task.phase = .idle → latest w ≠ task.lastProcessed)
    (hwait : ∀ current start received, task.phase = .waiting current start received →
      current.relayId = relay) :
    Inv (dispatch relay { w with task }) := by
  have hconf := h.confirmed_le
  have hne : w.confirmed ≠ w.sent + 1 := by omega
  have hex := h.executed_le
  refine ⟨?_, ?_, ?_, Nat.le_succ_of_le hconf, Nat.le_succ_of_le hex,
    fun _ hc => absurd hc hne, fun _ hc => absurd hc hne,
    fun _ hc => absurd hc hne, fun hi _ => ?_, fun current start received hw => ?_⟩
  · change task.controller.latestRequest.relayId ≤ _
    rw [hl]
    exact h.range
  · refine List.pairwise_append.mpr ⟨h.sorted, List.pairwise_singleton _ _, ?_⟩
    intro o ho o' ho'
    rw [List.mem_singleton.mp ho']
    exact Nat.lt_succ_of_le (h.above o ho).2
  · intro o ho
    rcases List.mem_append.mp ho with ho | ho
    · exact ⟨(h.above o ho).1, Nat.le_succ_of_le (h.above o ho).2⟩
    · rw [List.mem_singleton.mp ho]
      exact ⟨Nat.lt_succ_of_le hex, Nat.le_refl _⟩
  · change task.controller.latestRequest ≠ task.lastProcessed
    rw [hl]
    exact hidle hi
  · have hrel := hwait current start received hw
    rw [hrel]
    refine ⟨h1, h16, hne, fun he => ?_, fun o ho hnum => ?_⟩
    · change w.executed = w.sent + 1 at he
      omega
    · rcases List.mem_append.mp ho with ho | ho
      · have := (h.above o ho).2
        change o.number = w.sent + 1 at hnum
        omega
      · rw [List.mem_singleton.mp ho]
        exact combine_dataBytes h1 h16

theorem Inv.start {w w' : World} (h : Inv w) {ensure : EnsureScript} {send : SendScript} {now : Int}
    {reconnect : EnsureScript} {leaked : Bool}
    (hs : step w (.start ensure send now reconnect leaked) = some w')
    (hok : Careful w (.start ensure send now reconnect leaked)) : Inv w' := by
  cases hidle : w.task.phase with
  | waiting current start received => simp only [step, hidle, reduceCtorEq] at hs
  | idle =>
      simp only [step, hidle] at hs
      rcases begin_cases ensure send now reconnect w.task with
        ⟨-, hb⟩ | ⟨hne, hpos, ⟨hsel, hb⟩ | ⟨c', hc, hb⟩ | ⟨e, c', he, hc, hb⟩⟩
      · simp only [hb, emits, hidle, Bool.false_eq_true, if_false, Option.some.injEq] at hs
        rw [← hs]
        exact h
      · simp only [hb, emits, Bool.false_eq_true, if_false, Option.some.injEq] at hs
        obtain ⟨hconf, halone⟩ := hok hne hpos hsel
        rw [← hs]
        exact h.shortcut hidle hpos hsel hconf halone
      · simp only [hb, emits, if_true, Option.some.injEq] at hs
        rw [← hs]
        refine h.dispatch hpos h.range (by rw [hc]; rfl) nofun ?_
        rintro current start received ⟨⟩
        rfl
      · have hkeep : Inv { w with task := ⟨c', w.task.lastProcessed, .idle⟩ } := by
          rw [← hidle]
          exact h.withController hc
        have hem : emits leaked (some e, ⟨c', w.task.lastProcessed, .idle⟩) = leaked := by
          cases e with
          | ok => exact absurd rfl he
          | _ => rfl
        simp only [hb, hem] at hs
        split at hs
        · cases hs
          exact h.dispatch hpos h.range (by rw [hc]; rfl) (fun _ => hne) nofun
        · cases hs
          exact hkeep

theorem Inv.confirm {w : World} (h : Inv w) {current : RelayChangeRequest} {start : Int}
    {received replies : Bytes} {c : RelayController}
    (hw : w.task.phase = .waiting current start received)
    (hl : c.latestRequest = w.task.controller.latestRequest) (hex : w.executed = w.sent) :
    Inv { w with
      task := ⟨recordForBand current.bandNumber current.relayId (recordOnly current.relayId c),
        current, .idle⟩
      replies, confirmed := w.sent } := by
  obtain ⟨h1, h16, -, hout, -⟩ := h.waiting _ _ _ hw
  have hr : 1 ≤ current.relayId.toNat ∧ current.relayId.toNat ≤ NUM_RELAYS := by omega
  refine ⟨?_, h.sorted, h.above, Nat.le_refl _, h.executed_le, fun _ _ => hex, fun _ _ => ?_,
    fun _ _ _ => hout hex, fun _ hn => absurd rfl hn, nofun⟩
  · change c.latestRequest.relayId ≤ _
    rw [hl]
    exact h.range
  · refine Or.inr ⟨fun i hi1 hi16 => ?_, h1, h16, ?_⟩
    · have hi := isOn_recordOnly current.relayId c hi1 hi16
      change isOn (recordOnly current.relayId c) i = w.outputs.getLsbD (i - 1).toNat
      rw [hi, hout hex, getLsbD_only hr.1 hr.2, decide_eq_decide]
      omega
    · exact (isOn_recordOnly current.relayId c h1 h16).trans (decide_eq_true rfl)

theorem Inv.hear {w w' : World} (h : Inv w) {now : Int} {source : Source}
    {reconnect : EnsureScript} (hs : step w (.hear now source reconnect) = some w')
    (hok : Careful w (.hear now source reconnect)) : Inv w' := by
  cases hw : w.task.phase with
  | idle => simp only [step, heard, hw, reduceCtorEq] at hs
  | waiting current start received =>
      cases hd : draw (255 - received.length) w.replies source with
      | none => simp only [step, heard, hw, hd, reduceCtorEq] at hs
      | some got =>
          obtain ⟨slice, replies⟩ := got
          simp only [step, heard, hw, hd, Option.some.injEq] at hs
          simp only [Careful, ended, hw, hd] at hok
          obtain ⟨h1, h16, hconf, hout, hord⟩ := h.waiting _ _ _ hw
          rcases hear_cases ⟨now, slice⟩ reconnect hw with
            ⟨-, got, hh⟩ | ⟨status, reply, hend, hno, e, c', he, hc, hh⟩ |
            ⟨status, reply, hend, hyes, c', ⟨hl, -⟩, hh⟩
          · rw [hh] at hs
            simp only [reduceCtorEq, if_false] at hs
            rw [← hs]
            refine ⟨h.range, h.sorted, h.above, h.confirmed_le, h.executed_le, nofun, nofun, nofun,
              nofun, ?_⟩
            rintro current' start' received' ⟨⟩
            exact ⟨h1, h16, hconf, hout, hord⟩
          · have hne : ¬ some e = some EspErr.ok := fun hs => he (Option.some.inj hs)
            have hlast : latest w ≠ w.task.lastProcessed := by
              rw [hend] at hok
              simpa only [if_neg hno] using hok
            have hreq : c'.latestRequest = latest w := by
              rw [hc]
              rfl
            rw [hh] at hs
            simp only [if_neg hne] at hs
            rw [← hs]
            refine ⟨?_, h.sorted, h.above, h.confirmed_le, h.executed_le,
              fun _ hn => absurd hn hconf, fun _ hn => absurd hn hconf,
              fun _ hn => absurd hn hconf, fun _ _ => ?_, nofun⟩
            · change c'.latestRequest.relayId ≤ _
              rw [hreq]
              exact h.range
            · change c'.latestRequest ≠ w.task.lastProcessed
              rw [hreq]
              exact hlast
          · rw [hend] at hok
            simp only [if_pos hyes] at hok
            rw [hh] at hs
            simp only [if_true] at hs
            rw [← hs]
            exact h.confirm hw hl hok

/-- The board executes its oldest command; a confirmed task has none on the way. -/
theorem Inv.board {w : World} (h : Inv w) {o : Order} {orders : List Order}
    (ho : w.orders = o :: orders) (replies : Bytes) :
    Inv { w with orders, outputs := combine o.d1 o.d0, executed := o.number, replies } := by
  have hmem : o ∈ w.orders := ho ▸ List.mem_cons_self
  have hsub : ∀ p ∈ orders, p ∈ w.orders := fun p hp => ho ▸ List.mem_cons_of_mem o hp
  obtain ⟨hlt, hle⟩ := h.above o hmem
  have hsorted := h.sorted
  rw [ho, List.pairwise_cons] at hsorted
  have hopen : w.task.phase = .idle → w.confirmed ≠ w.sent := by
    intro hidle hconf
    have := h.settled hidle hconf
    omega
  refine ⟨h.range, hsorted.2, fun p hp => ⟨hsorted.1 p hp, (h.above p (hsub p hp)).2⟩,
    h.confirmed_le, hle, fun hi hc => absurd hc (hopen hi), fun hi hc => absurd hc (hopen hi),
    fun hi hc => absurd hc (hopen hi), h.unsettled, fun current start received hw => ?_⟩
  obtain ⟨h1, h16, hconf, -, hord⟩ := h.waiting _ _ _ hw
  exact ⟨h1, h16, hconf, hord o hmem, fun p hp => hord p (hsub p hp)⟩

theorem Inv.step {w w' : World} {a : Action} (h : Inv w) (hs : BoardProtocol.step w a = some w')
    (hok : Careful w a) : Inv w' := by
  cases a with
  | request relay band =>
      cases hs
      exact h.request hok
  | check e retry =>
      cases hidle : w.task.phase with
      | idle =>
          simp only [BoardProtocol.step, hidle, Option.some.injEq] at hs
          rw [← hs, ← hidle]
          exact h.withController (checkConnection_sameRelays e retry w.task.controller)
      | waiting current start received =>
          simp only [BoardProtocol.step, hidle, reduceCtorEq] at hs
  | start ensure send now reconnect leaked => exact h.start hs hok
  | hear now source reconnect => exact h.hear hs hok
  | board answers =>
      cases ho : w.orders with
      | nil => simp only [BoardProtocol.step, ho, reduceCtorEq] at hs
      | cons o orders =>
          simp only [BoardProtocol.step, ho, Option.some.injEq] at hs
          rw [← hs]
          exact h.board ho _
  | loseOrder i =>
      cases hs
      have hsub : (w.orders.eraseIdx i).Sublist w.orders := List.eraseIdx_sublist _ _
      refine ⟨h.range, h.sorted.sublist hsub, fun o ho => h.above o (hsub.subset ho),
        h.confirmed_le, h.executed_le, h.settled, h.known, h.processed, h.unsettled,
        fun current start received hw => ?_⟩
      obtain ⟨h1, h16, hconf, hout, hord⟩ := h.waiting _ _ _ hw
      exact ⟨h1, h16, hconf, hout, fun o ho => hord o (hsub.subset ho)⟩
  | loseReplies n =>
      cases hs
      exact ⟨h.range, h.sorted, h.above, h.confirmed_le, h.executed_le, h.settled, h.known,
        h.processed, h.unsettled, h.waiting⟩

/-! Runs from a list of actions -/

def after (w : World) (a : Action) : World := (step w a).getD w

def trace : World → List Action → List (Action × World)
  | _, [] => []
  | w, a :: as => (a, after w a) :: trace (after w a) as

def Possible : World → List Action → Prop
  | _, [] => True
  | w, a :: as => (BoardProtocol.step w a).isSome = true ∧ Possible (after w a) as

instance decidablePossible : (w : World) → (as : List Action) → Decidable (Possible w as)
  | _, [] => inferInstanceAs (Decidable True)
  | w, a :: as =>
      have := decidablePossible (after w a) as
      inferInstanceAs (Decidable (_ ∧ _))

theorem run_trace (w : World) (as : List Action) (h : Possible w as) :
    Run (fun w a w' => step w a = some w') w (trace w as) := by
  induction as generalizing w with
  | nil => exact .nil w
  | cons a as ih =>
      obtain ⟨w', hw⟩ := Option.isSome_iff_exists.mp h.1
      refine .cons ?_ (ih (after w a) h.2)
      rw [after, hw]
      rfl

/-- In a run of careful steps the board shows the relay of the latest request
whenever the task has nothing left to do. -/
theorem settled_of_careful (w : World) (hw : Started w) (t : List (Action × World))
    (h : Run (fun w a w' => step w a = some w') w t) (hg : Guarded Careful w t) :
    Settled w ∧ ∀ x ∈ t, Settled x.2 := by
  have hi := h.invariant_of_guarded Inv hw.inv hg fun w a w' hi hs hok => hi.step hs hok
  exact ⟨hw.inv.settled_world, fun x hx => (hi x hx).settled_world⟩

def poweredOn : World :=
  ⟨⟨{ construct with tcpClient := linkUp }, noRequest, .idle⟩, 0, [], [], 0, 0, 0⟩

theorem started_poweredOn : Started poweredOn := ⟨rfl, rfl, rfl, rfl, rfl, rfl, Or.inl rfl⟩

def confirmOne : List Action :=
  [.request 1 0, .start undisturbed ⟨undisturbed, [.wrote 64]⟩ 0 undisturbed false, .board true,
    .hear 10 (.data 24) undisturbed]

/-- Relay 2 is switched on, the peer closes before the reply is read, and the next
request is for relay 1 again. -/
def returnToOne : List Action :=
  [.request 2 1, .start undisturbed ⟨undisturbed, [.wrote 64]⟩ 0 undisturbed false, .board true,
    .hear 10 .closed undisturbed, .request 1 0]

theorem settled_of_careful_one :
    Settled poweredOn ∧ ∀ x ∈ trace poweredOn confirmOne, Settled x.2 :=
  settled_of_careful poweredOn started_poweredOn (trace poweredOn confirmOne)
    (run_trace poweredOn confirmOne (by decide))
    ⟨fun _ h => absurd rfl h, fun _ _ h => absurd h (by decide), trivial,
      (rfl : (1 : Nat) = 1), trivial⟩

/-- Nothing is left to do for relay 1 while the board is on relay 2. -/
theorem settled_fails :
    ¬ ∀ w, Started w → ∀ t : List (Action × World),
      Run (fun w a w' => step w a = some w') w t → ∀ x ∈ t, Settled x.2 := by
  intro h
  have hr := run_trace poweredOn (confirmOne ++ returnToOne) (by decide)
  have hs := h poweredOn started_poweredOn _ hr _ (List.getLast_mem (by decide))
  exact absurd (hs rfl (by decide) (by decide)) (by decide)

end BandDecoder.BoardProtocol
