import BandDecoder.BoardProtocol
import BandDecoder.Segments
import BandDecoder.TruthfulBoard

namespace BandDecoder.PromptBoard

open CStrings SwitchConfig Tcp StateReply Relay SendCommand RelayState TcpTask TruthfulBoard
open BoardProtocol hiding Started

def Alone (c : RelayController) : Prop :=
  ∀ i : Int, 1 ≤ i → i ≤ NUM_RELAYS → isOn c i = true → i = c.currentlySelectedRelay

/-- A command that goes out arrives and is answered whole and in time. Before a command
is sent, the connection may fail as it likes. -/
def Prompt (w : World) : Action → Prop
  | .request _ _ => True
  | .check _ _ => True
  | .start _ _ _ _ leaked => leaked = false
  | .hear now source _ => source = .data w.replies.length ∧
      ∀ current start received, w.task.phase = .waiting current start received →
        elapsed start now < 1000
  | .board answers => answers = true
  | .loseOrder _ => False
  | .loseReplies _ => False

structure Orders (o : Order) (relay : Int) : Prop where
  d1 : o.d1 = dataByte1 relay
  d0 : o.d0 = dataByte0 relay

/-- Between two passes nothing is on its way; in a pass it is either its own command or
the answer to it. -/
structure Sync (w : World) : Prop where
  idle : w.task.phase = .idle → w.confirmed = w.sent ∧ w.orders = [] ∧ w.replies = []
  waiting : ∀ current start received, w.task.phase = .waiting current start received →
    received = [] ∧
      ((∃ o, w.orders = [o] ∧ Orders o current.relayId ∧ o.number = w.sent ∧ w.replies = []) ∨
        (w.orders = [] ∧ w.executed = w.sent ∧ w.replies = setAllReply current.relayId))
  alone : Alone w.task.controller

theorem Alone.of_untouched {c c' : RelayController} (h : Alone c) (hc : Untouched c c') : Alone c' := by
  intro i h1 h16 hon
  rw [hc.isOn] at hon
  rw [hc.selected]
  exact h i h1 h16 hon

theorem alone_recordOnly (relay : Int) (c : RelayController) : Alone (recordOnly relay c) := by
  intro i h1 h16 hon
  rw [isOn_recordOnly relay c h1 h16] at hon
  exact of_decide_eq_true hon

theorem untouched_recordForBand (band relay : Int) (c : RelayController) :
    Untouched c (recordForBand band relay c) := ⟨rfl, rfl, rfl⟩

theorem setAllReply_header (relay : Int) : setAllHeader.length < (setAllReply relay).length ∧
    (setAllReply relay).length ≤ 28 := Segments.reply_length (Or.inr rfl) _ _

theorem setAllReply_length (relay : Int) :
    0 < (setAllReply relay).length ∧ (setAllReply relay).length ≤ 28 := by
  have h := setAllReply_header relay
  omega

theorem setAllReply_complete (relay : Int) : complete (setAllReply relay) :=
  (Segments.complete_iff (Or.inr rfl) List.prefix_rfl).mpr
    (setAllReply_header relay).1

theorem boardReply_eq {o : Order} {relay : Int} (h : Orders o relay) :
    boardReply o = setAllReply relay := by
  rw [boardReply, h.d1, h.d0, setAllReply]
  exact setAllCommand_reply _ _

theorem setAllReply_ne_nil (relay : Int) : setAllReply relay ≠ [] :=
  List.ne_nil_of_length_pos (setAllReply_length relay).1

theorem confirms_setAllReply (relay : Int) : Confirms .ok (setAllReply relay) := by
  refine ⟨rfl, ?_⟩
  rw [setAllReply, cstr_eq_self (zero_not_mem_reply (by decide) _ _), ← setAllCommand_reply]
  exact (List.suffix_append _ _).isInfix

theorem waitEnd_whole {t : Task} {current : RelayChangeRequest} {start now : Int}
    (h : t.phase = .waiting current start []) (ht : elapsed start now < 1000) {reply : Bytes}
    (hc : complete reply) (hne : reply ≠ []) (hle : reply.length ≤ 28) :
    t.waitEnd ⟨now, .data reply⟩ = some (.ok, reply) := by
  have hround : receiveRound 256 1000 start [] ⟨now, .data reply⟩ = .stop .ok reply false := by
    have hfit : ([] ++ reply).length < 256 - 1 := by
      rw [List.nil_append]
      omega
    rw [receiveRound_segment (r := ⟨now, .data reply⟩) ht rfl hne hfit, List.nil_append, if_pos hc]
  rw [Task.waitEnd, h]
  dsimp only
  rw [hround]
  dsimp only [takeReply]
  rw [if_neg hne]

theorem draw_whole {room : Nat} {replies : Bytes} (hpos : 0 < replies.length) (hle : replies.length ≤ room) :
    draw room replies (.data replies.length) = some (.data replies, []) := by
  rw [draw, if_pos ⟨hpos, hle, Nat.le_refl _⟩, List.take_length, List.drop_length]

theorem draw_nil (room : Nat) : draw room [] (.data 0) = none := by
  rw [draw, if_neg (fun h => Nat.lt_irrefl 0 h.1)]

/-- Hearing in a prompt world is hearing the whole answer. -/
theorem heard_cases {w w' : World} (hs : Sync w) {now : Int} {source : Source} {reconnect : EnsureScript}
    (hp : Prompt w (.hear now source reconnect)) (h : step w (.hear now source reconnect) = some w') :
    ∃ current start, w.task.phase = .waiting current start [] ∧ w.orders = [] ∧ w.executed = w.sent ∧
      ended w now source = some (.ok, setAllReply current.relayId) ∧
      ∃ c', c'.latestRequest = w.task.controller.latestRequest ∧
        w' = { w with
          task := ⟨recordForBand current.bandNumber current.relayId (recordOnly current.relayId c'),
            current, .idle⟩
          replies := [], confirmed := w.sent } := by
  obtain ⟨rfl, htime⟩ := hp
  cases hw : w.task.phase with
  | idle => simp only [step, heard, hw, reduceCtorEq] at h
  | waiting current start received =>
      obtain ⟨rfl, ⟨o, -, -, -, hr⟩ | ⟨ho, hex, hr⟩⟩ := hs.waiting _ _ _ hw
      · rw [hr] at h
        simp only [step, heard, hw, hr, List.length_nil, draw_nil, reduceCtorEq] at h
      · obtain ⟨hpos, hle⟩ := setAllReply_length current.relayId
        have hd : draw (255 - ([] : Bytes).length) w.replies (.data w.replies.length) =
            some (.data (setAllReply current.relayId), []) := by
          rw [hr]
          exact draw_whole hpos (by rw [List.length_nil]; omega)
        have hend := waitEnd_whole hw (htime _ _ _ hw) (setAllReply_complete current.relayId)
          (setAllReply_ne_nil current.relayId) hle
        refine ⟨current, start, rfl, ho, hex, ?_, ?_⟩
        · rw [ended, hw]
          dsimp only
          rw [hd]
          exact hend
        · simp only [step, heard, hw, hd, Option.some.injEq] at h
          rcases hear_cases ⟨now, .data (setAllReply current.relayId)⟩ reconnect hw with
            ⟨hno, -⟩ | ⟨status, reply, he, hno, -⟩ | ⟨status, reply, -, -, c', ⟨hl, -⟩, hh⟩
          · rw [hend] at hno
            cases hno
          · rw [hend] at he
            cases he
            exact absurd (confirms_setAllReply _) hno
          · rw [hh] at h
            simp only [if_true] at h
            exact ⟨c', hl, h.symm⟩

theorem careful_of_prompt {w w' : World} {a : Action} (hs : Sync w) (hp : Prompt w a)
    (h : step w a = some w') : Careful w a := by
  cases a with
  | request relay band => exact fun hidle hne => absurd (hs.idle hidle).1 hne
  | start ensure send now reconnect leaked =>
      intro _ _ _
      cases hw : w.task.phase with
      | idle => exact ⟨(hs.idle hw).1, hs.alone⟩
      | waiting current start received => simp only [step, hw, reduceCtorEq] at h
  | hear now source reconnect =>
      obtain ⟨current, start, -, -, hex, hend, -⟩ := heard_cases hs hp h
      rw [Careful, hend]
      dsimp only
      split
      · exact hex
      · rename_i hno
        exact absurd (confirms_setAllReply _) hno
  | check | board | loseOrder | loseReplies => trivial

theorem Sync.withController {w : World} (hs : Sync w) {c : RelayController}
    (hc : Untouched w.task.controller c) :
    Sync { w with task := { w.task with controller := c } } :=
  ⟨hs.idle, hs.waiting, hs.alone.of_untouched hc⟩

theorem not_waiting {P : RelayChangeRequest → Int → Bytes → Prop} (current : RelayChangeRequest)
    (start : Int) (received : Bytes) (h : Phase.idle = .waiting current start received) :
    P current start received := Phase.noConfusion h

theorem not_idle {P : Prop} {current : RelayChangeRequest} {start : Int} {received : Bytes}
    (h : Phase.waiting current start received = .idle) : P := Phase.noConfusion h

theorem Sync.start {w w' : World} (hs : Sync w) {ensure : EnsureScript} {send : SendScript} {now : Int}
    {reconnect : EnsureScript} (h : step w (.start ensure send now reconnect false) = some w') :
    Sync w' := by
  cases hidle : w.task.phase with
  | waiting current start received => simp only [step, hidle, reduceCtorEq] at h
  | idle =>
      obtain ⟨hc, ho, hr⟩ := hs.idle hidle
      simp only [step, hidle] at h
      rcases begin_cases ensure send now reconnect w.task with
        ⟨-, hb⟩ | ⟨-, -, ⟨-, hb⟩ | ⟨c', hc', hb⟩ | ⟨e, c', he, hc', hb⟩⟩
      · simp only [hb, emits, hidle, Bool.false_eq_true, if_false, Option.some.injEq] at h
        rw [← h]
        exact hs
      · simp only [hb, emits, Bool.false_eq_true, if_false, Option.some.injEq] at h
        rw [← h]
        exact ⟨fun _ => ⟨hc, ho, hr⟩, not_waiting, hs.alone.of_untouched (untouched_recordForBand _ _ _)⟩
      · simp only [hb, emits, if_true, Option.some.injEq] at h
        rw [← h]
        refine ⟨not_idle, ?_, hs.alone.of_untouched (.of_sameRelays hc')⟩
        rintro current start received ⟨⟩
        refine ⟨rfl, Or.inl ⟨⟨w.sent + 1, dataByte1 w.task.controller.latestRequest.relayId,
          dataByte0 w.task.controller.latestRequest.relayId⟩, ?_, ⟨rfl, rfl⟩, rfl, hr⟩⟩
        rw [dispatch, ho]
        rfl
      · have hem : emits false (some e, ⟨c', w.task.lastProcessed, .idle⟩) = false := by
          cases e <;> rfl
        simp only [hb, hem, Bool.false_eq_true, if_false, Option.some.injEq] at h
        rw [← h]
        exact ⟨fun _ => ⟨hc, ho, hr⟩, not_waiting, hs.alone.of_untouched (.of_sameRelays hc')⟩

theorem Sync.board {w w' : World} (hs : Sync w) (h : step w (.board true) = some w') :
    ∃ current start o, w.task.phase = .waiting current start [] ∧ w.orders = [o] ∧
      w' = { w with
        orders := [], outputs := combine o.d1 o.d0, executed := w.sent
        replies := setAllReply current.relayId } := by
  cases ho : w.orders with
  | nil => simp only [step, ho, reduceCtorEq] at h
  | cons o orders =>
      cases hw : w.task.phase with
      | idle =>
          rw [(hs.idle hw).2.1] at ho
          cases ho
      | waiting current start received =>
          obtain ⟨rfl, ⟨o', ho', hord, hnum, hr⟩ | ⟨hno, -⟩⟩ := hs.waiting _ _ _ hw
          · rw [ho] at ho'
            cases ho'
            simp only [step, ho, if_true, hr, List.nil_append, boardReply_eq hord, hnum,
              Option.some.injEq] at h
            exact ⟨current, start, o, rfl, rfl, h.symm⟩
          · rw [ho] at hno
            cases hno

theorem Sync.step {w w' : World} {a : Action} (hs : Sync w) (hp : Prompt w a)
    (h : BoardProtocol.step w a = some w') : Sync w' := by
  cases a with
  | request relay band =>
      cases h
      exact hs.withController (untouched_setRelayForAntenna relay band w.task.controller)
  | check e retry =>
      cases hidle : w.task.phase with
      | idle =>
          simp only [BoardProtocol.step, hidle, Option.some.injEq] at h
          rw [← h, ← hidle]
          exact hs.withController (.of_sameRelays (checkConnection_sameRelays e retry w.task.controller))
      | waiting current start received =>
          simp only [BoardProtocol.step, hidle, reduceCtorEq] at h
  | start ensure send now reconnect leaked =>
      cases show leaked = false from hp
      exact hs.start h
  | hear now source reconnect =>
      obtain ⟨current, start, -, ho, -, -, c', -, rfl⟩ := heard_cases hs hp h
      exact ⟨fun _ => ⟨rfl, ho, rfl⟩, not_waiting,
        (alone_recordOnly _ c').of_untouched (untouched_recordForBand _ _ _)⟩
  | board answers =>
      cases show answers = true from hp
      obtain ⟨current, start, o, hw, -, rfl⟩ := hs.board h
      refine ⟨fun hidle => ?_, ?_, hs.alone⟩
      · change w.task.phase = .idle at hidle
        rw [hw] at hidle
        cases hidle
      · intro current' start' received' hw'
        change w.task.phase = _ at hw'
        rw [hw] at hw'
        cases hw'
        exact ⟨rfl, Or.inr ⟨rfl, rfl, rfl⟩⟩
  | loseOrder i => exact absurd hp id
  | loseReplies n => exact absurd hp id

def Done (w : World) : Prop :=
  w.task.phase = .idle ∧ (latest w = w.task.lastProcessed ∨ (latest w).relayId ≤ 0)

def pending (w : World) (last : RelayChangeRequest) : Nat :=
  if latest w = last ∨ (latest w).relayId ≤ 0 then 0 else 3

def work (w : World) : Nat :=
  match w.task.phase with
  | .idle => pending w w.task.lastProcessed
  | .waiting current _ _ => (if w.orders = [] then 1 else 2) + pending w current

/-- The steps that bring the task on: a pass that does not fail, and each step of an
exchange. -/
def Works (w : World) : Action → Prop
  | .start ensure send now reconnect _ =>
      ∀ e, (w.task.begin ensure send now reconnect).1 = some e → e = .ok
  | .hear _ _ _ => True
  | .board _ => True
  | _ => False

theorem pending_le (w : World) (last : RelayChangeRequest) : pending w last ≤ 3 := by
  rw [pending]
  split <;> omega

theorem work_le (w : World) : work w ≤ 5 := by
  rw [work]
  split
  · exact Nat.le_trans (pending_le _ _) (by omega)
  · rename_i current start received hw
    have := pending_le w current
    split <;> omega

theorem work_eq_zero_iff (w : World) : work w = 0 ↔ Done w := by
  rw [work, Done]
  cases hw : w.task.phase with
  | waiting current start received =>
      refine iff_of_false ?_ fun h => Phase.noConfusion h.1
      dsimp only
      split <;> omega
  | idle =>
      dsimp only
      rw [pending]
      split
      · rename_i h
        exact iff_of_true rfl ⟨rfl, h⟩
      · rename_i h
        exact iff_of_false (by omega) fun hd => h hd.2

theorem pending_congr {w w' : World} (h : latest w' = latest w) (last : RelayChangeRequest) :
    pending w' last = pending w last := by
  rw [pending, pending, h]

theorem pending_of_not {w : World} {last : RelayChangeRequest}
    (h : ¬ (latest w = last ∨ (latest w).relayId ≤ 0)) : pending w last = 3 := if_neg h

/-- A pass that does not fail does a part of the work, if there is any. -/
theorem work_start {w w' : World} {ensure : EnsureScript} {send : SendScript} {now : Int}
    {reconnect : EnsureScript} (h : step w (.start ensure send now reconnect false) = some w') :
    latest w' = latest w ∧ work w' ≤ work w ∧
      (Works w (.start ensure send now reconnect false) → work w' ≤ work w - 1) := by
  cases hidle : w.task.phase with
  | waiting current start received => simp only [step, hidle, reduceCtorEq] at h
  | idle =>
      have hwork : work w = pending w w.task.lastProcessed := by rw [work, hidle]
      simp only [step, hidle] at h
      rcases begin_cases ensure send now reconnect w.task with
        ⟨hnone, hb⟩ | ⟨hne, hpos, ⟨-, hb⟩ | ⟨c', hc', hb⟩ | ⟨e, c', he, hc', hb⟩⟩
      · simp only [hb, emits, hidle, Bool.false_eq_true, if_false, Option.some.injEq] at h
        have h0 : work w = 0 := by
          rw [hwork]
          exact if_pos hnone
        rw [← h]
        change _ ∧ work w ≤ work w ∧ (_ → work w ≤ work w - 1)
        rw [h0]
        exact ⟨rfl, Nat.le_refl _, fun _ => Nat.le_refl _⟩
      · simp only [hb, emits, Bool.false_eq_true, if_false, Option.some.injEq] at h
        rw [← h]
        have h0 : work { w with task := ⟨recordForBand w.task.controller.latestRequest.bandNumber
            w.task.controller.latestRequest.relayId w.task.controller,
              w.task.controller.latestRequest, .idle⟩ } = 0 := if_pos (Or.inl rfl)
        rw [h0]
        exact ⟨rfl, Nat.zero_le _, fun _ => Nat.zero_le _⟩
      · simp only [hb, emits, if_true, Option.some.injEq] at h
        have hl : c'.latestRequest = w.task.controller.latestRequest := by rw [hc']
        have hlt : work w = 3 := by
          rw [hwork]
          exact pending_of_not (not_or.mpr ⟨hne, Int.not_le.mpr hpos⟩)
        have hle : work w' ≤ 2 := by
          rw [← h, work]
          dsimp only [dispatch]
          rw [pending, if_pos (Or.inl (by exact hl))]
          simp
        refine ⟨?_, by omega, fun _ => by omega⟩
        rw [← h]
        exact hl
      · have hem : emits false (some e, ⟨c', w.task.lastProcessed, .idle⟩) = false := by
          cases e <;> rfl
        simp only [hb, hem, Bool.false_eq_true, if_false, Option.some.injEq] at h
        have hl : c'.latestRequest = w.task.controller.latestRequest := by rw [hc']
        have hsame : work w' = work w := by
          rw [hwork, ← h, work]
          exact pending_congr (by exact hl) _
        refine ⟨?_, by omega, fun hno => absurd (hno e (by rw [hb])) he⟩
        rw [← h]
        exact hl

/-- Nothing adds work but a request, and each step that works takes some away. -/
theorem work_step {w w' : World} {a : Action} (hs : Sync w) (hp : Prompt w a)
    (hreq : ∀ relay band, a ≠ .request relay band) (h : step w a = some w') :
    latest w' = latest w ∧ work w' ≤ work w ∧ (Works w a → work w' ≤ work w - 1) := by
  cases a with
  | request relay band => exact absurd rfl (hreq relay band)
  | check e retry =>
      cases hidle : w.task.phase with
      | idle =>
          simp only [step, hidle, Option.some.injEq] at h
          have hl : (checkConnection e retry w.task.controller).latestRequest =
              w.task.controller.latestRequest := by
            rw [checkConnection_sameRelays e retry w.task.controller]
          have hsame : work w' = work w := by
            rw [← h, work, work, hidle]
            exact pending_congr (by exact hl) _
          refine ⟨?_, hsame.le, fun hno => absurd hno id⟩
          rw [← h]
          exact hl
      | waiting current start received => simp only [step, hidle, reduceCtorEq] at h
  | start ensure send now reconnect leaked =>
      cases show leaked = false from hp
      exact work_start h
  | hear now source reconnect =>
      obtain ⟨current, start, hw, ho, -, -, c', hl, rfl⟩ := heard_cases hs hp h
      have hwork : work w = 1 + pending w current := by rw [work, hw, ho, if_pos rfl]
      have hwork' : work { w with
          task := ⟨recordForBand current.bandNumber current.relayId (recordOnly current.relayId c'),
            current, .idle⟩
          replies := [], confirmed := w.sent } = pending w current := pending_congr (by exact hl) _
      rw [hwork, hwork']
      exact ⟨hl, by omega, fun _ => by omega⟩
  | board answers =>
      cases show answers = true from hp
      obtain ⟨current, start, o, hw, ho, rfl⟩ := hs.board h
      have hwork : work w = 2 + pending w current := by
        rw [work, hw, ho, if_neg (List.cons_ne_nil _ _)]
      have hwork' : work { w with
          orders := [], outputs := combine o.d1 o.d0, executed := w.sent
          replies := setAllReply current.relayId } = 1 + pending w current := by
        rw [work]
        dsimp only
        rw [hw, if_pos rfl]
        rfl
      rw [hwork, hwork']
      exact ⟨rfl, by omega, fun _ => by omega⟩
  | loseOrder i => exact absurd hp id
  | loseReplies n => exact absurd hp id

inductive Undisturbed (w : World) : Nat → World → Prop
  | refl : Undisturbed w 0 w
  | idle {n : Nat} {w₁ w₂ : World} {a : Action} (h : Undisturbed w n w₁) (hp : Prompt w₁ a)
      (hreq : ∀ relay band, a ≠ .request relay band) (hs : step w₁ a = some w₂) : Undisturbed w n w₂
  | works {n : Nat} {w₁ w₂ : World} {a : Action} (h : Undisturbed w n w₁) (hp : Prompt w₁ a)
      (hreq : ∀ relay band, a ≠ .request relay band) (hs : step w₁ a = some w₂) (hw : Works w₁ a) :
      Undisturbed w (n + 1) w₂

theorem Undisturbed.spec {w w' : World} {n : Nat} (h : Undisturbed w n w') (hi : Inv w) (hs : Sync w) :
    Inv w' ∧ Sync w' ∧ latest w' = latest w ∧ work w' ≤ work w - n := by
  induction h with
  | refl => exact ⟨hi, hs, rfl, Nat.le_refl _⟩
  | idle _ hp hreq hstep ih =>
      obtain ⟨hi₁, hs₁, hl, hw⟩ := ih
      obtain ⟨hl', hw', -⟩ := work_step hs₁ hp hreq hstep
      exact ⟨hi₁.step hstep (careful_of_prompt hs₁ hp hstep), hs₁.step hp hstep, hl'.trans hl, by omega⟩
  | works _ hp hreq hstep hworks ih =>
      obtain ⟨hi₁, hs₁, hl, hw⟩ := ih
      obtain ⟨hl', -, hw'⟩ := work_step hs₁ hp hreq hstep
      have := hw' hworks
      exact ⟨hi₁.step hstep (careful_of_prompt hs₁ hp hstep), hs₁.step hp hstep, hl'.trans hl, by omega⟩

theorem Undisturbed.after {w w' : World} {n : Nat} (h : Undisturbed w n w') {a : Action}
    (hp : Prompt w' a) (hreq : ∀ relay band, a ≠ .request relay band)
    (hs : (step w' a).isSome = true) (hw : Works w' a) :
    Undisturbed w (n + 1) (BoardProtocol.after w' a) := by
  refine h.works hp hreq ?_ hw
  obtain ⟨w'', he⟩ := Option.isSome_iff_exists.mp hs
  rw [BoardProtocol.after, he]
  rfl

end BandDecoder.PromptBoard
