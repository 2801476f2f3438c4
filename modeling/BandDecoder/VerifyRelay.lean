import BandDecoder.SendCommand

namespace BandDecoder.VerifyRelay

open CStrings SwitchConfig Tcp StateReply Relay SendCommand

/-- The connection during a flush. The passes of its receive loops are counted through;
for each there is the number of bytes to be had, the clock at its top and the clock
of a call that would start with it. Behind `data` the board is silent. -/
structure Feed where
  data : Bytes
  segment : Nat → Nat
  start : Nat → Int
  now : Nat → Int

def FLUSH_BUFFER_SIZE : Nat := 128

def FLUSH_TIMEOUT : Int := 300

namespace Feed

def chunk (f : Feed) (i : Nat) (pending received : Bytes) : Bytes :=
  pending.take (min (f.segment i) (FLUSH_BUFFER_SIZE - received.length - 1))

def round (f : Feed) (i : Nat) (pending received : Bytes) : Round :=
  ⟨f.now i, if f.chunk i pending received = [] then .quiet else .data (f.chunk i pending received)⟩

/-- A call of `receive_message` from pass `i` on: its status, the next pass and what is
still pending. -/
def receiveMessage (f : Feed) (start : Int) :
    Nat → Nat → Bytes → Bytes → Option (EspErr × Nat × Bytes)
  | 0, _, _, _ => none
  | fuel + 1, i, pending, received =>
      match receiveRound FLUSH_BUFFER_SIZE FLUSH_TIMEOUT start received (f.round i pending received) with
      | .stop status got _ => some (status, i + 1, pending.drop (got.length - received.length))
      | .again got =>
          f.receiveMessage start fuel (i + 1) (pending.drop (got.length - received.length)) got

/-- `while (receive_message(...) == ESP_OK)`. A call has at most 127 passes. -/
def flush (f : Feed) : Nat → Nat → Bytes → Option (EspErr × Nat × Bytes)
  | 0, _, _ => none
  | fuel + 1, i, pending =>
      match f.receiveMessage (f.start i) (FLUSH_BUFFER_SIZE - 1) i pending [] with
      | some (.ok, i, pending) => f.flush fuel i pending
      | result => result

end Feed

structure Attempt where
  feed : Feed
  query : Exchange

structure Outcome where
  status : EspErr
  queries : Nat
  unread : List Bytes

def verifyLoop (fuel : Nat) (expectedRelay : Int) :
    List Attempt → Nat → List Bytes → RelayController → Option (Outcome × RelayController)
  | [], queries, unread, c => some (⟨.fail, queries, unread⟩, c)
  | a :: as, queries, unread, c => match a.feed.flush fuel 0 a.feed.data with
    | none => none
    | some (_, _, pending) => match sendCommand a.query stateCmd (text "OK") 250 c with
      | (.ok, c) =>
          if c.currentlySelectedRelay = expectedRelay then
            some (⟨.ok, queries + 1, unread ++ [pending]⟩, c)
          else verifyLoop fuel expectedRelay as (queries + 1) (unread ++ [pending]) c
      | (_, c) => verifyLoop fuel expectedRelay as (queries + 1) (unread ++ [pending]) c

abbrev VERIFY_ATTEMPTS : Nat := 2

def verifyRelayState (fuel : Nat) (expectedRelay : Int) (attempts : Fin VERIFY_ATTEMPTS → Attempt)
    (c : RelayController) : Option (Outcome × RelayController) :=
  verifyLoop fuel expectedRelay (List.ofFn attempts) 0 [] c

def Ends (expectedRelay : Int) (attempts : Fin VERIFY_ATTEMPTS → Attempt) (c : RelayController) :
    Prop :=
  ∃ fuel outcome c', verifyRelayState fuel expectedRelay attempts c = some (outcome, c') ∧
    outcome.queries ≤ VERIFY_ATTEMPTS ∧ ∀ pending ∈ outcome.unread, pending = []

/-- What a pass finds behind it: the clock when the last quiet slice or complete text
had been taken, the text since then and what is still to come. -/
structure Heard where
  since : Int
  text : Bytes
  pending : Bytes

namespace Feed

def heard (f : Feed) : Nat → Heard
  | 0 => ⟨f.start 0, [], f.data⟩
  | i + 1 =>
      let h := f.heard i
      let chunk := f.chunk i h.pending h.text
      let pending := h.pending.drop chunk.length
      if chunk = [] ∨ complete (h.text ++ chunk) then ⟨f.start (i + 1), [], pending⟩
      else ⟨h.since, h.text ++ chunk, pending⟩

def passEnd (f : Feed) (i : Nat) : RoundEnd :=
  receiveRound FLUSH_BUFFER_SIZE FLUSH_TIMEOUT (f.heard i).since (f.heard i).text
    (f.round i (f.heard i).pending (f.heard i).text)

def Late (f : Feed) (i : Nat) : Prop := FLUSH_TIMEOUT ≤ elapsed (f.heard i).since (f.now i)

def Full (f : Feed) (i : Nat) : Prop :=
  let h := f.heard i
  let chunk := f.chunk i h.pending h.text
  chunk ≠ [] ∧ ¬ complete (h.text ++ chunk) ∧ FLUSH_BUFFER_SIZE - 1 ≤ (h.text ++ chunk).length

def Calm (f : Feed) (i : Nat) : Prop := ¬ f.Late i ∧ ¬ f.Full i

def CutAt (f : Feed) (i : Nat) (pending : Bytes) : Prop :=
  (f.Late i ∧ pending = (f.heard i).pending) ∨
    (¬ f.Late i ∧ f.Full i ∧ pending = (f.heard (i + 1)).pending)

/-- The first text to be cut off, by time or by the size of the buffer, ends the data. -/
def CutLast (f : Feed) : Prop := ∃ i, (∀ k < i, f.Calm k) ∧ f.CutAt i []

end Feed

def Shows (x : Exchange) (expectedRelay : Int) (c : RelayController) : Prop :=
  ∃ received c' v, answered x stateCmd 250 c = some (received, c') ∧
    parse (cstr c'.response) = some v ∧ ffs v = expectedRelay

namespace Feed

variable (f : Feed)

/-- A call of the flush is the receive loop over the rounds that it meets. -/
theorem receiveMessage_receiveLoop {start : Int} {fuel i m : Nat} {pending pending' received : Bytes}
    {e : EspErr} (h : f.receiveMessage start fuel i pending received = some (e, m, pending')) :
    ∃ rounds got closed, i + rounds.length = m ∧
      receiveLoop FLUSH_BUFFER_SIZE FLUSH_TIMEOUT start rounds received = (e, got, closed) := by
  induction fuel generalizing i pending received with
  | zero => cases h
  | succ fuel ih =>
      rw [Feed.receiveMessage] at h
      split at h
      · rename_i status got closed hr
        cases h
        refine ⟨[f.round i pending received], got, closed, rfl, ?_⟩
        rw [receiveLoop, hr]
      · rename_i got hr
        obtain ⟨rounds, got', closed, hm, hl⟩ := ih h
        refine ⟨f.round i pending received :: rounds, got', closed, ?_, ?_⟩
        · rw [List.length_cons]
          omega
        · rw [receiveLoop, hr]
          exact hl

theorem passEnd_cases (i : Nat) :
    (f.Late i ∧ f.passEnd i = .stop .timeout (f.heard i).text false) ∨
    (f.Calm i ∧ ∃ got, f.passEnd i = .stop .ok got false ∧ f.heard (i + 1) =
      ⟨f.start (i + 1), [], (f.heard i).pending.drop (got.length - (f.heard i).text.length)⟩) ∨
    (¬ f.Late i ∧ f.Full i ∧ ∃ got, f.passEnd i = .stop .noMem got false ∧
      (f.heard (i + 1)).pending = (f.heard i).pending.drop (got.length - (f.heard i).text.length)) ∨
    (f.Calm i ∧ ∃ got, f.passEnd i = .again got ∧ (f.heard i).text.length < got.length ∧
      got.length < FLUSH_BUFFER_SIZE - 1 ∧ f.heard (i + 1) =
        ⟨(f.heard i).since, got, (f.heard i).pending.drop (got.length - (f.heard i).text.length)⟩) := by
  rw [Calm, Late, Full, passEnd, heard, receiveRound, round]
  generalize f.heard i = h
  have htake : (f.chunk i h.pending h.text).take (FLUSH_BUFFER_SIZE - h.text.length - 1) =
      f.chunk i h.pending h.text := by
    rw [chunk, List.take_take]
    congr 1
    omega
  generalize f.chunk i h.pending h.text = chunk at htake ⊢
  dsimp only
  by_cases hl : FLUSH_TIMEOUT ≤ elapsed h.since (f.now i)
  · rw [if_pos hl]
    exact Or.inl ⟨hl, rfl⟩
  · rw [if_neg hl]
    by_cases hq : chunk = []
    · refine Or.inr (Or.inl ⟨⟨hl, fun hf => hf.1 hq⟩, h.text, ?_, ?_⟩)
      · rw [if_pos hq]
      · rw [if_pos (Or.inl hq), hq, Nat.sub_self]
        rfl
    · have hlen : (h.text ++ chunk).length - h.text.length = chunk.length := by
        rw [List.length_append, Nat.add_sub_cancel_left]
      have hpos := List.length_pos_of_ne_nil hq
      rw [if_neg hq]
      dsimp only
      rw [htake, if_neg hq]
      by_cases hc : complete (h.text ++ chunk)
      · refine Or.inr (Or.inl ⟨⟨hl, fun hf => hf.2.1 hc⟩, h.text ++ chunk, ?_, ?_⟩)
        · rw [if_pos hc]
        · rw [if_pos (Or.inr hc), hlen]
      · rw [if_neg hc, if_neg (not_or.mpr ⟨hq, hc⟩)]
        by_cases hfull : FLUSH_BUFFER_SIZE - 1 ≤ (h.text ++ chunk).length
        · refine Or.inr (Or.inr (Or.inl ⟨hl, ⟨hq, hc, hfull⟩, h.text ++ chunk, ?_, ?_⟩))
          · rw [if_pos hfull]
          · rw [hlen]
        · refine Or.inr (Or.inr (Or.inr ⟨⟨hl, fun hf => hfull hf.2.2⟩, h.text ++ chunk, ?_, ?_, ?_, ?_⟩))
          · rw [if_neg hfull]
          · rw [List.length_append]
            omega
          · omega
          · rw [hlen]

/-- A call ends with success behind calm passes, or is cut off behind them. Each of its
passes that goes on lengthens the text, so it never runs out of them. -/
theorem receiveMessage_cases (fuel i : Nat) (hlt : (f.heard i).text.length < FLUSH_BUFFER_SIZE - 1)
    (hfuel : FLUSH_BUFFER_SIZE - 1 ≤ fuel + (f.heard i).text.length) :
    ∃ j, i ≤ j ∧ (∀ k, i ≤ k → k < j → f.Calm k) ∧
      ((f.Calm j ∧ f.heard (j + 1) = ⟨f.start (j + 1), [], (f.heard (j + 1)).pending⟩ ∧
        f.receiveMessage (f.heard i).since fuel i (f.heard i).pending (f.heard i).text =
          some (.ok, j + 1, (f.heard (j + 1)).pending)) ∨
      ∃ e pending, e ≠ .ok ∧ f.CutAt j pending ∧
        f.receiveMessage (f.heard i).since fuel i (f.heard i).pending (f.heard i).text =
          some (e, j + 1, pending)) := by
  induction fuel generalizing i with
  | zero => omega
  | succ fuel ih =>
      have hnone : ∀ k, i ≤ k → k < i → f.Calm k := fun k hk hk' => absurd hk' (Nat.not_lt.mpr hk)
      rcases f.passEnd_cases i with ⟨hl, hr⟩ | ⟨hc, got, hr, hh⟩ | ⟨hl, hf, got, hr, hh⟩ |
        ⟨hc, got, hr, hgrow, hgot, hh⟩
      all_goals rw [passEnd] at hr; rw [receiveMessage, hr]
      · refine ⟨i, Nat.le_refl i, hnone, Or.inr ⟨.timeout, (f.heard i).pending, EspErr.noConfusion,
          Or.inl ⟨hl, rfl⟩, ?_⟩⟩
        simp only [Nat.sub_self, List.drop_zero]
      · refine ⟨i, Nat.le_refl i, hnone, Or.inl ⟨hc, ?_, ?_⟩⟩
        · rw [hh]
        · rw [hh]
      · exact ⟨i, Nat.le_refl i, hnone, Or.inr ⟨.noMem, _, EspErr.noConfusion,
          Or.inr ⟨hl, hf, rfl⟩, by rw [hh]⟩⟩
      · have hi := ih (i + 1) (by rw [hh]; exact hgot) (by rw [hh]; dsimp only; omega)
        obtain ⟨j, hij, hcalm, hend⟩ := hi
        rw [hh] at hend
        refine ⟨j, Nat.le_of_succ_le hij, fun k hk hkj => ?_, hend⟩
        rcases Nat.eq_or_lt_of_le hk with rfl | hlt
        · exact hc
        · exact hcalm k hlt hkj

def Fresh (i : Nat) (pending : Bytes) : Prop := f.heard i = ⟨f.start i, [], pending⟩

theorem fresh_zero : f.Fresh 0 f.data := rfl

/-- A flush goes on behind a calm stretch that ends with a success, and leaves where a
text is cut off. -/
theorem flush_succ_cases {i : Nat} {pending : Bytes} (h : f.Fresh i pending) :
    ∃ j, i ≤ j ∧ (∀ k, i ≤ k → k < j → f.Calm k) ∧
      ((f.Calm j ∧ ∃ pending', f.Fresh (j + 1) pending' ∧
        ∀ fuel, f.flush (fuel + 1) i pending = f.flush fuel (j + 1) pending') ∨
      ∃ e pending', f.CutAt j pending' ∧
        ∀ fuel, f.flush (fuel + 1) i pending = some (e, j + 1, pending')) := by
  have hlt : (f.heard i).text.length < FLUSH_BUFFER_SIZE - 1 := by
    rw [h]
    exact (by decide : 0 < 127)
  have hr := f.receiveMessage_cases (FLUSH_BUFFER_SIZE - 1) i hlt (Nat.le_add_right _ _)
  rw [h] at hr
  obtain ⟨j, hij, hcalm, ⟨hc, hh, hr⟩ | ⟨e, pending', he, hcut, hr⟩⟩ := hr
  · refine ⟨j, hij, hcalm, Or.inl ⟨hc, _, hh, fun fuel => ?_⟩⟩
    rw [flush, hr]
  · refine ⟨j, hij, hcalm, Or.inr ⟨e, pending', hcut, fun fuel => ?_⟩⟩
    rw [flush, hr]
    cases e with
    | ok => exact absurd rfl he
    | _ => rfl

theorem not_cutAt_of_calm {i : Nat} {pending : Bytes} (h : f.Calm i) : ¬ f.CutAt i pending := by
  rintro (⟨hl, -⟩ | ⟨-, hf, -⟩)
  · exact h.1 hl
  · exact h.2 hf

theorem cutAt_unique {i : Nat} {pending pending' : Bytes} (h : f.CutAt i pending)
    (h' : f.CutAt i pending') : pending = pending' := by
  rcases h with ⟨hl, rfl⟩ | ⟨hl, -, rfl⟩ <;> rcases h' with ⟨hl', rfl⟩ | ⟨hl', -, rfl⟩
  · rfl
  · exact absurd hl hl'
  · exact absurd hl' hl
  · rfl

theorem cutAt_of_flush {fuel i m : Nat} {pending pending' : Bytes} {e : EspErr}
    (h : f.Fresh i pending) (hf : f.flush fuel i pending = some (e, m, pending')) :
    ∃ j, i ≤ j ∧ (∀ k, i ≤ k → k < j → f.Calm k) ∧ f.CutAt j pending' := by
  induction fuel generalizing i pending with
  | zero => cases hf
  | succ fuel ih =>
      obtain ⟨j, hij, hcalm, ⟨hc, pending₁, hfresh, hr⟩ | ⟨e', pending₁, hcut, hr⟩⟩ :=
        f.flush_succ_cases h
      · rw [hr] at hf
        obtain ⟨j', hj, hcalm', hcut⟩ := ih hfresh hf
        refine ⟨j', by omega, fun k hk hkj => ?_, hcut⟩
        rcases Nat.lt_trichotomy k j with hlt | rfl | hgt
        · exact hcalm k hk hlt
        · exact hc
        · exact hcalm' k hgt hkj
      · rw [hr] at hf
        cases hf
        exact ⟨j, hij, hcalm, hcut⟩

theorem flush_of_cutAt {i j : Nat} {pending pending' : Bytes} (h : f.Fresh i pending) (hij : i ≤ j)
    (hcalm : ∀ k, i ≤ k → k < j → f.Calm k) (hcut : f.CutAt j pending') :
    ∃ fuel e, f.flush fuel i pending = some (e, j + 1, pending') := by
  induction hn : j - i using Nat.strongRecOn generalizing i pending with
  | ind n ih =>
      obtain ⟨m, him, hcalm', ⟨hc, pending₁, hfresh, hr⟩ | ⟨e, pending₁, hcut', hr⟩⟩ :=
        f.flush_succ_cases h
      · have hmj : m < j := by
          rcases Nat.lt_trichotomy m j with hlt | rfl | hgt
          · exact hlt
          · exact absurd hcut (f.not_cutAt_of_calm hc)
          · exact absurd hcut (f.not_cutAt_of_calm (hcalm' j hij hgt))
        obtain ⟨fuel, e, hf⟩ := ih (j - (m + 1)) (by omega) hfresh hmj
          (fun k hk hkj => hcalm k (by omega) hkj) rfl
        exact ⟨fuel + 1, e, (hr fuel).trans hf⟩
      · have hmj : m = j := by
          rcases Nat.lt_trichotomy m j with hlt | rfl | hgt
          · exact absurd hcut' (f.not_cutAt_of_calm (hcalm m him hlt))
          · rfl
          · exact absurd hcut (f.not_cutAt_of_calm (hcalm' j hij hgt))
        subst hmj
        rw [f.cutAt_unique hcut hcut']
        exact ⟨1, e, hr 0⟩

/-- A flush leaves with nothing pending exactly when the first text that is cut off
ends the data. -/
theorem flush_leaves_iff :
    (∃ fuel e m, f.flush fuel 0 f.data = some (e, m, [])) ↔ f.CutLast := by
  constructor
  · rintro ⟨fuel, e, m, hf⟩
    obtain ⟨j, -, hcalm, hcut⟩ := f.cutAt_of_flush f.fresh_zero hf
    exact ⟨j, fun k hk => hcalm k (Nat.zero_le k) hk, hcut⟩
  · rintro ⟨j, hcalm, hcut⟩
    obtain ⟨fuel, e, hf⟩ := f.flush_of_cutAt f.fresh_zero (Nat.zero_le j)
      (fun k _ hk => hcalm k hk) hcut
    exact ⟨fuel, e, j + 1, hf⟩

theorem flush_mono {fuel i : Nat} {pending : Bytes} {r : EspErr × Nat × Bytes}
    (h : f.flush fuel i pending = some r) (more : Nat) : f.flush (fuel + more) i pending = some r := by
  induction fuel generalizing i pending with
  | zero => cases h
  | succ fuel ih =>
      rw [Nat.add_right_comm, flush]
      rw [flush] at h
      split at h
      · exact ih h
      · exact h

/-- Once nothing is pending, a fresh call stays fresh: each pass finds a quiet slice. -/
theorem fresh_silent {i : Nat} (h : f.Fresh i []) (j : Nat) : f.Fresh (i + j) [] := by
  induction j with
  | zero => exact h
  | succ j ih =>
      have hchunk : f.chunk (i + j) [] [] = [] := List.take_nil
      rw [Fresh] at ih ⊢
      rw [← Nat.add_assoc, heard, ih]
      dsimp only
      rw [hchunk, if_pos (Or.inl rfl), List.drop_nil]

theorem calm_silent_iff {i : Nat} (h : f.Fresh i []) :
    f.Calm i ↔ elapsed (f.start i) (f.now i) < FLUSH_TIMEOUT := by
  have hf : ¬ f.Full i := by
    intro hf
    rw [Full, h] at hf
    exact hf.1 List.take_nil
  rw [Calm, and_iff_left hf, Late, h, Int.not_le]

/-- Behind data that calls have consumed with success, silence keeps the loop going. -/
theorem not_cutLast_of_silence {i : Nat} (hcalm : ∀ k < i, f.Calm k) (h : f.Fresh i [])
    (hprompt : ∀ j, i ≤ j → elapsed (f.start j) (f.now j) < FLUSH_TIMEOUT) : ¬ f.CutLast := by
  rintro ⟨j, -, hcut⟩
  refine f.not_cutAt_of_calm ?_ hcut
  by_cases hj : j < i
  · exact hcalm j hj
  · obtain ⟨d, rfl⟩ := Nat.exists_eq_add_of_le (Nat.not_lt.mp hj)
    exact (f.calm_silent_iff (f.fresh_silent h d)).mpr (hprompt _ (Nat.le_add_right i d))

end Feed

theorem query_cases (x : Exchange) (expectedRelay : Int) (c : RelayController) :
    (Shows x expectedRelay c ∧ ∃ c', sendCommand x stateCmd (text "OK") 250 c = (.ok, c') ∧
      c'.currentlySelectedRelay = expectedRelay) ∨
    (¬ Shows x expectedRelay c ∧ ∃ e c', sendCommand x stateCmd (text "OK") 250 c = (e, c') ∧
      (e = .ok → c'.currentlySelectedRelay ≠ expectedRelay)) := by
  rcases stateQuery_cases x 250 c with ⟨e, c', he, -, hno, hs⟩ | ⟨received, c', v, -, ha, hp, hs⟩
  · refine Or.inr ⟨?_, e, c', hs, fun h => absurd h he⟩
    rintro ⟨received, c'', v, ha, hp, -⟩
    rw [hno received c'' ha] at hp
    cases hp
  · by_cases hffs : ffs v = expectedRelay
    · exact Or.inl ⟨⟨received, c', v, ha, hp, hffs⟩, takePattern v c', hs, hffs⟩
    · refine Or.inr ⟨?_, .ok, takePattern v c', hs, fun _ => hffs⟩
      rintro ⟨received', c'', v', ha', hp', hffs'⟩
      rw [ha] at ha'
      cases ha'
      rw [hp] at hp'
      cases hp'
      exact hffs hffs'

def queried (a : Attempt) (c : RelayController) : RelayController :=
  (sendCommand a.query stateCmd (text "OK") 250 c).2

theorem verifyLoop_shown {fuel : Nat} {expectedRelay : Int} {a : Attempt} {c : RelayController}
    {e : EspErr} {m : Nat} {pending : Bytes} (hf : a.feed.flush fuel 0 a.feed.data = some (e, m, pending))
    (h : Shows a.query expectedRelay c) (as : List Attempt) (queries : Nat) (unread : List Bytes) :
    verifyLoop fuel expectedRelay (a :: as) queries unread c =
      some (⟨.ok, queries + 1, unread ++ [pending]⟩, queried a c) := by
  rcases query_cases a.query expectedRelay c with ⟨-, c', hs, hsel⟩ | ⟨hn, -⟩
  · rw [verifyLoop, hf, queried, hs]
    exact if_pos hsel
  · exact absurd h hn

theorem verifyLoop_next {fuel : Nat} {expectedRelay : Int} {a : Attempt} {c : RelayController}
    {e : EspErr} {m : Nat} {pending : Bytes} (hf : a.feed.flush fuel 0 a.feed.data = some (e, m, pending))
    (h : ¬ Shows a.query expectedRelay c) (as : List Attempt) (queries : Nat) (unread : List Bytes) :
    verifyLoop fuel expectedRelay (a :: as) queries unread c =
      verifyLoop fuel expectedRelay as (queries + 1) (unread ++ [pending]) (queried a c) := by
  rcases query_cases a.query expectedRelay c with ⟨hshow, -⟩ | ⟨-, e', c', hs, hsel⟩
  · exact absurd hshow h
  · rw [verifyLoop, hf, queried, hs]
    cases e' with
    | ok => exact if_neg (hsel rfl)
    | _ => rfl

/-- The flush of each attempt that is made leaves with nothing pending. -/
def Settles (expectedRelay : Int) : List Attempt → RelayController → Prop
  | [], _ => True
  | a :: as, c => a.feed.CutLast ∧ (¬ Shows a.query expectedRelay c →
      Settles expectedRelay as (queried a c))

theorem verifyLoop_mono {fuel : Nat} {expectedRelay : Int} {as : List Attempt} {queries : Nat}
    {unread : List Bytes} {c : RelayController} {r : Outcome × RelayController}
    (h : verifyLoop fuel expectedRelay as queries unread c = some r) (more : Nat) :
    verifyLoop (fuel + more) expectedRelay as queries unread c = some r := by
  induction as generalizing queries unread c with
  | nil => exact h
  | cons a as ih =>
      cases hf : a.feed.flush fuel 0 a.feed.data with
      | none =>
          rw [verifyLoop, hf] at h
          cases h
      | some result =>
          obtain ⟨e, m, pending⟩ := result
          have hf' := a.feed.flush_mono hf more
          by_cases hs : Shows a.query expectedRelay c
          · rw [verifyLoop_shown hf hs] at h
            rw [verifyLoop_shown hf' hs]
            exact h
          · rw [verifyLoop_next hf hs] at h
            rw [verifyLoop_next hf' hs]
            exact ih h

theorem append_singleton_nil_iff {unread : List Bytes} {pending : Bytes} :
    (∀ p ∈ unread ++ [pending], p = []) ↔ (∀ p ∈ unread, p = []) ∧ pending = [] := by
  simp [or_imp, forall_and]

theorem settles_of_verifyLoop {fuel : Nat} {expectedRelay : Int} {as : List Attempt} {queries : Nat}
    {unread : List Bytes} {c c' : RelayController} {outcome : Outcome}
    (h : verifyLoop fuel expectedRelay as queries unread c = some (outcome, c'))
    (hread : ∀ p ∈ outcome.unread, p = []) :
    (∀ p ∈ unread, p = []) ∧ Settles expectedRelay as c := by
  induction as generalizing queries unread c with
  | nil =>
      cases h
      exact ⟨hread, trivial⟩
  | cons a as ih =>
      cases hf : a.feed.flush fuel 0 a.feed.data with
      | none =>
          rw [verifyLoop, hf] at h
          cases h
      | some result =>
          obtain ⟨e, m, pending⟩ := result
          rw [Settles, ← a.feed.flush_leaves_iff]
          by_cases hs : Shows a.query expectedRelay c
          · rw [verifyLoop_shown hf hs] at h
            cases h
            obtain ⟨hu, rfl⟩ := append_singleton_nil_iff.mp hread
            exact ⟨hu, ⟨fuel, e, m, hf⟩, fun hn => absurd hs hn⟩
          · rw [verifyLoop_next hf hs] at h
            obtain ⟨hall, hrest⟩ := ih h
            obtain ⟨hu, rfl⟩ := append_singleton_nil_iff.mp hall
            exact ⟨hu, ⟨fuel, e, m, hf⟩, fun _ => hrest⟩

theorem verifyLoop_of_settles {expectedRelay : Int} {as : List Attempt} {unread : List Bytes}
    {c : RelayController} (hu : ∀ p ∈ unread, p = []) (h : Settles expectedRelay as c)
    (queries : Nat) :
    ∃ fuel outcome c', verifyLoop fuel expectedRelay as queries unread c = some (outcome, c') ∧
      outcome.queries ≤ queries + as.length ∧ ∀ p ∈ outcome.unread, p = [] := by
  induction as generalizing unread c queries with
  | nil => exact ⟨0, _, c, rfl, Nat.le_refl _, hu⟩
  | cons a as ih =>
      rw [Settles, ← a.feed.flush_leaves_iff] at h
      obtain ⟨⟨fuel, e, m, hf⟩, hrest⟩ := h
      have hu' : ∀ p ∈ unread ++ [[]], p = [] := append_singleton_nil_iff.mpr ⟨hu, rfl⟩
      by_cases hs : Shows a.query expectedRelay c
      · exact ⟨fuel, _, _, verifyLoop_shown hf hs as queries unread, by simp, hu'⟩
      · obtain ⟨fuel', outcome, c', hv, hq, ho⟩ := ih hu' (hrest hs) (queries + 1)
        refine ⟨fuel + fuel', outcome, c', ?_, by rw [List.length_cons]; omega, ho⟩
        rw [verifyLoop_next (a.feed.flush_mono hf fuel') hs, Nat.add_comm fuel]
        exact verifyLoop_mono hv fuel

theorem ends_iff_settles (expectedRelay : Int) (attempts : Fin VERIFY_ATTEMPTS → Attempt)
    (c : RelayController) :
    Ends expectedRelay attempts c ↔ Settles expectedRelay (List.ofFn attempts) c := by
  constructor
  · rintro ⟨fuel, outcome, c', hv, -, hread⟩
    exact (settles_of_verifyLoop hv hread).2
  · intro h
    have hv := verifyLoop_of_settles (fun p hp => absurd hp List.not_mem_nil) h 0
    rw [List.length_ofFn, Nat.zero_add] at hv
    exact hv

/-- `verify_relay_state` returns with everything flushed exactly when the first flush
settles and so does the second, unless the reply in between shows the relay. -/
theorem ends_iff (expectedRelay : Int) (attempts : Fin VERIFY_ATTEMPTS → Attempt)
    (c : RelayController) :
    Ends expectedRelay attempts c ↔ (attempts 0).feed.CutLast ∧
      (¬ Shows (attempts 0).query expectedRelay c → (attempts 1).feed.CutLast) := by
  have hlist : List.ofFn attempts = [attempts 0, attempts 1] := by
    simp [List.ofFn_succ]
  rw [ends_iff_settles, hlist]
  simp only [Settles, implies_true, and_true]

/-- A stale reply is pending, and the board is silent behind it. The clock reads 250 ms
more for each pass. -/
def staleReply : Feed :=
  ⟨text "RELAY-STATE-255,0,1,OK", fun _ => 22, fun i => 250 * i, fun i => 250 * i⟩

theorem staleReply_prompt (i : Nat) :
    elapsed (staleReply.start i) (staleReply.now i) < FLUSH_TIMEOUT := by
  change ((250 * i - 250 * i : Int)).bmod (2 ^ 32) < FLUSH_TIMEOUT
  rw [Int.sub_self]
  decide

/-- The flush of a single stale reply never leaves. -/
theorem ends_fails : ¬ ∀ expectedRelay attempts c, Ends expectedRelay attempts c := by
  intro h
  have he := h 1 (fun _ => ⟨staleReply, undisturbed, ⟨undisturbed, [.wrote 16]⟩, ⟨0, []⟩⟩) construct
  rw [ends_iff_settles] at he
  have hcalm : ∀ k < 1, staleReply.Calm k := by
    intro k hk
    obtain rfl : k = 0 := by omega
    refine ⟨Int.not_le.mpr (staleReply_prompt 0), ?_⟩
    rintro ⟨-, hc, -⟩
    exact hc (by decide)
  have hfresh : staleReply.Fresh 1 [] := rfl
  exact staleReply.not_cutLast_of_silence hcalm hfresh (fun j _ => staleReply_prompt j) he.1

end BandDecoder.VerifyRelay
