import BandDecoder.Cat

namespace BandDecoder.CatFraming

open CStrings SwitchConfig Config Relay Switch Cat Framing

def noteCall (c : CatCommand) (calls : List CatCommand) : List CatCommand := calls ++ [c]

/-- `uart_task` dispatches the commands of the whole stream and is left with the
text behind its last semicolon. -/
def FramesStream (reads : List Bytes) : Prop :=
  uartTask noteCall [] (reads.map .data) =
    ((frames semicolon reads.flatten).filterMap decode, rest semicolon reads.flatten)

def WellSized (reads : List Bytes) : Prop := ∀ r ∈ reads, 1 ≤ r.length ∧ r.length ≤ 127

theorem findIdx?_frame {a : Bytes} (h : semicolon ∉ a) (t : Bytes) :
    (a ++ semicolon :: t).findIdx? (· = semicolon) = some a.length := by
  rw [List.findIdx?_append]
  have ha : a.findIdx? (· = semicolon) = none := by
    rw [List.findIdx?_eq_none_iff]
    intro x hx
    have : x ≠ semicolon := fun he => h (he ▸ hx)
    simpa using this
  simp [ha, List.findIdx?_cons]

theorem drain_eq {σ : Type*} (call : CatCommand → σ → σ) (s : σ) (acc : Bytes) :
    drain call s acc = ((frames semicolon acc).foldl (dispatch call) s, rest semicolon acc) := by
  induction acc using frames_induction semicolon generalizing s with
  | hopen acc h =>
      have hf : acc.findIdx? (· = semicolon) = none := by
        rw [List.findIdx?_eq_none_iff]
        intro x hx
        have : x ≠ semicolon := fun he => h (he ▸ hx)
        simpa using this
      rw [drain, frames_of_not_mem semicolon h, rest_of_not_mem semicolon h]
      split
      · rfl
      · rename_i pos hpos
        rw [hf] at hpos
        cases hpos
  | hframe a t ha ih =>
      rw [drain, frames_cons_frame semicolon ha, rest_cons_frame semicolon ha]
      split
      · rename_i hpos
        rw [findIdx?_frame ha t] at hpos
        cases hpos
      · rename_i pos hpos
        rw [findIdx?_frame ha t] at hpos
        cases hpos
        have htake : (a ++ semicolon :: t).take a.length = a := List.take_left
        have hdrop : (a ++ semicolon :: t).drop (a.length + 1) = t := by simp
        rw [htake, hdrop, ih, List.foldl_cons]

theorem uartData_eq {σ : Type*} (call : CatCommand → σ → σ) (s : σ) (p : Bytes) {read : Bytes}
    (h : 0 ∉ read) :
    uartData call (s, rest semicolon p) read =
      deliver semicolon (dispatch call) (s, rest semicolon p) read := by
  rw [uartData, deliver]
  split
  · rename_i hr
    subst hr
    simp [frames_of_not_mem semicolon (not_mem_rest semicolon p),
      rest_of_not_mem semicolon (not_mem_rest semicolon p)]
  · rw [cstr_eq_self h, drain_eq]

theorem foldl_uartData {σ : Type*} (call : CatCommand → σ → σ) (reads : List Bytes)
    (h : ∀ r ∈ reads, 0 ∉ r) (s : σ) (p : Bytes) :
    (reads.map UartEvent.data).foldl (uartEvent call) (s, rest semicolon p) =
      reads.foldl (deliver semicolon (dispatch call)) (s, rest semicolon p) := by
  induction reads generalizing s p with
  | nil => rfl
  | cons r reads ih =>
      rw [List.map_cons, List.foldl_cons, List.foldl_cons, uartEvent, uartData_eq call s p (h r (by simp)),
        deliver, ← rest_append, ih fun r' hr' => h r' (by simp [hr'])]

theorem uartTask_reads {σ : Type*} (call : CatCommand → σ → σ) (s : σ) (reads : List Bytes)
    (h : 0 ∉ reads.flatten) :
    uartTask call s (reads.map .data) =
      ((frames semicolon reads.flatten).foldl (dispatch call) s, rest semicolon reads.flatten) := by
  have hr : ∀ r ∈ reads, 0 ∉ r := fun r hr h0 => h (List.mem_flatten.mpr ⟨r, hr, h0⟩)
  have h0 : ([] : Bytes) = rest semicolon [] := (rest_of_not_mem semicolon (by simp)).symm
  rw [uartTask, h0, foldl_uartData call reads hr, foldl_deliver, ← h0, List.nil_append]

theorem foldl_noteCall (cmds : List Bytes) (calls : List CatCommand) :
    cmds.foldl (dispatch noteCall) calls = calls ++ cmds.filterMap decode := by
  induction cmds generalizing calls with
  | nil => simp
  | cons cmd cmds ih =>
      rw [List.foldl_cons, ih, dispatch]
      cases h : decode cmd <;> simp [h, noteCall]

theorem framesStream_of_no_nul {reads : List Bytes} (h : 0 ∉ reads.flatten) : FramesStream reads := by
  rw [FramesStream, uartTask_reads noteCall [] reads h, foldl_noteCall, List.nil_append]

theorem not_mem_drain {σ : Type*} (call : CatCommand → σ → σ) (s : σ) {acc : Bytes} (h : 0 ∉ acc) :
    0 ∉ (drain call s acc).2 := by
  rw [drain_eq]
  exact fun h0 => h (mem_of_mem_rest semicolon h0)

/-- The accumulator never holds a NUL, whatever was read. -/
theorem not_mem_uartTask {σ : Type*} (call : CatCommand → σ → σ) (events : List UartEvent)
    (st : σ × Bytes) (h : 0 ∉ st.2) : 0 ∉ (events.foldl (uartEvent call) st).2 := by
  induction events generalizing st with
  | nil => exact h
  | cons e events ih =>
      apply ih
      cases e with
      | data read =>
          simp only [uartEvent, uartData]
          split
          · exact h
          · apply not_mem_drain
            simp [h, zero_not_mem_cstr]
      | overflow => simp [uartEvent]
      | other => exact h

theorem mem_rest_of_last {p : Bytes} : 0 ∈ rest semicolon (p ++ [0]) := by
  have hn : semicolon ∉ rest semicolon p ++ [0] := by
    rw [List.mem_append, not_or]
    exact ⟨not_mem_rest semicolon p, by decide⟩
  rw [rest_append, rest_of_not_mem semicolon hn]
  simp

/-- Framing is independent of how the driver delivers the bytes exactly for the
streams without a NUL byte: at every point of such a stream every cutting into
reads dispatches the commands of the stream so far and keeps its open text. The
first NUL breaks this, since a read is appended as a C string. -/
theorem framesStream_iff_no_nul (stream : Bytes) :
    (∀ p, p <+: stream → ∀ reads : List Bytes, reads.flatten = p → WellSized reads →
      FramesStream reads) ↔ 0 ∉ stream := by
  constructor
  · intro h hmem
    obtain ⟨p, t, rfl, _⟩ := List.eq_append_cons_of_mem hmem
    have hflat : ((p ++ [0]).map fun b => [b]).flatten = p ++ [0] := by
      rw [← List.flatMap_def]; simp
    have hf := h (p ++ [0]) ⟨t, by simp⟩ ((p ++ [0]).map fun b => [b]) hflat
      (by intro r hr; obtain ⟨b, _, rfl⟩ := List.mem_map.mp hr; simp)
    rw [FramesStream, hflat] at hf
    have hacc := not_mem_uartTask noteCall (((p ++ [0]).map fun b => [b]).map .data) ([], []) (by simp)
    rw [← uartTask, hf] at hacc
    exact hacc mem_rest_of_last
  · rintro h p hp reads rfl _
    exact framesStream_of_no_nul fun h0 => h (hp.subset h0)

/-- A NUL on the line swallows the rest of its read, commands and all. -/
theorem framesStream_fails : ¬ ∀ reads : List Bytes, WellSized reads → FramesStream reads := by
  intro h
  have hf := h [0 :: text ";FA00014074000;"] (by unfold WellSized; decide)
  have hcalls := congrArg Prod.fst hf
  simp only [uartTask, List.map_cons, List.map_nil, List.foldl_cons, List.foldl_nil, uartEvent,
    uartData, drain_eq] at hcalls
  revert hcalls
  decide

end BandDecoder.CatFraming
