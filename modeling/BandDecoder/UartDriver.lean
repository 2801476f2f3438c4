import BandDecoder.CatFraming
import BandDecoder.Runs

namespace BandDecoder.UartDriver

open CStrings Cat Framing CatFraming Runs

def BUF_SIZE : Nat := 256

def UART_QUEUE_SIZE : Nat := 3

/-- The receive buffer and the event queue of the driver, and `uart_task` behind
them: the calls it has made and its accumulator. `received` is kept for the
property alone. -/
structure Uart where
  received : Bytes
  buffered : Bytes
  queue : Nat
  calls : List CatCommand
  accumulator : Bytes

def idle : Uart := ⟨[], [], 0, [], []⟩

inductive Action
  | arrive (batch : Bytes)
  | handle

/-- The event of a batch; a full queue drops it. -/
def post (queue : Nat) : Nat := if queue < UART_QUEUE_SIZE then queue + 1 else queue

/-- What `uart_task` asks `uart_read_bytes` for: the buffered bytes, as far as they
fit in `temp_buffer` with a terminator. -/
def chunk (u : Uart) : Nat := min u.buffered.length 127

def step (u : Uart) : Action → Option Uart
  | .arrive batch =>
      if batch = [] ∨ BUF_SIZE * 2 < u.buffered.length + batch.length then none
      else some { u with
        received := u.received ++ batch
        buffered := u.buffered ++ batch
        queue := post u.queue }
  | .handle =>
      if u.queue = 0 then none
      else
        let st := uartEvent noteCall (u.calls, u.accumulator) (.data (u.buffered.take (chunk u)))
        some { u with
          buffered := u.buffered.drop (chunk u)
          queue := u.queue - 1
          calls := st.1
          accumulator := st.2 }

/-- While the task waits on an empty queue, every closed command has been dispatched
and the driver's buffer closes none, be it one that `uart_task` would ignore. -/
def NoneWaiting (u : Uart) : Prop :=
  u.queue = 0 →
    u.calls = (frames semicolon u.received).filterMap decode ∧ semicolon ∉ u.buffered

/-- No NUL arrives, and the last queued event finds no semicolon beyond what one
read takes. -/
def Drains (u : Uart) : Action → Prop
  | .arrive batch => 0 ∉ batch
  | .handle => u.queue = 1 → semicolon ∉ u.buffered.drop 127

structure Inv (u : Uart) (taken : Bytes) : Prop where
  split : u.received = taken ++ u.buffered
  clean : 0 ∉ u.received
  calls : u.calls = (frames semicolon taken).filterMap decode
  accumulator : u.accumulator = rest semicolon taken
  drained : u.queue = 0 → semicolon ∉ u.buffered

theorem Inv.noneWaiting {u : Uart} {taken : Bytes} (h : Inv u taken) : NoneWaiting u := by
  intro hq
  have hn : semicolon ∉ rest semicolon taken ++ u.buffered := by
    rw [List.mem_append, not_or]
    exact ⟨not_mem_rest semicolon taken, h.drained hq⟩
  refine ⟨?_, h.drained hq⟩
  rw [h.calls, h.split, frames_append, frames_of_not_mem semicolon hn, List.append_nil]

theorem drop_chunk (u : Uart) : u.buffered.drop (chunk u) = u.buffered.drop 127 := by
  rw [chunk]
  rcases Nat.le_total u.buffered.length 127 with h | h
  · rw [Nat.min_eq_left h, List.drop_length, List.drop_eq_nil_of_le h]
  · rw [Nat.min_eq_right h]

theorem uartEvent_taken {u : Uart} {taken read : Bytes} (h : Inv u taken) (hr : 0 ∉ read) :
    uartEvent noteCall (u.calls, u.accumulator) (.data read) =
      ((frames semicolon (taken ++ read)).filterMap decode, rest semicolon (taken ++ read)) := by
  rw [uartEvent, h.accumulator, uartData_eq noteCall u.calls taken hr, deliver, foldl_noteCall,
    h.calls, ← List.filterMap_append, ← frames_append, ← rest_append]

theorem post_ne_zero (queue : Nat) : post queue ≠ 0 := by
  rw [post, UART_QUEUE_SIZE]
  split <;> omega

theorem Inv.arrive {u : Uart} {taken : Bytes} (h : Inv u taken) {batch : Bytes} (hb : 0 ∉ batch) :
    Inv { u with
      received := u.received ++ batch
      buffered := u.buffered ++ batch
      queue := post u.queue } taken := by
  refine ⟨?_, ?_, h.calls, h.accumulator, fun h0 => absurd h0 (post_ne_zero u.queue)⟩
  · rw [h.split, List.append_assoc]
  · rw [List.mem_append, not_or]
    exact ⟨h.clean, hb⟩

theorem Inv.handle {u : Uart} {taken : Bytes} (h : Inv u taken) (hq : u.queue ≠ 0)
    (hd : Drains u .handle) :
    Inv { u with
      buffered := u.buffered.drop (chunk u)
      queue := u.queue - 1
      calls := (uartEvent noteCall (u.calls, u.accumulator)
        (.data (u.buffered.take (chunk u)))).1
      accumulator := (uartEvent noteCall (u.calls, u.accumulator)
        (.data (u.buffered.take (chunk u)))).2 } (taken ++ u.buffered.take (chunk u)) := by
  have hclean : 0 ∉ u.buffered.take (chunk u) := by
    intro h0
    refine h.clean ?_
    rw [h.split]
    exact List.mem_append_right _ (List.mem_of_mem_take h0)
  rw [uartEvent_taken h hclean]
  refine ⟨?_, h.clean, rfl, rfl, fun h0 => ?_⟩
  · rw [List.append_assoc, List.take_append_drop]
    exact h.split
  · change u.queue - 1 = 0 at h0
    change semicolon ∉ u.buffered.drop (chunk u)
    rw [drop_chunk]
    exact hd (by omega)

theorem Inv.step {u u' : Uart} {taken : Bytes} {a : Action} (h : Inv u taken)
    (hs : UartDriver.step u a = some u') (hd : Drains u a) : ∃ taken, Inv u' taken := by
  cases a with
  | arrive batch =>
      rw [UartDriver.step] at hs
      split at hs
      · cases hs
      · cases hs
        exact ⟨taken, h.arrive hd⟩
  | handle =>
      rw [UartDriver.step] at hs
      split at hs
      · cases hs
      · rename_i hq
        cases hs
        exact ⟨_, h.handle hq hd⟩

/-- In a run without NUL bytes whose last queued events leave no semicolon in the
driver, no complete command is ever left waiting. -/
theorem noneWaiting_of_drains (t : List (Action × Uart))
    (h : Run (fun u a u' => step u a = some u') idle t) (hd : Guarded Drains idle t) :
    NoneWaiting idle ∧ ∀ x ∈ t, NoneWaiting x.2 := by
  have hi : Inv idle [] := ⟨rfl, by simp [idle], rfl, rfl, fun _ => by simp [idle]⟩
  have ht := h.invariant_of_guarded (fun u => ∃ taken, Inv u taken) ⟨[], hi⟩ hd
    fun u a u' ⟨taken, hu⟩ hs ha => hu.step hs ha
  exact ⟨hi.noneWaiting, fun x hx => (ht x hx).elim fun _ hx => hx.noneWaiting⟩

def burst : Bytes := (List.replicate 10 (text "FA00014074000;")).flatten

def drainedRun : List (Action × Uart) :=
  [(.arrive (text "FA00014074"), ⟨text "FA00014074", text "FA00014074", 1, [], []⟩),
    (.arrive (text "000;FA00007"),
      ⟨text "FA00014074000;FA00007", text "FA00014074000;FA00007", 2, [], []⟩),
    (.handle, ⟨text "FA00014074000;FA00007", [], 1, [.fa (text "00014074000")], text "FA00007"⟩),
    (.handle, ⟨text "FA00014074000;FA00007", [], 0, [.fa (text "00014074000")], text "FA00007"⟩)]

theorem drainedRun_run : Run (fun u a u' => step u a = some u') idle drainedRun := by
  have hread : uartEvent noteCall ([], []) (.data (text "FA00014074000;FA00007")) =
      ([.fa (text "00014074000")], text "FA00007") := by
    simp only [uartEvent, uartData, drain_eq]
    decide +kernel
  have hhandle : step ⟨text "FA00014074000;FA00007", text "FA00014074000;FA00007", 2, [], []⟩
      .handle = some ⟨text "FA00014074000;FA00007", [], 1, [.fa (text "00014074000")],
        text "FA00007"⟩ := by
    have hall : (text "FA00014074000;FA00007").take 21 = text "FA00014074000;FA00007" := by decide
    have hchunk : chunk ⟨text "FA00014074000;FA00007", text "FA00014074000;FA00007", 2, [], []⟩ =
        21 := by decide
    simp only [step, hchunk, hall, hread]
    rfl
  exact .cons rfl (.cons rfl (.cons hhandle (.cons rfl (.nil _))))

theorem noneWaiting_of_drains_two :
    NoneWaiting idle ∧ ∀ x ∈ drainedRun, NoneWaiting x.2 :=
  noneWaiting_of_drains drainedRun drainedRun_run (by
    simp only [drainedRun, Guarded, Drains, and_true]
    decide)

/-- Ten commands in one burst of 140 bytes: one event, one read of 127 bytes, and the
tenth command stays in the driver. -/
theorem noneWaiting_fails :
    ¬ ∀ t : List (Action × Uart), Run (fun u a u' => step u a = some u') idle t →
      ∀ x ∈ t, NoneWaiting x.2 := by
  intro h
  have hlen : burst.length = 140 := by decide +kernel
  have hfit : ¬ (burst = [] ∨ BUF_SIZE * 2 < idle.buffered.length + burst.length) := by
    decide +kernel
  have h₁ : step idle (.arrive burst) = some ⟨burst, burst, 1, [], []⟩ := by
    rw [step, if_neg hfit]
    rfl
  have h₂ : step ⟨burst, burst, 1, [], []⟩ .handle = some ⟨burst, burst.drop 127, 0,
      (uartEvent noteCall ([], []) (.data (burst.take 127))).1,
      (uartEvent noteCall ([], []) (.data (burst.take 127))).2⟩ := by
    rw [step, if_neg (by decide), chunk, hlen]
    rfl
  have hw :=
    (h _ (.cons h₁ (.cons h₂ (.nil _))) _ (List.mem_cons_of_mem _ List.mem_cons_self) rfl).1
  simp only [uartEvent, uartData, drain_eq] at hw
  have hlen := congrArg List.length hw
  revert hlen
  decide +kernel

end BandDecoder.UartDriver
