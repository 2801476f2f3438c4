import BandDecoder.Connections

namespace BandDecoder.Reconnects

open CStrings SwitchConfig Tcp Connections Runs

/-- What one call of `ensure_connected` meets: the socket's error, the outcomes of the
attempts and the ticks that each of them takes. -/
structure Meets where
  soError : Bool
  attempts : Fin 3 → ConnectScript
  lasting : Nat → Nat

structure Burst where
  start : Nat
  up : Bool

/-- `clock` counts the ticks since boot, of which the code sees the lowest 32 bits. The
bursts stand newest first; `inits` counts the calls of `init`, and `opened` the sockets
that these and the bursts created. -/
structure Link where
  client : TcpClient
  clock : Nat
  bursts : List Burst
  inits : Nat
  opened : Nat

def boot : Link := ⟨fresh, 0, [], 0, 0⟩

def script (e : Meets) (s : Link) : EnsureScript := ⟨e.soError, UInt32.ofNat s.clock, e.attempts⟩

def RETRY_DELAY_TICKS : Nat := 100

def INITIAL_RETRY_DELAY_TICKS : Nat := 20

def backoff (delay i : Nat) : Nat := if i = 0 then 0 else delay * 2 ^ i

def tries : List ConnectScript → TcpClient → Nat
  | [], _ => 0
  | k :: ks, c => 1 + match connectToServer k c with
    | (.ok, _) => 0
    | (_, c) => tries ks c

/-- The attempts of `init`; `errno` decides whether it closes the client in between. -/
def initTries : List (ConnectScript × Bool) → TcpClient → Nat
  | [], _ => 0
  | (k, reset) :: ks, c => 1 + match connectToServer k c with
    | (.ok, _) => 0
    | (_, c) => initTries ks (if reset then c else Tcp.close c)

def initOpens : List (ConnectScript × Bool) → TcpClient → Nat
  | [], _ => 0
  | (k, reset) :: ks, c => (if k.socket.isSome then 1 else 0) + match connectToServer k c with
    | (.ok, _) => 0
    | (_, c) => initOpens ks (if reset then c else Tcp.close c)

def burstTicks (delay : Nat) (lasting : Nat → Nat) (n : Nat) : Nat :=
  ((List.range n).map fun i => backoff delay i + lasting i).sum

def cooling (s : Link) : Prop :=
  UInt32.ofNat s.clock - s.client.lastReconnectAttempt < RECONNECT_COOLDOWN_TICKS

instance (s : Link) : Decidable (cooling s) := inferInstanceAs (Decidable (_ < _))

/-- `ensure_connected` on the link: nothing to do, or refused, or a burst. -/
def ensured (e : Meets) (s : Link) : EspErr × Link :=
  let (status, client) := ensureConnected (script e s) s.client
  let (up, c) := checkConnectionStatus e.soError s.client
  if up = true ∨ cooling s then (status, { s with client })
  else
    let c := { close c with lastReconnectAttempt := UInt32.ofNat s.clock }
    let ks := List.ofFn e.attempts
    (status,
      { s with
        client
        clock := s.clock + burstTicks RETRY_DELAY_TICKS e.lasting (tries ks c)
        bursts := ⟨s.clock, decide (status = .ok)⟩ :: s.bursts
        opened := s.opened + opens ks c })

def aimed (host : Bytes) (port : UInt16) (c : TcpClient) : TcpClient :=
  { (if c.sock.isSome then Tcp.close c else c) with host, port }

/-- `init` looks at no clock and keeps no cooldown. -/
def initialized (host : Bytes) (port : UInt16) (attempts : Fin 3 → ConnectScript × Bool)
    (lasting : Nat → Nat) (s : Link) : Link :=
  { s with
    client := (Tcp.init host port attempts s.client).2
    clock := s.clock + burstTicks INITIAL_RETRY_DELAY_TICKS lasting
      (initTries (List.ofFn attempts) (aimed host port s.client))
    inits := s.inits + 1
    opened := s.opened + initOpens (List.ofFn attempts) (aimed host port s.client) }

/-- The ticks that pass within `send`, `receive` and `verify` are passed apart. -/
inductive Call
  | ensure (e : Meets)
  | send (e : Meets) (sends : List SendResult) (message : Bytes)
  | receive (w : WaitScript) (size : Nat) (timeout : Int)
  | verify (v : VerifyScript)
  | init (host : Bytes) (port : UInt16) (attempts : Fin 3 → ConnectScript × Bool) (lasting : Nat → Nat)
  | close
  | pass (ticks : Nat)

def next (s : Link) : Call → Link
  | .ensure e => (ensured e s).2
  | .send e sends message =>
      let s' := if s.client.isConnected then s else (ensured e s).2
      { s' with client := (sendMessage ⟨script e s, sends⟩ message s.client).2.2 }
  | .receive w size timeout => { s with client := (receiveMessage w size timeout s.client).2.2 }
  | .verify v => { s with client := (verifyConnection v s.client).2 }
  | .init host port attempts lasting => initialized host port attempts lasting s
  | .close => { s with client := Tcp.close s.client }
  | .pass ticks => { s with clock := s.clock + ticks }

def Step (s : Link) (a : Call) (s' : Link) : Prop := s' = next s a

def last (s : Link) : Nat := (s.bursts.head?.map Burst.start).getD 0

def Spaced (gap : Nat) (starts : List Nat) : Prop :=
  starts.Pairwise fun later earlier => earlier + gap ≤ later

structure Inv (s : Link) : Prop where
  attempt : s.client.lastReconnectAttempt = UInt32.ofNat (last s)
  past : last s ≤ s.clock
  spaced : Spaced 500 (s.bursts.map Burst.start ++ [0])
  tired : ∀ b ∈ s.bursts.head?, b.up = false → b.start + 600 ≤ s.clock
  opened : s.opened ≤ 3 * (s.bursts.length + s.inits)

theorem Spaced.head_ge {gap a lo : Nat} {rest : List Nat} (h : Spaced gap (a :: rest))
    (hlo : ∀ x ∈ a :: rest, lo ≤ x) : rest.length * gap + lo ≤ a := by
  induction rest generalizing a with
  | nil => simpa using hlo a List.mem_cons_self
  | cons b rest ih =>
      obtain ⟨hab, hrest⟩ := List.pairwise_cons.mp h
      have hb := ih hrest fun x hx => hlo x (List.mem_cons_of_mem a hx)
      have hgap := hab b List.mem_cons_self
      rw [List.length_cons, Nat.succ_mul]
      omega

theorem Spaced.length_lt {gap : Nat} (hgap : 0 < gap) {starts : List Nat} (h : Spaced gap starts)
    {lo n : Nat} (hw : ∀ x ∈ starts, lo ≤ x ∧ x < lo + n) : starts.length * gap < n + gap := by
  cases starts with
  | nil =>
      rw [List.length_nil, Nat.zero_mul]
      omega
  | cons a rest =>
      have hge := h.head_ge fun x hx => (hw x hx).1
      have ha := (hw a List.mem_cons_self).2
      rw [List.length_cons, Nat.succ_mul]
      omega

theorem toNat_sub_ofNat {a b : Nat} (h : b ≤ a) :
    (UInt32.ofNat a - UInt32.ofNat b).toNat = (a - b) % 2 ^ 32 := by
  rw [UInt32.toNat_sub, UInt32.toNat_ofNat', UInt32.toNat_ofNat']
  omega

theorem cooling_iff {s : Link} (h : Inv s) : cooling s ↔ (s.clock - last s) % 2 ^ 32 < 500 := by
  rw [cooling, h.attempt, UInt32.lt_iff_toNat_lt, toNat_sub_ofNat h.past]
  rfl

def SameAttempt (c c' : TcpClient) : Prop := c'.lastReconnectAttempt = c.lastReconnectAttempt

theorem SameAttempt.trans {c₁ c₂ c₃ : TcpClient} (h : SameAttempt c₁ c₂) (h' : SameAttempt c₂ c₃) :
    SameAttempt c₁ c₃ := Eq.trans h' h

theorem verifyConnection_attempt (v : VerifyScript) (c : TcpClient) :
    SameAttempt c (verifyConnection v c).2 := by
  rw [verifyConnection]
  split
  · rfl
  · split
    · rfl
    · split
      · rfl
      · split <;> rfl

theorem connectToServer_attempt (k : ConnectScript) (c : TcpClient) :
    SameAttempt c (connectToServer k c).2 := by
  rw [connectToServer]
  split
  · rfl
  · dsimp only
    split
    · exact verifyConnection_attempt _ _
    · rfl
    · split
      · rfl
      · rfl
      · split
        · rfl
        · exact verifyConnection_attempt _ _

theorem checkConnectionStatus_attempt (soError : Bool) (c : TcpClient) :
    SameAttempt c (checkConnectionStatus soError c).2 := by
  rw [checkConnectionStatus]
  split
  · rfl
  · split <;> rfl

theorem reconnect_cons (k : ConnectScript) (ks : List ConnectScript) (c : TcpClient) :
    ((connectToServer k c).1 = .ok ∧ reconnect (k :: ks) c = connectToServer k c ∧
      opens (k :: ks) c ≤ 1) ∨
    (reconnect (k :: ks) c = reconnect ks (connectToServer k c).2 ∧
      tries (k :: ks) c = 1 + tries ks (connectToServer k c).2 ∧
      opens (k :: ks) c ≤ 1 + opens ks (connectToServer k c).2) := by
  have hone : (if k.socket.isSome then 1 else 0) ≤ 1 := by split <;> decide
  rw [reconnect, opens, tries]
  cases hr : connectToServer k c with
  | mk status c' =>
      cases status with
      | ok => exact Or.inl ⟨rfl, rfl, hone⟩
      | _ => exact Or.inr ⟨rfl, rfl, Nat.add_le_add_right hone _⟩

theorem reconnect_attempt (ks : List ConnectScript) (c : TcpClient) :
    SameAttempt c (reconnect ks c).2 := by
  induction ks generalizing c with
  | nil => rfl
  | cons k ks ih =>
      rcases reconnect_cons k ks c with ⟨-, hr, -⟩ | ⟨hr, -⟩
      · rw [hr]
        exact connectToServer_attempt k c
      · rw [hr]
        exact (connectToServer_attempt k c).trans (ih _)

theorem tries_of_failed {ks : List ConnectScript} {c : TcpClient} (h : (reconnect ks c).1 ≠ .ok) :
    tries ks c = ks.length := by
  induction ks generalizing c with
  | nil => rfl
  | cons k ks ih =>
      rcases reconnect_cons k ks c with ⟨hok, hr, -⟩ | ⟨hr, ht, -⟩
      · rw [hr] at h
        exact absurd hok h
      · rw [hr] at h
        rw [ht, ih h, List.length_cons, Nat.add_comm]

theorem opens_le (ks : List ConnectScript) (c : TcpClient) : opens ks c ≤ ks.length := by
  induction ks generalizing c with
  | nil => exact Nat.le_refl 0
  | cons k ks ih =>
      rw [List.length_cons]
      rcases reconnect_cons k ks c with ⟨-, -, ho⟩ | ⟨-, -, ho⟩
      · omega
      · have := ih (connectToServer k c).2
        omega

theorem reconnect_not_refused (ks : List ConnectScript) (c : TcpClient) :
    (reconnect ks c).1 ≠ .invalidState := by
  induction ks generalizing c with
  | nil => exact EspErr.noConfusion
  | cons k ks ih =>
      rcases reconnect_cons k ks c with ⟨hok, hr, -⟩ | ⟨hr, -⟩
      · rw [hr, hok]
        exact EspErr.noConfusion
      · rw [hr]
        exact ih _

theorem burstTicks_three (lasting : Nat → Nat) : 600 ≤ burstTicks RETRY_DELAY_TICKS lasting 3 := by
  have h : burstTicks RETRY_DELAY_TICKS lasting 3 =
      backoff RETRY_DELAY_TICKS 0 + lasting 0 + (backoff RETRY_DELAY_TICKS 1 + lasting 1 +
        (backoff RETRY_DELAY_TICKS 2 + lasting 2)) := rfl
  have h1 : backoff RETRY_DELAY_TICKS 1 = 200 := rfl
  have h2 : backoff RETRY_DELAY_TICKS 2 = 400 := rfl
  omega

theorem ensured_up {e : Meets} {s : Link} {c : TcpClient}
    (hc : checkConnectionStatus e.soError s.client = (true, c)) :
    ensured e s = (.ok, { s with client := c }) := by
  have he : ensureConnected (script e s) s.client = (.ok, c) := by
    rw [ensureConnected, script, hc]
  rw [ensured, he, hc]
  exact if_pos (Or.inl rfl)

section Down

variable {e : Meets} {s : Link} {c : TcpClient}
  (hc : checkConnectionStatus e.soError s.client = (false, c))

include hc

theorem ensureConnected_down : ensureConnected (script e s) s.client =
    if cooling s then (.invalidState, c)
    else reconnect (List.ofFn e.attempts) { Tcp.close c with lastReconnectAttempt := UInt32.ofNat s.clock } := by
  have hcheck := checkConnectionStatus_attempt e.soError s.client
  rw [hc] at hcheck
  have hlast : c.lastReconnectAttempt = s.client.lastReconnectAttempt := hcheck
  rw [ensureConnected, script, hc]
  dsimp only
  rw [hlast]
  rfl

theorem ensured_refused (hcool : cooling s) : ensured e s = (.invalidState, { s with client := c }) := by
  rw [ensured, ensureConnected_down hc, if_pos hcool, hc]
  exact if_pos (Or.inr hcool)

theorem ensured_burst (hcool : ¬ cooling s) {c' : TcpClient}
    (hc' : c' = { Tcp.close c with lastReconnectAttempt := UInt32.ofNat s.clock }) :
    ensured e s = ((reconnect (List.ofFn e.attempts) c').1,
      { s with
        client := (reconnect (List.ofFn e.attempts) c').2
        clock := s.clock + burstTicks RETRY_DELAY_TICKS e.lasting (tries (List.ofFn e.attempts) c')
        bursts := ⟨s.clock, decide ((reconnect (List.ofFn e.attempts) c').1 = .ok)⟩ :: s.bursts
        opened := s.opened + opens (List.ofFn e.attempts) c' }) := by
  rw [ensured, ensureConnected_down hc, if_neg hcool, hc, hc']
  exact if_neg (by simpa using hcool)

end Down

theorem ensured_cases (e : Meets) (s : Link) :
    (∃ client, SameAttempt s.client client ∧ (ensured e s).2 = { s with client } ∧
      ((ensured e s).1 = .invalidState → cooling s)) ∨
    (¬ cooling s ∧ (ensured e s).1 ≠ .invalidState ∧ ∃ client ticks opened,
      client.lastReconnectAttempt = UInt32.ofNat s.clock ∧ opened ≤ 3 ∧
      ((ensured e s).1 ≠ .ok → 600 ≤ ticks) ∧
      (ensured e s).2 = ⟨client, s.clock + ticks, ⟨s.clock, decide ((ensured e s).1 = .ok)⟩ :: s.bursts,
        s.inits, s.opened + opened⟩) := by
  have hcheck := checkConnectionStatus_attempt e.soError s.client
  cases hc : checkConnectionStatus e.soError s.client with
  | mk up c =>
      rw [hc] at hcheck
      cases up with
      | true =>
          rw [ensured_up hc]
          exact Or.inl ⟨c, hcheck, rfl, fun h => EspErr.noConfusion h⟩
      | false =>
          by_cases hcool : cooling s
          · rw [ensured_refused hc hcool]
            exact Or.inl ⟨c, hcheck, rfl, fun _ => hcool⟩
          · rw [ensured_burst hc hcool rfl]
            refine Or.inr ⟨hcool, reconnect_not_refused _ _, _, _, _, ?_, ?_, ?_, rfl⟩
            · exact reconnect_attempt _ _
            · simpa using opens_le (List.ofFn e.attempts) _
            · intro hf
              rw [tries_of_failed hf, List.length_ofFn]
              exact burstTicks_three e.lasting

theorem Inv.client {s : Link} (h : Inv s) {client : TcpClient} (hc : SameAttempt s.client client) :
    Inv { s with client } :=
  ⟨Eq.trans hc h.attempt, h.past, h.spaced, h.tired, h.opened⟩

theorem Inv.le_last {s : Link} (h : Inv s) : ∀ x ∈ s.bursts.map Burst.start ++ [0], x ≤ last s := by
  have hs := h.spaced
  rw [last]
  cases hb : s.bursts with
  | nil => simp
  | cons b rest =>
      rw [hb, List.map_cons, List.cons_append] at hs
      rw [List.map_cons, List.cons_append, List.forall_mem_cons]
      exact ⟨Nat.le_refl _, fun x hx => (Nat.le_add_right x 500).trans ((List.pairwise_cons.mp hs).1 x hx)⟩

theorem Inv.ensured {s : Link} (h : Inv s) (e : Meets) : Inv (ensured e s).2 := by
  rcases ensured_cases e s with ⟨client, hc, hr, -⟩ | ⟨hcool, -, client, ticks, opened, hl, ho, ht, hr⟩
  · rw [hr]
    exact h.client hc
  · rw [cooling_iff h] at hcool
    have hpast := h.past
    have hopened := h.opened
    have hmod := Nat.mod_le (s.clock - last s) (2 ^ 32)
    rw [hr]
    refine ⟨hl, Nat.le_add_right _ _, ?_, ?_, ?_⟩
    · refine List.pairwise_cons.mpr ⟨fun x hx => ?_, h.spaced⟩
      have hx' := h.le_last x hx
      dsimp only
      omega
    · intro b hb hup
      cases hb
      have := ht (of_decide_eq_false hup)
      dsimp only
      omega
    · rw [List.length_cons]
      dsimp only
      omega

theorem sendMessage_attempt (m : SendScript) (message : Bytes) (c : TcpClient) :
    SameAttempt (if c.isConnected then c else (ensureConnected m.ensure c).2)
      (sendMessage m message c).2.2 := by
  rw [sendMessage]
  cases c.isConnected with
  | true =>
      dsimp only
      rw [if_pos rfl, if_pos rfl]
      dsimp only
      split
      · rfl
      · split <;> rfl
  | false =>
      dsimp only
      rw [if_neg Bool.false_ne_true, if_neg Bool.false_ne_true]
      split
      · rfl
      · split <;> rfl

theorem ensured_client (e : Meets) (s : Link) :
    (ensured e s).2.client = (ensureConnected (script e s) s.client).2 := by
  rw [ensured]
  dsimp only
  split <;> rfl

theorem receiveMessage_attempt (w : WaitScript) (size : Nat) (timeout : Int) (c : TcpClient) :
    SameAttempt c (receiveMessage w size timeout c).2.2 := by
  rw [receiveMessage]
  split
  · rfl
  · dsimp only
    split <;> rfl

theorem initLoop_attempt (ks : List (ConnectScript × Bool)) (c : TcpClient) :
    SameAttempt c (initLoop ks c).2 := by
  induction ks generalizing c with
  | nil => rfl
  | cons k ks ih =>
      obtain ⟨k, reset⟩ := k
      have hc := connectToServer_attempt k c
      rw [initLoop]
      split
      · rename_i c' hr
        rw [hr] at hc
        exact hc
      · rename_i e c' _ hr
        rw [hr] at hc
        refine hc.trans (SameAttempt.trans ?_ (ih _))
        split <;> rfl

theorem init_attempt (host : Bytes) (port : UInt16) (attempts : Fin 3 → ConnectScript × Bool)
    (c : TcpClient) : SameAttempt c (Tcp.init host port attempts c).2 := by
  rw [Tcp.init]
  refine SameAttempt.trans ?_ (initLoop_attempt _ _)
  change (if c.sock.isSome then Tcp.close c else c).lastReconnectAttempt = c.lastReconnectAttempt
  split <;> rfl

theorem initOpens_le (ks : List (ConnectScript × Bool)) (c : TcpClient) :
    initOpens ks c ≤ ks.length := by
  induction ks generalizing c with
  | nil => exact Nat.le_refl 0
  | cons k ks ih =>
      obtain ⟨k, reset⟩ := k
      have hone : (if k.socket.isSome then 1 else 0) ≤ 1 := by split <;> decide
      rw [initOpens, List.length_cons, Nat.add_comm]
      refine Nat.add_le_add ?_ hone
      split
      · exact Nat.zero_le _
      · exact ih _

theorem Inv.later {s : Link} (h : Inv s) (ticks : Nat) : Inv { s with clock := s.clock + ticks } :=
  ⟨h.attempt, h.past.trans (Nat.le_add_right _ _), h.spaced,
    fun b hb hup => (h.tired b hb hup).trans (Nat.le_add_right _ _), h.opened⟩

theorem Inv.initialized {s : Link} (h : Inv s) (host : Bytes) (port : UInt16)
    (attempts : Fin 3 → ConnectScript × Bool) (lasting : Nat → Nat) :
    Inv (initialized host port attempts lasting s) := by
  have hlater := (h.client (init_attempt host port attempts s.client)).later
    (burstTicks INITIAL_RETRY_DELAY_TICKS lasting
      (initTries (List.ofFn attempts) (aimed host port s.client)))
  refine ⟨hlater.attempt, hlater.past, hlater.spaced, hlater.tired, ?_⟩
  have hle := initOpens_le (List.ofFn attempts) (aimed host port s.client)
  have hopened := h.opened
  rw [List.length_ofFn] at hle
  rw [Reconnects.initialized]
  dsimp only
  omega

theorem Inv.next {s : Link} (h : Inv s) (a : Call) : Inv (next s a) := by
  cases a with
  | ensure e => exact h.ensured e
  | send e sends message =>
      have hm := sendMessage_attempt ⟨script e s, sends⟩ message s.client
      rw [Reconnects.next]
      dsimp only at hm ⊢
      cases hc : s.client.isConnected with
      | true =>
          rw [hc, if_pos rfl] at hm
          rw [if_pos rfl]
          exact h.client hm
      | false =>
          rw [hc, if_neg Bool.false_ne_true, ← ensured_client] at hm
          rw [if_neg Bool.false_ne_true]
          exact (h.ensured e).client hm
  | receive w size timeout => exact h.client (receiveMessage_attempt w size timeout s.client)
  | verify v => exact h.client (verifyConnection_attempt v s.client)
  | init host port attempts lasting => exact h.initialized host port attempts lasting
  | close => exact h.client rfl
  | pass ticks => exact h.later ticks

/-- From boot on there were five seconds in front of each burst. -/
theorem Inv.length_le {s : Link} (h : Inv s) : s.bursts.length * 500 ≤ last s := by
  have hs := h.spaced
  rw [last]
  cases hb : s.bursts with
  | nil => exact Nat.le_of_eq (Nat.zero_mul 500)
  | cons b rest =>
      rw [hb, List.map_cons, List.cons_append] at hs
      have hge := hs.head_ge fun x _ => Nat.zero_le x
      simpa using hge

theorem cooling_of_refused {e : Meets} {s : Link} (h : (ensured e s).1 = .invalidState) :
    cooling s := by
  rcases ensured_cases e s with ⟨client, -, -, hr⟩ | ⟨-, hn, -⟩
  · exact hr h
  · exact absurd h hn

theorem inv_boot : Inv boot := by
  refine ⟨rfl, Nat.le_refl 0, List.pairwise_singleton _ _, fun b hb => ?_, Nat.le_refl 0⟩
  cases hb

def refusing : ConnectScript := ⟨some 54, .failed, .failed, false, ⟨true, none⟩⟩

end BandDecoder.Reconnects
