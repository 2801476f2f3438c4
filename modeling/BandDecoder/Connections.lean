import BandDecoder.Runs
import BandDecoder.Tcp

namespace BandDecoder.Connections

open CStrings SwitchConfig Tcp Runs

/-- One call of `send_message`: the connection it ended up with and how many bytes
`send` accepted there, `none` if there was no connection. -/
structure Sent where
  connection : Nat
  message : Bytes
  accepted : Option Nat
  status : EspErr

def Sent.bytes (e : Sent) : Bytes := e.message.take (e.accepted.getD 0)

def Sent.Partial (e : Sent) : Prop := e.bytes ≠ [] ∧ e.bytes ≠ e.message

/-- Connections are counted as their sockets are created; the descriptor does not tell
them apart. -/
structure Wire where
  client : TcpClient
  opened : Nat
  log : List Sent

def opens : List ConnectScript → TcpClient → Nat
  | [], _ => 0
  | k :: ks, c => (if k.socket.isSome then 1 else 0) + match connectToServer k c with
    | (.ok, _) => 0
    | (_, c) => opens ks c

def ensureOpens (e : EnsureScript) (c : TcpClient) : Nat :=
  match checkConnectionStatus e.soError c with
  | (true, _) => 0
  | (false, c) =>
      if e.now - c.lastReconnectAttempt < RECONNECT_COOLDOWN_TICKS then 0
      else opens (List.ofFn e.attempts) { close c with lastReconnectAttempt := e.now }

def reaches (m : SendScript) (c : TcpClient) : Bool :=
  c.isConnected || decide ((ensureConnected m.ensure c).1 = .ok)

inductive Op
  | send (m : SendScript) (message : Bytes)
  | receive (w : WaitScript) (size : Nat) (timeout : Int)
  | ensure (e : EnsureScript)
  | close

def next (s : Wire) : Op → Wire
  | .send m message =>
      let (status, accepted, client) := sendMessage m message s.client
      let opened := s.opened + if s.client.isConnected then 0 else ensureOpens m.ensure s.client
      ⟨client, opened, s.log ++
        [⟨opened, message, if reaches m s.client then some accepted else none, status⟩]⟩
  | .receive w size timeout => { s with client := (receiveMessage w size timeout s.client).2.2 }
  | .ensure e =>
      { s with client := (ensureConnected e s.client).2, opened := s.opened + ensureOpens e s.client }
  | .close => { s with client := Tcp.close s.client }

def on (k : Nat) (log : List Sent) : List Sent := log.filter fun e => decide (e.connection = k)

def stream (log : List Sent) : Bytes := (log.map Sent.bytes).flatten

/-- On each connection whole messages and at most one beginning of a message behind
them, nothing behind a broken message, and success for whole messages only. -/
structure Unglued (s : Wire) : Prop where
  framed : ∀ k, ∃ (whole : List Bytes) (tail : Bytes), stream (on k s.log) = whole.flatten ++ tail ∧
    whole.Sublist ((on k s.log).map Sent.message) ∧
    (tail = [] ∨ ∃ e ∈ on k s.log, tail <+: e.message ∧ tail ≠ [] ∧ tail ≠ e.message)
  broken : ∀ before e behind, s.log = before ++ e :: behind → e.status ≠ .ok → e.bytes ≠ [] →
    ∀ e' ∈ behind, e'.connection = e.connection → e'.bytes = []
  exact : ∀ e ∈ s.log, e.status = .ok ↔ e.accepted = some e.message.length

def isBlock : SendResult → Bool
  | .wouldBlock => true
  | _ => false

def isFailed : SendResult → Bool
  | .failed => true
  | _ => false

def amount : SendResult → Nat
  | .wrote n => n
  | _ => 0

def written (sends : List SendResult) : Nat := (sends.map amount).sum

/-- The second would-block comes with part of the message accepted. -/
def GivesUp (length : Nat) (sends : List SendResult) : Prop :=
  ∃ before behind, sends = before ++ .wouldBlock :: behind ∧ before.countP isBlock = 1 ∧
    (∀ r ∈ before, isFailed r = false) ∧ 0 < written before ∧ written before < length

def Finishes (s : Wire) : Op → Prop
  | .send m message => reaches m s.client = true → ¬ GivesUp message.length m.sends
  | _ => True

@[simp] theorem amount_wouldBlock : amount .wouldBlock = 0 := rfl

@[simp] theorem amount_wrote (n : Nat) : amount (.wrote n) = n := rfl

@[simp] theorem written_cons (r : SendResult) (rs : List SendResult) :
    written (r :: rs) = amount r + written rs := by
  simp [written]

theorem not_givesUp_of_countP {length : Nat} {sends : List SendResult}
    (h : sends.countP isBlock ≤ 1) : ¬ GivesUp length sends := by
  rintro ⟨before, behind, rfl, hc, -⟩
  rw [List.countP_append, hc, List.countP_cons_of_pos rfl] at h
  omega

theorem sendLoop_done {length : Nat} {rs : List SendResult} {total retry : Nat}
    (h : ¬ (total < length ∧ retry < 2)) : sendLoop length rs total retry = (total, false) := by
  cases rs with
  | nil => rw [sendLoop, decide_eq_false h]
  | cons r rs => exact if_neg h

theorem sendLoop_wouldBlock {length total retry : Nat} (h : total < length ∧ retry < 2)
    (rs : List SendResult) :
    sendLoop length (.wouldBlock :: rs) total retry = sendLoop length rs total (retry + 1) :=
  if_pos h

theorem sendLoop_failed {length total retry : Nat} (h : total < length ∧ retry < 2)
    (rs : List SendResult) : sendLoop length (.failed :: rs) total retry = (total, true) :=
  if_pos h

theorem sendLoop_wrote {length total retry : Nat} (h : total < length ∧ retry < 2) (n : Nat)
    (rs : List SendResult) :
    sendLoop length (.wrote n :: rs) total retry =
      sendLoop length rs (total + min n (length - total)) retry :=
  if_pos h

theorem sendLoop_bound {length : Nat} {rs : List SendResult} {total retry : Nat}
    (h : total ≤ length) : (sendLoop length rs total retry).1 ≤ length ∧
      ((sendLoop length rs total retry).2 = true → (sendLoop length rs total retry).1 < length) := by
  induction rs generalizing total retry with
  | nil => exact ⟨h, fun hh => (of_decide_eq_true hh).1⟩
  | cons r rs ih =>
      by_cases hgo : total < length ∧ retry < 2
      · cases r with
        | wouldBlock =>
            rw [sendLoop_wouldBlock hgo]
            exact ih h
        | failed =>
            rw [sendLoop_failed hgo]
            exact ⟨h, fun _ => hgo.1⟩
        | wrote n =>
            rw [sendLoop_wrote hgo]
            exact ih (by omega)
      · rw [sendLoop_done hgo]
        exact ⟨h, fun hh => Bool.noConfusion hh⟩

/-- The loop leaves a message unfinished without an error exactly behind its second
would-block. -/
theorem sendLoop_gaveUp {length : Nat} {rs : List SendResult} {total retry t : Nat}
    (hr : retry < 2) (h : sendLoop length rs total retry = (t, false)) (ht : t < length) :
    ∃ before behind, rs = before ++ .wouldBlock :: behind ∧ before.countP isBlock + retry = 1 ∧
      (∀ r ∈ before, isFailed r = false) ∧ t = total + written before := by
  induction rs generalizing total retry with
  | nil =>
      obtain ⟨rfl, hd⟩ := Prod.mk.inj h
      have := of_decide_eq_false hd
      omega
  | cons r rs ih =>
      by_cases hgo : total < length ∧ retry < 2
      · cases r with
        | failed =>
            rw [sendLoop_failed hgo] at h
            cases h
        | wouldBlock =>
            rw [sendLoop_wouldBlock hgo] at h
            by_cases h1 : retry = 1
            · subst h1
              rw [sendLoop_done (by omega)] at h
              cases h
              exact ⟨[], rs, rfl, rfl, by simp, rfl⟩
            · obtain ⟨before, behind, rfl, hc, hf, he⟩ := ih (by omega) h
              refine ⟨.wouldBlock :: before, behind, rfl, ?_, ?_, ?_⟩
              · rw [List.countP_cons_of_pos rfl]
                omega
              · simpa [isFailed] using hf
              · rw [written_cons, amount_wouldBlock, he]
                omega
        | wrote n =>
            rw [sendLoop_wrote hgo] at h
            obtain ⟨before, behind, rfl, hc, hf, he⟩ := ih hr h
            refine ⟨.wrote n :: before, behind, rfl, ?_, ?_, ?_⟩
            · rw [List.countP_cons_of_neg (by simp [isBlock])]
              exact hc
            · simpa [isFailed] using hf
            · rw [written_cons, amount_wrote]
              omega
      · rw [sendLoop_done hgo] at h
        cases h
        omega

theorem sendLoop_of_gaveUp {length : Nat} {before behind : List SendResult} {total retry : Nat}
    (hc : before.countP isBlock + retry = 1) (hf : ∀ r ∈ before, isFailed r = false)
    (ht : total + written before < length) :
    sendLoop length (before ++ .wouldBlock :: behind) total retry =
      (total + written before, false) := by
  induction before generalizing total retry with
  | nil =>
      have h1 : retry = 1 := by simpa using hc
      have hlt : total < length := by omega
      rw [List.nil_append, sendLoop_wouldBlock ⟨hlt, by omega⟩, sendLoop_done (by omega)]
      rfl
  | cons r before ih =>
      have hf' := fun r' hr' => hf r' (List.mem_cons_of_mem r hr')
      rw [written_cons] at ht ⊢
      have hlt : total < length := by omega
      cases r with
      | failed => exact absurd (hf _ List.mem_cons_self) (by decide)
      | wouldBlock =>
          rw [List.countP_cons_of_pos rfl] at hc
          rw [amount_wouldBlock, Nat.zero_add] at ht ⊢
          rw [List.cons_append, sendLoop_wouldBlock ⟨hlt, by omega⟩]
          exact ih (by omega) hf' ht
      | wrote n =>
          rw [List.countP_cons_of_neg (by simp [isBlock])] at hc
          rw [amount_wrote] at ht ⊢
          have hmin : min n (length - total) = n := by omega
          rw [List.cons_append, sendLoop_wrote ⟨hlt, by omega⟩, hmin, ← Nat.add_assoc]
          exact ih hc hf' (by omega)

theorem connectToServer_ok {k : ConnectScript} {c : TcpClient} (h : (connectToServer k c).1 = .ok) :
    k.socket.isSome = true := by
  rw [connectToServer] at h
  cases hs : k.socket with
  | none =>
      rw [hs] at h
      cases h
  | some fd => rfl

theorem verifyConnection_connected_iff (v : VerifyScript) (c : TcpClient) :
    (verifyConnection v c).2.isConnected = true ↔ (verifyConnection v c).1 = .ok := by
  have hfail : EspErr.fail ≠ .ok := by decide
  rw [verifyConnection]
  cases hc : c.isConnected with
  | false => exact iff_of_false (by simp [hc]) hfail
  | true =>
      rw [if_neg (by simp)]
      split
      · exact iff_of_false Bool.false_ne_true hfail
      · cases v.reply with
        | none => exact iff_of_false Bool.false_ne_true hfail
        | some reply =>
            dsimp only
            split
            · exact iff_of_true hc rfl
            · exact iff_of_false Bool.false_ne_true hfail

theorem connectToServer_connected_iff (k : ConnectScript) {c : TcpClient}
    (hc : c.isConnected = false) :
    (connectToServer k c).2.isConnected = true ↔ (connectToServer k c).1 = .ok := by
  have hfail : EspErr.fail ≠ .ok := by decide
  rw [connectToServer]
  cases k.socket with
  | none => exact iff_of_false (by simp [hc]) hfail
  | some fd =>
      cases k.connect with
      | done => exact verifyConnection_connected_iff _ _
      | failed => exact iff_of_false Bool.false_ne_true hfail
      | inProgress =>
          cases k.select with
          | timedOut =>
              have htimeout : EspErr.timeout ≠ .ok := by decide
              exact iff_of_false Bool.false_ne_true htimeout
          | failed => exact iff_of_false Bool.false_ne_true hfail
          | ready =>
              dsimp only
              split
              · exact iff_of_false Bool.false_ne_true hfail
              · exact verifyConnection_connected_iff _ _

/-- Attempts to reconnect end with a new socket or with none in use. -/
theorem reconnect_spec (ks : List ConnectScript) {c : TcpClient} (hc : c.isConnected = false) :
    ((reconnect ks c).2.isConnected = true ↔ (reconnect ks c).1 = .ok) ∧
      ((reconnect ks c).1 = .ok → 0 < opens ks c) := by
  induction ks generalizing c with
  | nil =>
      have hfail : EspErr.fail ≠ .ok := by decide
      exact ⟨iff_of_false (by simp [reconnect, hc]) hfail, fun h => absurd h hfail⟩
  | cons k ks ih =>
      have hcon := connectToServer_connected_iff k hc
      cases hr : connectToServer k c with
      | mk status c' =>
          rw [hr] at hcon
          dsimp only at hcon
          by_cases hok : status = .ok
          · subst hok
            have hs := connectToServer_ok (k := k) (c := c) (by rw [hr])
            rw [reconnect, hr, opens, if_pos hs]
            exact ⟨hcon, fun _ => by omega⟩
          · have hc' : c'.isConnected = false := by simpa using mt hcon.mp hok
            have hrec : reconnect (k :: ks) c = reconnect ks c' := by
              rw [reconnect, hr]
              cases status <;> first | rfl | exact absurd rfl hok
            have hopens : opens ks c' ≤ opens (k :: ks) c := by
              rw [opens, hr]
              cases status <;> first | exact Nat.le_add_left _ _ | exact absurd rfl hok
            rw [hrec]
            exact ⟨(ih hc').1, fun h => ((ih hc').2 h).trans_le hopens⟩

theorem checkConnectionStatus_isConnected {soError up : Bool} {c c' : TcpClient}
    (h : checkConnectionStatus soError c = (up, c')) :
    (up = true → c'.isConnected = true) ∧ (c'.isConnected = true → c.isConnected = true) := by
  rw [checkConnectionStatus] at h
  split at h
  · cases h
    exact ⟨fun h => Bool.noConfusion h, id⟩
  · rename_i hn
    simp only [Bool.or_eq_true, Bool.not_eq_true', not_or, Bool.not_eq_false] at hn
    split at h
    · cases h
      exact ⟨fun h => Bool.noConfusion h, fun _ => hn.1⟩
    · cases h
      exact ⟨fun _ => hn.1, id⟩

/-- `ensure_connected` hands out a new connection, or leaves a lost one lost. -/
theorem ensureConnected_spec (e : EnsureScript) (c : TcpClient) :
    ((ensureConnected e c).1 = .ok → (ensureConnected e c).2.isConnected = true) ∧
      ((ensureConnected e c).2.isConnected = true → 0 < ensureOpens e c ∨ c.isConnected = true) := by
  rw [ensureConnected, ensureOpens]
  cases h : checkConnectionStatus e.soError c with
  | mk up c' =>
      obtain ⟨hup, hback⟩ := checkConnectionStatus_isConnected h
      cases up with
      | true => exact ⟨fun _ => hup rfl, fun hc => Or.inr (hback hc)⟩
      | false =>
          dsimp only
          split
          · exact ⟨fun h => EspErr.noConfusion h, fun hc => Or.inr (hback hc)⟩
          · obtain ⟨hcon, ho⟩ := reconnect_spec (List.ofFn e.attempts)
              (c := { close c' with lastReconnectAttempt := e.now }) rfl
            exact ⟨hcon.mpr, fun hc => Or.inl (ho (hcon.mp hc))⟩

def linked (m : SendScript) (c : TcpClient) : TcpClient :=
  if c.isConnected then c else (ensureConnected m.ensure c).2

theorem linked_isConnected {m : SendScript} {c : TcpClient} (h : reaches m c = true) :
    (linked m c).isConnected = true := by
  rw [linked]
  by_cases hc : c.isConnected = true
  · rw [if_pos hc]
    exact hc
  · rw [reaches, Bool.or_eq_true, decide_eq_true_eq] at h
    rw [if_neg hc]
    exact (ensureConnected_spec m.ensure c).1 (h.resolve_left hc)

theorem sendMessage_unreached {m : SendScript} {c : TcpClient} (h : reaches m c = false)
    (message : Bytes) : (sendMessage m message c).1 ≠ .ok ∧ (sendMessage m message c).2.2 = linked m c := by
  rw [reaches, Bool.or_eq_false_iff, decide_eq_false_iff_not] at h
  obtain ⟨hc, he⟩ := h
  rw [sendMessage, linked, if_neg (by simp [hc]), if_neg (by simp [hc])]
  dsimp only
  rw [if_pos he]
  exact ⟨he, rfl⟩

theorem sendMessage_reached {m : SendScript} {c : TcpClient} (h : reaches m c = true)
    (message : Bytes) :
    sendMessage m message c =
      match sendLoop message.length m.sends 0 0 with
      | (total, true) => (.fail, total, { linked m c with isConnected := false })
      | (total, false) => (if total = message.length then .ok else .fail, total, linked m c) := by
  rw [sendMessage, linked]
  by_cases hc : c.isConnected = true
  · rw [if_pos hc, if_pos hc]
    rfl
  · rw [reaches, Bool.or_eq_true, decide_eq_true_eq] at h
    have he := h.resolve_left hc
    rw [if_neg hc, if_neg hc]
    exact if_neg (not_not.mpr he)

theorem sendMessage_outcome {m : SendScript} {c : TcpClient} (h : reaches m c = true)
    (message : Bytes) :
    (sendMessage m message c).2.1 ≤ message.length ∧
      ((sendMessage m message c).1 = .ok ↔ (sendMessage m message c).2.1 = message.length) ∧
      ((sendMessage m message c).2.2.isConnected = true → (linked m c).isConnected = true) ∧
      (¬ GivesUp message.length m.sends → 0 < (sendMessage m message c).2.1 →
        (sendMessage m message c).2.1 < message.length →
        (sendMessage m message c).2.2.isConnected = false) := by
  rw [sendMessage_reached h]
  have hb := @sendLoop_bound message.length m.sends 0 0 (Nat.zero_le _)
  cases hl : sendLoop message.length m.sends 0 0 with
  | mk total hard =>
      rw [hl] at hb
      dsimp only at hb
      cases hard with
      | true =>
          have hlt := hb.2 rfl
          have hfail : EspErr.fail ≠ .ok := by decide
          refine ⟨hb.1, iff_of_false hfail (Nat.ne_of_lt hlt), ?_, fun _ _ _ => rfl⟩
          intro hf
          exact Bool.noConfusion hf
      | false =>
          refine ⟨hb.1, ?_, id, ?_⟩
          · dsimp only
            by_cases he : total = message.length
            · rw [if_pos he]
              exact iff_of_true rfl he
            · have hfail : EspErr.fail ≠ .ok := by decide
              rw [if_neg he]
              exact iff_of_false hfail he
          · intro hg hpos hlt
            obtain ⟨before, behind, hs, hc, hf, ht⟩ := sendLoop_gaveUp (by decide) hl hlt
            rw [Nat.zero_add] at ht
            dsimp only at hpos hlt
            exact absurd ⟨before, behind, hs, hc, hf, by omega, by omega⟩ hg

structure Inv (s : Wire) : Prop where
  past : ∀ e ∈ s.log, e.connection ≤ s.opened
  bounded : ∀ e ∈ s.log, e.accepted.getD 0 ≤ e.message.length
  exact : ∀ e ∈ s.log, e.status = .ok ↔ e.accepted = some e.message.length
  single : s.log.Pairwise fun e e' => e.connection = e'.connection → e.Partial → e'.bytes = []
  down : ∀ e ∈ s.log, e.connection = s.opened → e.Partial → s.client.isConnected = false

theorem inv_start (c : TcpClient) (n : Nat) : Inv ⟨c, n, []⟩ :=
  ⟨by simp, by simp, by simp, .nil, by simp⟩

theorem Inv.relink {s : Wire} (h : Inv s) {c : TcpClient} {k : Nat}
    (hc : c.isConnected = true → 0 < k ∨ s.client.isConnected = true) :
    Inv ⟨c, s.opened + k, s.log⟩ := by
  refine ⟨fun e he => ?_, h.bounded, h.exact, h.single, ?_⟩
  · exact (h.past e he).trans (Nat.le_add_right _ _)
  · intro e he hk hp
    have hpast := h.past e he
    dsimp only at hk
    apply Bool.eq_false_iff.mpr
    intro hon
    rcases hc hon with hpos | hcon
    · omega
    · exact Bool.eq_false_iff.mp (h.down e he (by omega) hp) hcon

theorem Inv.linked {s : Wire} (h : Inv s) (m : SendScript) :
    Inv ⟨Connections.linked m s.client,
      s.opened + if s.client.isConnected then 0 else ensureOpens m.ensure s.client, s.log⟩ := by
  apply h.relink
  rw [Connections.linked]
  by_cases hc : s.client.isConnected = true
  · rw [if_pos hc, if_pos hc]
    exact Or.inr
  · rw [if_neg hc, if_neg hc]
    exact (ensureConnected_spec m.ensure s.client).2

theorem Inv.record {s : Wire} (h : Inv s) {e : Sent} (hcon : e.connection = s.opened)
    (hb : e.accepted.getD 0 ≤ e.message.length)
    (hexact : e.status = .ok ↔ e.accepted = some e.message.length)
    (hup : e.bytes ≠ [] → s.client.isConnected = true) {c : TcpClient}
    (hc : c.isConnected = true → s.client.isConnected = true)
    (hdown : e.Partial → c.isConnected = false) : Inv ⟨c, s.opened, s.log ++ [e]⟩ := by
  have hmem {e' : Sent} (he : e' ∈ s.log ++ [e]) : e' ∈ s.log ∨ e' = e := by simpa using he
  have hoff {e' : Sent} (he : e' ∈ s.log) (hk : e'.connection = s.opened) (hp : e'.Partial) :
      ¬ s.client.isConnected = true := Bool.eq_false_iff.mp (h.down e' he hk hp)
  refine ⟨fun e' he => ?_, fun e' he => ?_, fun e' he => ?_, ?_, fun e' he hk hp => ?_⟩
  · rcases hmem he with he | rfl
    · exact h.past e' he
    · exact hcon.le
  · rcases hmem he with he | rfl
    · exact h.bounded e' he
    · exact hb
  · rcases hmem he with he | rfl
    · exact h.exact e' he
    · exact hexact
  · rw [List.pairwise_append]
    refine ⟨h.single, List.pairwise_singleton _ _, ?_⟩
    intro e' he' e'' he'' hk hp
    rw [List.mem_singleton] at he''
    subst he''
    by_contra hne
    exact hoff he' (hk.trans hcon) hp (hup hne)
  · rcases hmem he with he | rfl
    · exact Bool.eq_false_iff.mpr fun hon => hoff he hk hp (hc hon)
    · exact hdown hp

theorem bytes_eq_nil_iff {e : Sent} (h : e.accepted.getD 0 ≤ e.message.length) :
    e.bytes = [] ↔ e.accepted.getD 0 = 0 := by
  rw [← List.length_eq_zero_iff, Sent.bytes, List.length_take, Nat.min_eq_left h]

theorem bytes_eq_message_iff {e : Sent} (h : e.accepted.getD 0 ≤ e.message.length) :
    e.bytes = e.message ↔ e.accepted.getD 0 = e.message.length := by
  rw [Sent.bytes]
  constructor
  · intro he
    have hl := congrArg List.length he
    rwa [List.length_take, Nat.min_eq_left h] at hl
  · intro he
    rw [he, List.take_length]

theorem partial_iff {e : Sent} (h : e.accepted.getD 0 ≤ e.message.length) :
    e.Partial ↔ 0 < e.accepted.getD 0 ∧ e.accepted.getD 0 < e.message.length := by
  rw [Sent.Partial, ne_eq, ne_eq, bytes_eq_nil_iff h, bytes_eq_message_iff h]
  omega

theorem Inv.send {s : Wire} (h : Inv s) {m : SendScript} {message : Bytes}
    (hf : reaches m s.client = true → ¬ GivesUp message.length m.sends) :
    Inv (next s (.send m message)) := by
  have hlink := h.linked m
  rw [next]
  dsimp only
  cases hr : reaches m s.client with
  | false =>
      obtain ⟨hstatus, hclient⟩ := sendMessage_unreached hr message
      have hnil {k : Nat} {e : EspErr} : (Sent.mk k message none e).bytes = [] := by
        simp [Sent.bytes]
      rw [hclient]
      refine hlink.record rfl (Nat.zero_le _) (iff_of_false hstatus (by simp)) ?_ id ?_
      · intro hne
        exact absurd hnil hne
      · intro hp
        exact absurd hnil hp.1
  | true =>
      obtain ⟨hb, hok, hkeep, hbroken⟩ := sendMessage_outcome hr message
      rw [if_pos rfl]
      refine hlink.record rfl ?_ ?_ (fun _ => linked_isConnected hr) hkeep ?_
      · exact hb
      · rw [Option.some_inj]
        exact hok
      · intro hp
        obtain ⟨hpos, hlt⟩ := (partial_iff (by exact hb)).mp hp
        exact hbroken (hf hr) hpos hlt

theorem receiveMessage_isConnected (w : WaitScript) (size : Nat) (timeout : Int) (c : TcpClient)
    (h : (receiveMessage w size timeout c).2.2.isConnected = true) : c.isConnected = true := by
  rw [receiveMessage] at h
  split at h
  · exact h
  · dsimp only at h
    split at h
    · cases h
    · exact h

theorem Inv.step {s : Wire} (h : Inv s) {op : Op} (hf : Finishes s op) : Inv (next s op) := by
  cases op with
  | send m message => exact h.send hf
  | receive w size timeout =>
      exact h.relink (k := 0) fun hc =>
        Or.inr (receiveMessage_isConnected w size timeout s.client hc)
  | ensure e => exact h.relink (ensureConnected_spec e s.client).2
  | close => exact h.relink (k := 0) fun hc => Bool.noConfusion hc

theorem framed_of_pairwise {log : List Sent}
    (h : log.Pairwise fun e e' => e.Partial → e'.bytes = []) :
    ∃ (whole : List Bytes) (tail : Bytes), stream log = whole.flatten ++ tail ∧
      whole.Sublist (log.map Sent.message) ∧
      (tail = [] ∨ ∃ e ∈ log, tail <+: e.message ∧ tail ≠ [] ∧ tail ≠ e.message) := by
  induction log with
  | nil => exact ⟨[], [], rfl, .slnil, Or.inl rfl⟩
  | cons e log ih =>
      obtain ⟨hhead, htail⟩ := List.pairwise_cons.mp h
      have hstream : stream (e :: log) = e.bytes ++ stream log := by simp [stream]
      by_cases hp : e.Partial
      · have hnil : stream log = [] := by
          rw [stream, List.flatten_eq_nil_iff]
          intro bytes hb
          obtain ⟨e', he', rfl⟩ := List.mem_map.mp hb
          exact hhead e' he' hp
        refine ⟨[], e.bytes, ?_, List.nil_sublist _, Or.inr ⟨e, List.mem_cons_self, ?_, hp⟩⟩
        · rw [hstream, hnil, List.append_nil]
          rfl
        · exact List.take_prefix _ _
      · obtain ⟨whole, tail, hs, hsub, hrest⟩ := ih htail
        have hrest' : tail = [] ∨ ∃ e' ∈ e :: log, tail <+: e'.message ∧ tail ≠ [] ∧
            tail ≠ e'.message := by
          rcases hrest with hn | ⟨e', he', ht⟩
          · exact Or.inl hn
          · exact Or.inr ⟨e', List.mem_cons_of_mem _ he', ht⟩
        by_cases hn : e.bytes = []
        · refine ⟨whole, tail, ?_, hsub.cons _, hrest'⟩
          rw [hstream, hn, hs, List.nil_append]
        · have hm : e.bytes = e.message := by
            by_contra hm
            exact hp ⟨hn, hm⟩
          refine ⟨e.message :: whole, tail, ?_, hsub.cons_cons _, hrest'⟩
          rw [hstream, hm, hs, List.flatten_cons, List.append_assoc]

theorem Inv.unglued {s : Wire} (h : Inv s) : Unglued s := by
  refine ⟨fun k => ?_, ?_, h.exact⟩
  · apply framed_of_pairwise
    refine (h.single.filter _).imp_of_mem ?_
    intro e e' he he' hpair
    have hk := of_decide_eq_true (List.mem_filter.mp he).2
    have hk' := of_decide_eq_true (List.mem_filter.mp he').2
    exact hpair (hk.trans hk'.symm)
  · intro before e behind hlog hstatus hne e' he' hk
    have hmem : e ∈ s.log := by
      rw [hlog]
      exact List.mem_append_right _ List.mem_cons_self
    have hp : e.Partial := by
      refine ⟨hne, fun hm => hstatus ((h.exact e hmem).mpr ?_)⟩
      have hb := h.bounded e hmem
      have hfull := (bytes_eq_message_iff hb).mp hm
      have hpos := mt (bytes_eq_nil_iff hb).mpr hne
      cases ha : e.accepted with
      | none =>
          rw [ha] at hpos
          exact absurd rfl hpos
      | some n =>
          rw [ha] at hfull
          exact congrArg some hfull
    have hpair := h.single
    rw [hlog, List.pairwise_append] at hpair
    exact (List.pairwise_cons.mp hpair.2.1).1 e' he' hk.symm hp

theorem next_send_reached {s : Wire} {m : SendScript} (h : reaches m s.client = true)
    (message : Bytes) :
    next s (.send m message) =
      ⟨(sendMessage m message s.client).2.2,
        s.opened + if s.client.isConnected then 0 else ensureOpens m.ensure s.client,
        s.log ++ [⟨s.opened + if s.client.isConnected then 0 else ensureOpens m.ensure s.client,
          message, some (sendMessage m message s.client).2.1, (sendMessage m message s.client).1⟩]⟩ := by
  rw [next, h]
  rfl

/-- The connection a message was given up on stays in use, and the next message that is
written is glued to what is there. -/
theorem glued_of_givesUp {s : Wire} {m : SendScript} {message : Bytes}
    (hr : reaches m s.client = true) (hg : GivesUp message.length m.sends) :
    ∃ op, ¬ Unglued (next (next s (.send m message)) op) := by
  obtain ⟨before, behind, hs, hc, hf, hpos, hlt⟩ := hg
  have hloop : sendLoop message.length m.sends 0 0 = (written before, false) := by
    rw [hs, sendLoop_of_gaveUp hc hf (by omega), Nat.zero_add]
  have hsend : sendMessage m message s.client = (.fail, written before, linked m s.client) := by
    rw [sendMessage_reached hr, hloop]
    dsimp only
    rw [if_neg hlt.ne]
  have hcon := linked_isConnected hr
  refine ⟨.send ⟨m.ensure, [.wrote 1]⟩ [0], fun h => ?_⟩
  rw [next_send_reached hr, hsend] at h
  have hr' : reaches ⟨m.ensure, [.wrote 1]⟩ (linked m s.client) = true := by
    rw [reaches, hcon]
    rfl
  have hnext : sendMessage ⟨m.ensure, [.wrote 1]⟩ [0] (linked m s.client) =
      (.ok, 1, linked ⟨m.ensure, [.wrote 1]⟩ (linked m s.client)) := sendMessage_reached hr' [0]
  rw [next_send_reached hr', hnext] at h
  dsimp only at h
  have hbytes := h.broken s.log _ _ (List.append_assoc _ _ _) (fun hok => EspErr.noConfusion hok)
    ?_ _ List.mem_cons_self ?_
  · cases hbytes
  · intro hn
    have hzero := (bytes_eq_nil_iff (by exact hlt.le)).mp hn
    exact hpos.ne' hzero
  · rw [hcon]
    rfl

/-- As long as every message that reaches a connection is finished or ends with an
error of `send`, no message is glued to a broken one. -/
theorem unglued_of_finishes (c : TcpClient) (n : Nat) {t : List (Op × Wire)}
    (hr : Run (fun s op s' => s' = next s op) ⟨c, n, []⟩ t)
    (hg : Guarded Finishes ⟨c, n, []⟩ t) : ∀ x ∈ t, Unglued x.2 := by
  intro x hx
  refine (hr.invariant_of_guarded Inv (inv_start c n) hg ?_ x hx).unglued
  rintro s op _ hs rfl hf
  exact hs.step hf

def query : Bytes := text "RELAY-STATE-255\n"

def sendingAt (now : UInt32) (sends : List SendResult) : SendScript :=
  ⟨⟨false, now, fun _ => ⟨some 54, .done, .ready, false, ⟨false, some (text "OK")⟩⟩⟩, sends⟩

def sending (sends : List SendResult) : SendScript := sendingAt 1000 sends

/-- An error ends the first query behind five bytes; the second goes over a connection
of its own, in two pieces. -/
theorem unglued_of_finishes_pieces :
    let s := next ⟨fresh, 0, []⟩ (.send (sending [.wrote 5, .failed]) query)
    let s' := next s (.send (sendingAt 2000 [.wrote 5, .wouldBlock, .wrote 11]) query)
    Unglued s ∧ Unglued s' ∧ stream (on 1 s'.log) = text "RELAY" ∧ stream (on 2 s'.log) = query := by
  intro s s'
  have hr : Run (fun s op s' => s' = next s op) ⟨fresh, 0, []⟩
      [(.send (sending [.wrote 5, .failed]) query, s),
        (.send (sendingAt 2000 [.wrote 5, .wouldBlock, .wrote 11]) query, s')] :=
    .cons rfl (.cons rfl (.nil _))
  have hfails : ¬ GivesUp query.length [.wrote 5, .failed] := not_givesUp_of_countP (by decide)
  have hpieces : ¬ GivesUp query.length [.wrote 5, .wouldBlock, .wrote 11] :=
    not_givesUp_of_countP (by decide)
  have h := unglued_of_finishes fresh 0 hr ⟨fun _ => hfails, fun _ => hpieces, trivial⟩
  rw [List.forall_mem_cons, List.forall_mem_singleton] at h
  exact ⟨h.1, h.2, by decide +kernel, by decide +kernel⟩

/-- Five bytes of a query, then two would-blocks; the next query follows them. -/
theorem unglued_fails : ∃ op op', ¬ Unglued (next (next ⟨fresh, 0, []⟩ op) op') ∧
    stream (on 1 (next (next ⟨fresh, 0, []⟩ op) op').log) = text "RELAYRELAY-STATE-255\n" := by
  refine ⟨.send (sending [.wrote 5, .wouldBlock, .wouldBlock]) query, .send (sending [.wrote 16])
    query, fun h => ?_, by decide⟩
  exact absurd (h.broken [] _ _ rfl (by decide) (by decide) _ List.mem_cons_self rfl) (by decide)

end BandDecoder.Connections
