import BandDecoder.Tcp

namespace BandDecoder.Descriptors

open CStrings SwitchConfig Tcp

/-- What the client does at a moment: a call on the socket interface with the
descriptor it names (`none` is -1), a return of `connect_to_server`, or a return to
its caller. -/
inductive Call
  | socket
  | use (fd : Option Nat)
  | close (fd : Nat)
  | connected (status : EspErr)
  | returned

structure Moment where
  call : Call
  client : TcpClient
  opened : List Nat

/-- The client with the descriptors it created and has not closed, and the moments so
far. -/
structure Net where
  client : TcpClient
  opened : List Nat
  log : List Moment

def note (call : Call) (n : Net) : Net :=
  { n with log := n.log ++ [⟨call, n.client, n.opened⟩] }

/-- Calls in a row on one descriptor, with nothing changed between them, are one moment. -/
def use (n : Net) : Net := note (.use n.client.sock) n

/-- Calls of the client do not overlap, so nothing sees the client between `::close` and
the two assignments behind it. -/
def close (n : Net) : Net := match n.client.sock with
  | none => { n with client := Tcp.close n.client }
  | some fd =>
      let n := note (.close fd) n
      { n with client := Tcp.close n.client, opened := n.opened.erase fd }

def socket (result : Option Nat) (n : Net) : Net :=
  let n := note .socket n
  { n with client := { n.client with sock := result }, opened := result.toList ++ n.opened }

def setConnected (up : Bool) (n : Net) : Net :=
  { n with client := { n.client with isConnected := up } }

def verifyConnection (v : VerifyScript) (n : Net) : EspErr × Net :=
  if !n.client.isConnected then (.fail, n)
  else
    let n := use n
    if v.sendFails then (.fail, close n)
    else
      let n := use n
      match v.reply with
      | none => (.fail, close n)
      | some reply =>
          if text "OK" <:+: cstr (reply.take 127) then (.ok, n) else (.fail, close n)

def connecting (k : ConnectScript) (n : Net) : EspErr × Net :=
  let n := socket k.socket n
  match k.socket with
  | none => (.fail, n)
  | some _ =>
      let n := use n
      match k.connect with
      | .done => verifyConnection k.verify (use (setConnected true n))
      | .failed => (.fail, close n)
      | .inProgress =>
          let n := use n
          match k.select with
          | .timedOut => (.timeout, close n)
          | .failed => (.fail, close n)
          | .ready =>
              let n := use n
              if k.soError then (.fail, close n)
              else verifyConnection k.verify (setConnected true (use n))

def connectToServer (k : ConnectScript) (n : Net) : EspErr × Net :=
  let (status, n) := connecting k n
  (status, note (.connected status) n)

def checkConnectionStatus (soError : Bool) (n : Net) : Bool × Net :=
  if !n.client.isConnected || n.client.sock.isNone then (false, n)
  else
    let n := use n
    if soError then (false, setConnected false n) else (true, n)

def reconnect : List ConnectScript → Net → EspErr × Net
  | [], n => (.fail, n)
  | k :: ks, n => match connectToServer k n with
    | (.ok, n) => (.ok, n)
    | (_, n) => reconnect ks n

def ensureConnected (e : EnsureScript) (n : Net) : EspErr × Net :=
  match checkConnectionStatus e.soError n with
  | (true, n) => (.ok, n)
  | (false, n) =>
      if e.now - n.client.lastReconnectAttempt < RECONNECT_COOLDOWN_TICKS then (.invalidState, n)
      else
        let n := close n
        reconnect (List.ofFn e.attempts)
          { n with client := { n.client with lastReconnectAttempt := e.now } }

def sendMessage (m : SendScript) (message : Bytes) (n : Net) : EspErr × Nat × Net :=
  let (up, n) := if n.client.isConnected then (.ok, n) else ensureConnected m.ensure n
  if up ≠ .ok then (up, 0, n)
  else
    let n := use n
    match sendLoop message.length m.sends 0 0 with
    | (total, true) => (.fail, total, setConnected false n)
    | (total, false) => (if total = message.length then .ok else .fail, total, n)

def receiveMessage (w : WaitScript) (size : Nat) (timeout : Int) (n : Net) :
    EspErr × Bytes × Net :=
  if size ≤ 1 then (.invalidArg, [], n)
  else
    let n := use n
    let (status, received, closed) := receiveLoop size timeout w.start w.rounds []
    (status, received, if closed then setConnected false n else n)

def initLoop : List (ConnectScript × Bool) → Net → EspErr × Net
  | [], n => (.fail, n)
  | (k, reset) :: ks, n => match connectToServer k n with
    | (.ok, n) => (.ok, n)
    | (_, n) => initLoop ks (if reset then n else close n)

def init (host : Bytes) (port : UInt16) (attempts : Fin 3 → ConnectScript × Bool) (n : Net) :
    EspErr × Net :=
  let n := if n.client.sock.isSome then close n else n
  initLoop (List.ofFn attempts) { n with client := { n.client with host, port } }

inductive Op
  | init (host : Bytes) (port : UInt16) (attempts : Fin 3 → ConnectScript × Bool)
  | ensure (e : EnsureScript)
  | check (soError : Bool)
  | send (m : SendScript) (message : Bytes)
  | receive (w : WaitScript) (size : Nat) (timeout : Int)
  | verify (v : VerifyScript)
  | close

def apply (n : Net) : Op → Net
  | .init host port attempts => (init host port attempts n).2
  | .ensure e => (ensureConnected e n).2
  | .check soError => (checkConnectionStatus soError n).2
  | .send m message => (sendMessage m message n).2.2
  | .receive w size timeout => (receiveMessage w size timeout n).2.2
  | .verify v => (verifyConnection v n).2
  | .close => close n

def run (n : Net) (ops : List Op) : Net := ops.foldl (fun n op => note .returned (apply n op)) n

/-- At most one descriptor is open and `sock` has it, a connected client has an open
one, `socket` is called without one, and every descriptor used is open. -/
structure Safe (m : Moment) : Prop where
  single : m.opened.length ≤ 1
  held : ∀ fd ∈ m.opened, m.client.sock = some fd
  up : m.client.isConnected = true → ∃ fd ∈ m.opened, m.client.sock = some fd
  created : m.call = .socket → m.client.sock = none
  live : ∀ fd, m.call = .use (some fd) ∨ m.call = .close fd → fd ∈ m.opened
  connected : ∀ status, m.call = .connected status →
    (status = .ok ∧ m.client.isConnected = true ∧ ∃ fd ∈ m.opened, m.client.sock = some fd) ∨
    (status ≠ .ok ∧ m.client.isConnected = false ∧ m.client.sock = none)

structure Inv (n : Net) : Prop where
  opened : n.opened = n.client.sock.toList
  up : n.client.isConnected = true → n.client.sock.isSome = true
  log : ∀ m ∈ n.log, Safe m

theorem Inv.note {n : Net} (h : Inv n) {call : Call} (hs : call = .socket → n.client.sock = none)
    (hl : ∀ fd, call = .use (some fd) ∨ call = .close fd → n.client.sock = some fd)
    (hc : ∀ status, call = .connected status →
      (status = .ok ∧ n.client.isConnected = true) ∨
      (status ≠ .ok ∧ n.client.isConnected = false ∧ n.client.sock = none)) :
    Inv (note call n) := by
  have hmem : ∀ fd, fd ∈ n.opened ↔ n.client.sock = some fd := by
    intro fd
    rw [h.opened]
    exact Option.mem_toList
  have hup : n.client.isConnected = true → ∃ fd ∈ n.opened, n.client.sock = some fd := by
    intro hu
    obtain ⟨fd, hfd⟩ := Option.isSome_iff_exists.mp (h.up hu)
    exact ⟨fd, (hmem fd).mpr hfd, hfd⟩
  refine ⟨h.opened, h.up, fun m hm => ?_⟩
  rcases List.mem_append.mp hm with hm | hm
  · exact h.log m hm
  · obtain rfl := List.mem_singleton.mp hm
    refine ⟨?_, fun fd hfd => (hmem fd).mp hfd, hup, hs, fun fd hfd => (hmem fd).mpr (hl fd hfd), ?_⟩
    · change n.opened.length ≤ 1
      rw [h.opened]
      cases n.client.sock <;> simp
    · intro status hst
      rcases hc status hst with ⟨hok, hu⟩ | hfail
      · exact Or.inl ⟨hok, hu, hup hu⟩
      · exact Or.inr hfail

theorem Inv.returned {n : Net} (h : Inv n) : Inv (Descriptors.note .returned n) := by
  apply h.note
  · intro hs
    cases hs
  · intro fd hfd
    rcases hfd with hfd | hfd <;> cases hfd
  · intro status hst
    cases hst

theorem Inv.use {n : Net} (h : Inv n) : Inv (use n) := by
  apply h.note
  · intro hs
    cases hs
  · intro fd hfd
    rcases hfd with hfd | hfd
    · exact Call.use.inj hfd
    · cases hfd
  · intro status hst
    cases hst

@[simp] theorem close_client (n : Net) : (close n).client = Tcp.close n.client := by
  unfold close
  split <;> rfl

theorem Inv.close {n : Net} (h : Inv n) : Inv (close n) := by
  unfold Descriptors.close
  split
  · rename_i hs
    refine ⟨?_, fun hu => Bool.noConfusion hu, h.log⟩
    change n.opened = []
    rw [h.opened, hs]
    rfl
  · rename_i fd hs
    have hn : Inv (Descriptors.note (.close fd) n) := by
      apply h.note
      · intro hc
        cases hc
      · intro fd' hfd
        rcases hfd with hfd | hfd
        · cases hfd
        · cases hfd
          exact hs
      · intro status hst
        cases hst
    refine ⟨?_, fun hu => Bool.noConfusion hu, hn.log⟩
    change n.opened.erase fd = []
    rw [h.opened, hs]
    exact List.erase_cons_head fd []

theorem Inv.socket {n : Net} (h : Inv n) (hs : n.client.sock = none) (result : Option Nat) :
    Inv (socket result n) := by
  have hn : Inv (Descriptors.note .socket n) := by
    apply h.note
    · intro _
      exact hs
    · intro fd hfd
      rcases hfd with hfd | hfd <;> cases hfd
    · intro status hst
      cases hst
  have hd : n.client.isConnected ≠ true := by
    intro hu
    have := h.up hu
    rw [hs] at this
    cases this
  refine ⟨?_, fun hu => absurd hu hd, hn.log⟩
  change result.toList ++ n.opened = result.toList
  rw [h.opened, hs]
  exact List.append_nil _

theorem Inv.setConnected {n : Net} (h : Inv n) {up : Bool}
    (hup : up = true → n.client.sock.isSome = true) : Inv (setConnected up n) :=
  ⟨h.opened, hup, h.log⟩

def Settled (r : EspErr × Net) : Prop :=
  Inv r.2 ∧ ((r.1 = .ok ∧ r.2.client.isConnected = true) ∨
    (r.1 ≠ .ok ∧ r.2.client.isConnected = false ∧ r.2.client.sock = none))

theorem settled_close {status : EspErr} {n : Net} (h : Inv n) (hs : status ≠ .ok) :
    Settled (status, close n) := by
  refine ⟨h.close, Or.inr ⟨hs, ?_, ?_⟩⟩
  · rw [close_client]
    rfl
  · rw [close_client]
    rfl

theorem verifyConnection_settled (v : VerifyScript) {n : Net} (h : Inv n)
    (hup : n.client.isConnected = true) : Settled (verifyConnection v n) := by
  have hfail : EspErr.fail ≠ .ok := by decide
  rw [verifyConnection, if_neg (by simp [hup])]
  dsimp only
  split
  · exact settled_close h.use hfail
  · split
    · exact settled_close h.use.use hfail
    · split
      · exact ⟨h.use.use, Or.inl ⟨rfl, hup⟩⟩
      · exact settled_close h.use.use hfail

theorem connecting_settled (k : ConnectScript) {n : Net} (h : Inv n) (hs : n.client.sock = none) :
    Settled (connecting k n) := by
  have hfail : EspErr.fail ≠ .ok := by decide
  have hc := h.socket hs k.socket
  rw [connecting]
  dsimp only
  cases hk : k.socket with
  | none =>
      rw [hk] at hc
      refine ⟨hc, Or.inr ⟨hfail, ?_, rfl⟩⟩
      cases hu : n.client.isConnected with
      | false => exact hu
      | true => exact Bool.noConfusion (hc.up hu)
  | some fd =>
      rw [hk] at hc
      dsimp only
      split
      · exact verifyConnection_settled k.verify (hc.use.setConnected fun _ => rfl).use rfl
      · exact settled_close hc.use hfail
      · split
        · exact settled_close hc.use.use (by decide)
        · exact settled_close hc.use.use hfail
        · split
          · exact settled_close hc.use.use.use hfail
          · exact verifyConnection_settled k.verify
              (hc.use.use.use.use.setConnected fun _ => rfl) rfl

theorem connectToServer_settled (k : ConnectScript) {n : Net} (h : Inv n)
    (hs : n.client.sock = none) : Settled (connectToServer k n) := by
  obtain ⟨hi, ho⟩ := connecting_settled k h hs
  refine ⟨hi.note (fun hc => ?_) (fun fd hfd => ?_) fun status hst => ?_, ho⟩
  · cases hc
  · rcases hfd with hfd | hfd <;> cases hfd
  · cases hst
    exact ho

theorem reconnect_settled (ks : List ConnectScript) {n : Net} (h : Inv n)
    (hu : n.client.isConnected = false) (hs : n.client.sock = none) : Settled (reconnect ks n) := by
  induction ks generalizing n with
  | nil => exact ⟨h, Or.inr ⟨EspErr.noConfusion, hu, hs⟩⟩
  | cons k ks ih =>
      obtain ⟨hi, ho⟩ := connectToServer_settled k h hs
      rw [reconnect]
      split
      · rename_i n' hr
        rw [hr] at hi ho
        exact ⟨hi, ho⟩
      · rename_i status n' hne hr
        rw [hr] at hi ho
        rcases ho with ⟨rfl, -⟩ | ⟨-, hu', hs'⟩
        · exact (hne rfl).elim
        · exact ih hi hu' hs'

theorem checkConnectionStatus_inv (soError : Bool) {n : Net} (h : Inv n) :
    Inv (checkConnectionStatus soError n).2 ∧
      ((checkConnectionStatus soError n).1 = true →
        (checkConnectionStatus soError n).2.client.isConnected = true) := by
  rw [checkConnectionStatus]
  split
  · exact ⟨h, fun hu => Bool.noConfusion hu⟩
  · rename_i hu
    dsimp only
    split
    · exact ⟨h.use.setConnected fun hu => Bool.noConfusion hu, fun hu => Bool.noConfusion hu⟩
    · refine ⟨h.use, fun _ => ?_⟩
      change n.client.isConnected = true
      simp only [Bool.or_eq_true, Bool.not_eq_true', not_or, Bool.not_eq_false] at hu
      exact hu.1

theorem ensureConnected_inv (e : EnsureScript) {n : Net} (h : Inv n) :
    Inv (ensureConnected e n).2 ∧
      ((ensureConnected e n).1 = .ok → (ensureConnected e n).2.client.isConnected = true) := by
  obtain ⟨hi, hu⟩ := checkConnectionStatus_inv e.soError h
  rw [ensureConnected]
  split
  · rename_i n' hc
    rw [hc] at hi hu
    exact ⟨hi, fun _ => hu rfl⟩
  · rename_i n' hc
    rw [hc] at hi
    split
    · exact ⟨hi, fun hok => EspErr.noConfusion hok⟩
    · have hcl := hi.close
      have hn : Inv { close n' with
          client := { (close n').client with lastReconnectAttempt := e.now } } :=
        ⟨hcl.opened, hcl.up, hcl.log⟩
      obtain ⟨hr, ho⟩ := reconnect_settled (List.ofFn e.attempts) hn
        (by rw [close_client]; rfl) (by rw [close_client]; rfl)
      refine ⟨hr, fun hok => ?_⟩
      rcases ho with ⟨-, hup⟩ | ⟨hne, -⟩
      · exact hup
      · exact absurd hok hne

theorem sendMessage_inv (m : SendScript) (message : Bytes) {n : Net} (h : Inv n) :
    Inv (sendMessage m message n).2.2 := by
  have hl : Inv (if n.client.isConnected then ((.ok, n) : EspErr × Net)
      else ensureConnected m.ensure n).2 := by
    split
    · exact h
    · exact (ensureConnected_inv m.ensure h).1
  rw [sendMessage]
  generalize (if n.client.isConnected then ((.ok, n) : EspErr × Net)
    else ensureConnected m.ensure n) = r at hl ⊢
  obtain ⟨up, n'⟩ := r
  dsimp only
  split
  · exact hl
  · split
    · exact hl.use.setConnected fun hu => Bool.noConfusion hu
    · exact hl.use

theorem receiveMessage_inv (w : WaitScript) (size : Nat) (timeout : Int) {n : Net} (h : Inv n) :
    Inv (receiveMessage w size timeout n).2.2 := by
  rw [receiveMessage]
  split
  · exact h
  · dsimp only
    split
    · exact h.use.setConnected fun hu => Bool.noConfusion hu
    · exact h.use

theorem verifyConnection_inv (v : VerifyScript) {n : Net} (h : Inv n) :
    Inv (verifyConnection v n).2 := by
  cases hu : n.client.isConnected with
  | false =>
      rw [verifyConnection, if_pos (by simp [hu])]
      exact h
  | true => exact (verifyConnection_settled v h hu).1

/-- Whether `init` closes behind a failed attempt makes no difference: the attempt has
already closed. -/
theorem initLoop_inv (ks : List (ConnectScript × Bool)) {n : Net} (h : Inv n)
    (hs : n.client.sock = none) : Inv (initLoop ks n).2 := by
  induction ks generalizing n with
  | nil => exact h
  | cons k ks ih =>
      obtain ⟨k, reset⟩ := k
      obtain ⟨hi, ho⟩ := connectToServer_settled k h hs
      rw [initLoop]
      split
      · rename_i n' hr
        rw [hr] at hi
        exact hi
      · rename_i status n' hne hr
        rw [hr] at hi ho
        rcases ho with ⟨rfl, -⟩ | ⟨-, -, hs'⟩
        · exact (hne rfl).elim
        · split
          · exact ih hi hs'
          · refine ih hi.close ?_
            rw [close_client]
            rfl

theorem init_inv (host : Bytes) (port : UInt16) (attempts : Fin 3 → ConnectScript × Bool) {n : Net}
    (h : Inv n) : Inv (init host port attempts n).2 := by
  rw [init]
  dsimp only
  split
  · have hc := h.close
    refine initLoop_inv _ ⟨hc.opened, hc.up, hc.log⟩ ?_
    rw [close_client]
    rfl
  · rename_i hs
    refine initLoop_inv _ ⟨h.opened, h.up, h.log⟩ ?_
    exact Option.not_isSome_iff_eq_none.mp hs

theorem apply_inv {n : Net} (h : Inv n) (op : Op) : Inv (apply n op) := by
  cases op with
  | init host port attempts => exact init_inv host port attempts h
  | ensure e => exact (ensureConnected_inv e h).1
  | check soError => exact (checkConnectionStatus_inv soError h).1
  | send m message => exact sendMessage_inv m message h
  | receive w size timeout => exact receiveMessage_inv w size timeout h
  | verify v => exact verifyConnection_inv v h
  | close => exact h.close

theorem run_inv {n : Net} (h : Inv n) (ops : List Op) : Inv (run n ops) := by
  induction ops generalizing n with
  | nil => exact h
  | cons op ops ih => exact ih (apply_inv h op).returned

def plain (c : TcpClient) : Op → TcpClient
  | .init host port attempts => (Tcp.init host port attempts c).2
  | .ensure e => (Tcp.ensureConnected e c).2
  | .check soError => (Tcp.checkConnectionStatus soError c).2
  | .send m message => (Tcp.sendMessage m message c).2.2
  | .receive w size timeout => (Tcp.receiveMessage w size timeout c).2.2
  | .verify v => (Tcp.verifyConnection v c).2
  | .close => Tcp.close c

def forget (r : EspErr × Net) : EspErr × TcpClient := (r.1, r.2.client)

theorem forget_close (status : EspErr) (n : Net) :
    forget (status, close n) = (status, Tcp.close n.client) :=
  congrArg (Prod.mk status) (close_client n)

theorem verifyConnection_client (v : VerifyScript) (n : Net) :
    forget (verifyConnection v n) = Tcp.verifyConnection v n.client := by
  rw [verifyConnection, Tcp.verifyConnection]
  by_cases hu : (!n.client.isConnected) = true
  · rw [if_pos hu, if_pos hu]
    rfl
  · rw [if_neg hu, if_neg hu]
    dsimp only
    by_cases hs : v.sendFails = true
    · rw [if_pos hs, if_pos hs]
      exact forget_close _ _
    · rw [if_neg hs, if_neg hs]
      cases v.reply with
      | none => exact forget_close _ _
      | some reply =>
          dsimp only
          by_cases hr : text "OK" <:+: cstr (reply.take 127)
          · rw [if_pos hr, if_pos hr]
            rfl
          · rw [if_neg hr, if_neg hr]
            exact forget_close _ _

theorem connectToServer_client (k : ConnectScript) (n : Net) :
    forget (connectToServer k n) = Tcp.connectToServer k n.client := by
  change forget (connecting k n) = _
  rw [connecting, Tcp.connectToServer]
  dsimp only
  cases k.socket with
  | none => rfl
  | some fd =>
      dsimp only
      cases k.connect with
      | done => exact verifyConnection_client k.verify _
      | failed => exact forget_close _ _
      | inProgress =>
          dsimp only
          cases k.select with
          | timedOut => exact forget_close _ _
          | failed => exact forget_close _ _
          | ready =>
              dsimp only
              by_cases he : k.soError = true
              · rw [if_pos he, if_pos he]
                exact forget_close _ _
              · rw [if_neg he, if_neg he]
                exact verifyConnection_client k.verify _

theorem reconnect_client (ks : List ConnectScript) (n : Net) :
    forget (reconnect ks n) = Tcp.reconnect ks n.client := by
  induction ks generalizing n with
  | nil => rfl
  | cons k ks ih =>
      rw [reconnect, Tcp.reconnect, ← connectToServer_client]
      cases connectToServer k n with
      | mk status n' =>
          cases status with
          | ok => rfl
          | _ => exact ih n'

theorem checkConnectionStatus_client (soError : Bool) (n : Net) :
    (checkConnectionStatus soError n).1 = (Tcp.checkConnectionStatus soError n.client).1 ∧
      (checkConnectionStatus soError n).2.client =
        (Tcp.checkConnectionStatus soError n.client).2 := by
  rw [checkConnectionStatus, Tcp.checkConnectionStatus]
  split
  · exact ⟨rfl, rfl⟩
  · dsimp only
    split <;> exact ⟨rfl, rfl⟩

theorem ensureConnected_client (e : EnsureScript) (n : Net) :
    forget (ensureConnected e n) = Tcp.ensureConnected e n.client := by
  obtain ⟨hup, hc⟩ := checkConnectionStatus_client e.soError n
  rw [ensureConnected, Tcp.ensureConnected]
  generalize checkConnectionStatus e.soError n = r at hup hc ⊢
  generalize Tcp.checkConnectionStatus e.soError n.client = r' at hup hc ⊢
  obtain ⟨up, n'⟩ := r
  obtain ⟨up', c'⟩ := r'
  cases hup
  cases hc
  cases up with
  | true => rfl
  | false =>
      dsimp only
      by_cases ht : e.now - n'.client.lastReconnectAttempt < RECONNECT_COOLDOWN_TICKS
      · rw [if_pos ht, if_pos ht]
        rfl
      · rw [if_neg ht, if_neg ht, reconnect_client]
        dsimp only
        rw [close_client]

theorem sendMessage_client (m : SendScript) (message : Bytes) (n : Net) :
    (sendMessage m message n).2.2.client = (Tcp.sendMessage m message n.client).2.2 := by
  have hl : forget (if n.client.isConnected then (.ok, n) else ensureConnected m.ensure n) =
      if n.client.isConnected then (.ok, n.client)
      else Tcp.ensureConnected m.ensure n.client := by
    split
    · rfl
    · exact ensureConnected_client m.ensure n
  rw [sendMessage, Tcp.sendMessage, ← hl]
  generalize (if n.client.isConnected then ((.ok, n) : EspErr × Net)
    else ensureConnected m.ensure n) = r
  obtain ⟨up, n'⟩ := r
  dsimp only [forget]
  split
  · rfl
  · cases sendLoop message.length m.sends 0 0 with
    | mk total failed => cases failed <;> rfl

theorem receiveMessage_client (w : WaitScript) (size : Nat) (timeout : Int) (n : Net) :
    (receiveMessage w size timeout n).2.2.client =
      (Tcp.receiveMessage w size timeout n.client).2.2 := by
  rw [receiveMessage, Tcp.receiveMessage]
  split
  · rfl
  · dsimp only
    split <;> rfl

theorem initLoop_client (ks : List (ConnectScript × Bool)) (n : Net) :
    forget (initLoop ks n) = Tcp.initLoop ks n.client := by
  induction ks generalizing n with
  | nil => rfl
  | cons k ks ih =>
      obtain ⟨k, reset⟩ := k
      have hreset : ∀ n' : Net, (if reset then n' else close n').client =
          if reset then n'.client else Tcp.close n'.client := by
        intro n'
        rw [apply_ite Net.client, close_client]
      rw [initLoop, Tcp.initLoop, ← connectToServer_client]
      cases connectToServer k n with
      | mk status n' =>
          cases status with
          | ok => rfl
          | _ => exact (ih _).trans (congrArg (Tcp.initLoop ks) (hreset n'))

theorem init_client (host : Bytes) (port : UInt16) (attempts : Fin 3 → ConnectScript × Bool)
    (n : Net) : forget (init host port attempts n) = Tcp.init host port attempts n.client := by
  have hc : (if n.client.sock.isSome then close n else n).client =
      if n.client.sock.isSome then Tcp.close n.client else n.client := by
    rw [apply_ite Net.client, close_client]
  rw [init, Tcp.init, initLoop_client]
  dsimp only
  rw [hc]

/-- Watching the client changes nothing: it is the client of `Tcp`. -/
theorem apply_client (n : Net) (op : Op) : (apply n op).client = plain n.client op := by
  cases op with
  | init host port attempts => exact congrArg Prod.snd (init_client host port attempts n)
  | ensure e => exact congrArg Prod.snd (ensureConnected_client e n)
  | check soError => exact (checkConnectionStatus_client soError n).2
  | send m message => exact sendMessage_client m message n
  | receive w size timeout => exact receiveMessage_client w size timeout n
  | verify v => exact congrArg Prod.snd (verifyConnection_client v n)
  | close => exact close_client n

theorem run_client (n : Net) (ops : List Op) : (run n ops).client = ops.foldl plain n.client := by
  induction ops generalizing n with
  | nil => rfl
  | cons op ops ih => rw [List.foldl_cons, ← apply_client]; exact ih _

/-- In every run of calls from a new client every moment is safe: at most one
descriptor is open and it is `sock`, and each try to connect ends with an open
connection or with nothing. -/
theorem run_safe (ops : List Op) :
    (run ⟨fresh, [], []⟩ ops).client = ops.foldl plain fresh ∧
      ∀ m ∈ (run ⟨fresh, [], []⟩ ops).log, Safe m := by
  have h : Inv ⟨fresh, [], []⟩ :=
    ⟨rfl, fun hu => Bool.noConfusion hu, fun m hm => absurd hm List.not_mem_nil⟩
  exact ⟨run_client _ ops, (run_inv h ops).log⟩

end BandDecoder.Descriptors
