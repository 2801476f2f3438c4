import BandDecoder.Tcp

namespace BandDecoder.ReceiveMessage

open CStrings SwitchConfig Tcp

def put (message : Bytes) (total : Nat) (segment : Bytes) : Bytes :=
  message.take total ++ (segment ++ 0 :: message.drop (total + segment.length + 1))

inductive PassEnd
  | stop (status : EspErr) (message : Bytes) (total : Nat)
  | again (message : Bytes) (total : Nat)

def pass (size : Nat) (timeout start : Int) (message : Bytes) (total : Nat) (r : Round) : PassEnd :=
  if timeout ≤ elapsed start r.now then .stop .timeout message total
  else match r.slice with
    | .quiet => .stop .ok message total
    | .selectError => .stop .fail message total
    | .recvError => .stop .fail message total
    | .data bytes =>
        let segment := bytes.take (size - total - 1)
        if segment = [] then .stop .fail message total
        else
          let message := put message total segment
          let total := total + segment.length
          if complete (message.take total) then .stop .ok message total
          else if size - 1 ≤ total then .stop .noMem message total
          else .again message total

def receiveInto (size : Nat) (timeout start : Int) : List Round → Bytes → Nat → EspErr × Bytes × Nat
  | [], message, total => (.timeout, message, total)
  | r :: rs, message, total => match pass size timeout start message total r with
    | .stop status message total => (status, message, total)
    | .again message total => receiveInto size timeout start rs message total

structure Holds (message : Bytes) (total : Nat) (received : Bytes) : Prop where
  length : received.length = total
  fits : total ≤ message.length
  bytes : message.take total = received
  closed : received ≠ [] → received ++ [0] <+: message

theorem Holds.start (message : Bytes) : Holds message 0 [] :=
  ⟨rfl, Nat.zero_le _, rfl, fun h => absurd rfl h⟩

theorem Holds.put {message : Bytes} {total : Nat} {received : Bytes} (h : Holds message total received)
    (segment : Bytes) :
    Holds (put message total segment) (total + segment.length) (received ++ segment) := by
  have hp : ReceiveMessage.put message total segment =
      (received ++ segment) ++ 0 :: message.drop (total + segment.length + 1) := by
    rw [ReceiveMessage.put, h.bytes, List.append_assoc]
  have hl : (received ++ segment).length = total + segment.length := by
    rw [List.length_append, h.length]
  refine ⟨hl, ?_, ?_, fun _ => ?_⟩
  · rw [hp, List.length_append, hl]
    exact Nat.le_add_right _ _
  · rw [hp, ← hl, List.take_left]
  · rw [hp]
    exact ⟨message.drop (total + segment.length + 1), by simp⟩

theorem pass_holds (size : Nat) (timeout start : Int) {message : Bytes} {total : Nat} {received : Bytes}
    (h : Holds message total received) (r : Round) :
    (∃ status got closed message' total',
      receiveRound size timeout start received r = .stop status got closed ∧
      pass size timeout start message total r = .stop status message' total' ∧
      Holds message' total' got) ∨
    (∃ got message' total', receiveRound size timeout start received r = .again got ∧
      pass size timeout start message total r = .again message' total' ∧
      Holds message' total' got) := by
  rw [receiveRound, pass]
  by_cases ht : timeout ≤ elapsed start r.now
  · rw [if_pos ht, if_pos ht]
    exact Or.inl ⟨_, _, _, _, _, rfl, rfl, h⟩
  · rw [if_neg ht, if_neg ht]
    cases r.slice with
    | quiet => exact Or.inl ⟨_, _, _, _, _, rfl, rfl, h⟩
    | selectError => exact Or.inl ⟨_, _, _, _, _, rfl, rfl, h⟩
    | recvError => exact Or.inl ⟨_, _, _, _, _, rfl, rfl, h⟩
    | data bytes =>
        dsimp only
        rw [h.length]
        by_cases hs : bytes.take (size - total - 1) = []
        · rw [if_pos hs, if_pos hs]
          exact Or.inl ⟨_, _, _, _, _, rfl, rfl, h⟩
        · have hput := h.put (bytes.take (size - total - 1))
          rw [if_neg hs, if_neg hs, hput.bytes, hput.length]
          by_cases hc : complete (received ++ bytes.take (size - total - 1))
          · rw [if_pos hc, if_pos hc]
            exact Or.inl ⟨_, _, _, _, _, rfl, rfl, hput⟩
          · rw [if_neg hc, if_neg hc]
            split
            · exact Or.inl ⟨_, _, _, _, _, rfl, rfl, hput⟩
            · exact Or.inr ⟨_, _, _, rfl, rfl, hput⟩

/-- The whole call over the memory refines the loop over received texts. -/
theorem receiveInto_holds (size : Nat) (timeout start : Int) (rounds : List Round) {message : Bytes}
    {total : Nat} {received : Bytes} (h : Holds message total received) :
    (receiveInto size timeout start rounds message total).1 =
        (receiveLoop size timeout start rounds received).1 ∧
      Holds (receiveInto size timeout start rounds message total).2.1
        (receiveInto size timeout start rounds message total).2.2
        (receiveLoop size timeout start rounds received).2.1 := by
  induction rounds generalizing message total received with
  | nil => exact ⟨rfl, h⟩
  | cons r rs ih =>
      rw [receiveInto, receiveLoop]
      rcases pass_holds size timeout start h r with
        ⟨status, got, closed, message', total', hr, hp, hh⟩ | ⟨got, message', total', hr, hp, hh⟩
      · rw [hr, hp]
        exact ⟨rfl, hh⟩
      · rw [hr, hp]
        exact ih hh

def waitsThrough (size : Nat) (timeout start : Int) : List Round → Bytes → Option Bytes
  | [], received => some received
  | r :: rs, received => match receiveRound size timeout start received r with
    | .stop _ _ _ => none
    | .again received => waitsThrough size timeout start rs received

/-- `receive_message` on a buffer that holds `message`; the number is that of the
bytes received. -/
def receiveMessageInto (w : WaitScript) (size : Nat) (timeout : Int) (message : Bytes) :
    EspErr × Bytes × Nat :=
  if size ≤ 1 then (.invalidArg, message, 0)
  else receiveInto size timeout w.start w.rounds message 0

def Headed (header msg : Bytes) : Prop := ∃ pre post, msg = pre ++ (header ++ post) ∧ 44 ∈ post

def Message (msg : Bytes) : Prop :=
  text ",OK" <:+: msg ∨ Headed (text "RELAY-STATE-255") msg ∨ Headed (text "RELAY-SET_ALL-255") msg

/-- What a call has to do: report success on a message only, report silence as a
timeout, and go on behind a quiet slice as long as there is time. -/
structure OnlyMessages (w : WaitScript) (size : Nat) (timeout : Int) (message : Bytes) : Prop where
  success : (receiveMessageInto w size timeout message).1 = .ok →
    ∃ received, received ≠ [] ∧ received = (receiveLoop size timeout w.start w.rounds []).2.1 ∧
      received ++ [0] <+: (receiveMessageInto w size timeout message).2.1 ∧ Message received
  silence : (∀ r ∈ w.rounds, r.slice = .quiet) →
    (receiveMessageInto w size timeout message).1 = .timeout
  slice : ∀ before r behind received, w.rounds = before ++ r :: behind →
    waitsThrough size timeout w.start before [] = some received → r.slice = .quiet →
    elapsed w.start r.now < timeout →
    receiveMessageInto w size timeout message =
      receiveMessageInto ⟨w.start, before ++ behind⟩ size timeout message

/-- Before the deadline a `select` returns 0 while the bytes that have come in are
neither complete nor fill the buffer, or they become complete with every comma in
front of the header. -/
def Misled (size : Nat) (timeout start : Int) : List Round → Bytes → Prop
  | [], _ => False
  | r :: rs, received => elapsed start r.now < timeout ∧ match r.slice with
    | .quiet => True
    | .data bytes =>
        let segment := bytes.take (size - received.length - 1)
        segment ≠ [] ∧
          if complete (received ++ segment) then ¬ Message (received ++ segment)
          else (received ++ segment).length < size - 1 ∧
            Misled size timeout start rs (received ++ segment)
    | _ => False

theorem Headed.complete {header msg : Bytes} (h : Headed header msg) :
    header <:+: msg ∧ text "," <:+: msg := by
  obtain ⟨pre, post, rfl, hc⟩ := h
  obtain ⟨a, b, rfl⟩ := List.append_of_mem hc
  exact ⟨⟨pre, a ++ 44 :: b, by simp⟩, ⟨pre ++ (header ++ a), b, by simp [text]⟩⟩

theorem Message.complete {msg : Bytes} (h : Message msg) : Tcp.complete msg := by
  rcases h with hok | hs | hs
  · exact Or.inl hok
  · exact Or.inr (Or.inl hs.complete)
  · exact Or.inr (Or.inr hs.complete)

theorem misled_cons {size : Nat} {timeout start : Int} {r : Round} {rs : List Round}
    {received : Bytes} :
    Misled size timeout start (r :: rs) received ↔
      (elapsed start r.now < timeout ∧ r.slice = .quiet) ∨
      (∃ got closed, receiveRound size timeout start received r = .stop .ok got closed ∧
        r.slice ≠ .quiet ∧ ¬ Message got) ∨
      ∃ got, receiveRound size timeout start received r = .again got ∧
        Misled size timeout start rs got := by
  rw [Misled, receiveRound]
  by_cases ht : timeout ≤ elapsed start r.now
  · rw [if_pos ht]
    have ht' : ¬ elapsed start r.now < timeout := by omega
    simp [ht']
  · rw [if_neg ht]
    have ht' : elapsed start r.now < timeout := by omega
    cases hs : r.slice with
    | quiet | selectError | recvError => simp [ht']
    | data bytes =>
        dsimp only
        by_cases hseg : bytes.take (size - received.length - 1) = []
        · simp [hseg]
        · rw [if_neg hseg]
          rw [and_iff_right ht', ne_eq, and_iff_right hseg]
          generalize received ++ bytes.take (size - received.length - 1) = got
          by_cases hc : complete got
          · simp [hc]
          · rw [if_neg hc, if_neg hc]
            by_cases hfull : size - 1 ≤ got.length
            · rw [if_pos hfull]
              simp [Nat.not_lt.mpr hfull]
            · rw [if_neg hfull]
              simp [Nat.not_le.mp hfull]

/-- A misled wait reports success on what is no message. -/
theorem receiveLoop_of_misled {size : Nat} {timeout start : Int} {rounds : List Round}
    {received : Bytes} (hn : ¬ complete received) (h : Misled size timeout start rounds received) :
    (receiveLoop size timeout start rounds received).1 = .ok ∧
      ¬ Message (receiveLoop size timeout start rounds received).2.1 := by
  induction rounds generalizing received with
  | nil => exact absurd h id
  | cons r rs ih =>
      rw [receiveLoop]
      rcases misled_cons.mp h with ⟨ht, hq⟩ | ⟨got, closed, hr, -, hm⟩ | ⟨got, hr, hm⟩
      · rw [receiveRound_quiet ht hq]
        exact ⟨rfl, fun hm => hn hm.complete⟩
      · rw [hr]
        exact ⟨rfl, hm⟩
      · have hc : ¬ complete got := by
          obtain ⟨-, _, -, -, -, hc, -⟩ := receiveRound_again_iff.mp hr
          exact hc
        rw [hr]
        exact ih hc hm

theorem receiveLoop_message {size : Nat} {timeout start : Int} {rounds : List Round}
    {received : Bytes} (h : ¬ Misled size timeout start rounds received)
    (hok : (receiveLoop size timeout start rounds received).1 = .ok) :
    Message (receiveLoop size timeout start rounds received).2.1 := by
  induction rounds generalizing received with
  | nil => cases hok
  | cons r rs ih =>
      rw [misled_cons, not_or, not_or] at h
      rw [receiveLoop] at hok ⊢
      cases hr : receiveRound size timeout start received r with
      | again got =>
          rw [hr] at hok
          exact ih (fun hm => h.2.2 ⟨got, hr, hm⟩) hok
      | stop status got closed =>
          rw [hr] at hok
          cases hok
          have hq : r.slice ≠ .quiet := fun hq => h.1 ⟨(receiveRound_ok hr).1, hq⟩
          by_contra hm
          exact h.2.1 ⟨got, closed, hr, hq, hm⟩

theorem misled_of_waitsThrough {size : Nat} {timeout start : Int} {before behind : List Round}
    {r : Round} {received got : Bytes} (h : waitsThrough size timeout start before received = some got)
    (hq : r.slice = .quiet) (ht : elapsed start r.now < timeout) :
    Misled size timeout start (before ++ r :: behind) received := by
  induction before generalizing received with
  | nil => exact misled_cons.mpr (Or.inl ⟨ht, hq⟩)
  | cons b before ih =>
      rw [waitsThrough] at h
      cases hb : receiveRound size timeout start received b with
      | stop status got closed =>
          rw [hb] at h
          cases h
      | again next =>
          rw [hb] at h
          exact misled_cons.mpr (Or.inr (Or.inr ⟨next, hb, ih h⟩))

theorem receiveMessageInto_eq {w : WaitScript} {size : Nat} (h : 1 < size) (timeout : Int)
    (message : Bytes) :
    receiveMessageInto w size timeout message = receiveInto size timeout w.start w.rounds message 0 :=
  if_neg (Nat.not_le.mpr h)

/-- The text that `Tcp.receiveMessage` reports is what the memory holds behind the call. -/
theorem receiveMessageInto_holds (w : WaitScript) {size : Nat} (h : 1 < size) (timeout : Int)
    (message : Bytes) (c : TcpClient) :
    (receiveMessageInto w size timeout message).1 = (receiveMessage w size timeout c).1 ∧
      Holds (receiveMessageInto w size timeout message).2.1
        (receiveMessageInto w size timeout message).2.2 (receiveMessage w size timeout c).2.1 := by
  rw [receiveMessageInto_eq h, receiveMessage, if_neg (Nat.not_le.mpr h)]
  exact receiveInto_holds size timeout w.start w.rounds (Holds.start message)

/-- `receive_message` succeeds on messages only, and outlasts silence, exactly when
its wait is not misled. -/
theorem onlyMessages_iff (w : WaitScript) (size : Nat) (h : 1 < size) (timeout : Int)
    (message : Bytes) :
    OnlyMessages w size timeout message ↔ ¬ Misled size timeout w.start w.rounds [] := by
  have hn : ¬ complete [] := by decide
  obtain ⟨hs, hh⟩ := receiveInto_holds size timeout w.start w.rounds (Holds.start message)
  rw [← receiveMessageInto_eq h timeout message] at hs hh
  constructor
  · intro ho hm
    obtain ⟨hok, hc⟩ := receiveLoop_of_misled hn hm
    obtain ⟨received, -, hr, -, hcr⟩ := ho.success (hs.trans hok)
    exact hc (hr ▸ hcr)
  · intro hm
    refine ⟨fun hok => ?_, fun hq => ?_, ?_⟩
    · have hc := receiveLoop_message hm (hs.symm.trans hok)
      have hne : (receiveLoop size timeout w.start w.rounds []).2.1 ≠ [] := by
        intro he
        rw [he] at hc
        exact hn hc.complete
      exact ⟨_, hne, rfl, hh.closed hne, hc⟩
    · rw [hs]
      cases hr : w.rounds with
      | nil => rfl
      | cons r rs =>
          rw [hr] at hm hq
          have ht : ¬ elapsed w.start r.now < timeout := fun ht =>
            hm (misled_cons.mpr (Or.inl ⟨ht, hq r List.mem_cons_self⟩))
          rw [receiveLoop, receiveRound, if_pos (by omega)]
    · intro before r behind received hr hb hq ht
      rw [hr] at hm
      exact absurd (misled_of_waitsThrough hb hq ht) hm

theorem onlyMessages_iff_whole :
    OnlyMessages ⟨0, [⟨10, .data (text "RELAY-STATE-255,0,1,OK")⟩]⟩ 256 500
        (List.replicate 256 0) ↔
      ¬ Misled 256 500 0 [⟨10, .data (text "RELAY-STATE-255,0,1,OK")⟩] [] :=
  onlyMessages_iff ⟨0, [⟨10, .data (text "RELAY-STATE-255,0,1,OK")⟩]⟩ 256 (by decide) 500
    (List.replicate 256 0)

/-- One quiet slice a quarter of a second into a wait of half a second ends it with
`ESP_OK` and nothing received. -/
theorem onlyMessages_fails :
    ¬ ∀ (w : WaitScript) (size : Nat), 1 < size → ∀ (timeout : Int) (message : Bytes),
      OnlyMessages w size timeout message := by
  intro h
  have hs := (h ⟨0, [⟨250, .quiet⟩]⟩ 256 (by decide) 500 []).silence (by simp)
  exact absurd hs (by decide)

end BandDecoder.ReceiveMessage
