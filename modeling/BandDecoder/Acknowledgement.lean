import BandDecoder.SendCommand

namespace BandDecoder.Acknowledgement

open CStrings SwitchConfig Tcp StateReply Relay SendCommand

/-- The data bytes of the command as whole numbers: `32,0,OK` has the text `2,0,OK`
in it and is no acknowledgement of `2,0`. -/
def Acknowledges (relay : Int) (reply : Bytes) : Prop :=
  text "," ++ setAllSuffix (dataByte1 relay) (dataByte0 relay) <:+: cstr reply

instance (relay : Int) (reply : Bytes) : Decidable (Acknowledges relay reply) :=
  inferInstanceAs (Decidable (_ <:+: _))

/-- The board's reply to a command acknowledges no other relay's. -/
theorem acknowledges_reply_iff {relay other : Int} (h1 : 1 ≤ relay) (h16 : relay ≤ NUM_RELAYS)
    (h1' : 1 ≤ other) (h16' : other ≤ NUM_RELAYS) :
    Acknowledges relay (setAllCommand (dataByte1 other) (dataByte0 other) ++ text ",OK") ↔
      other = relay := by
  simp only [NUM_RELAYS] at h16 h16'
  have hall : ∀ r s : Fin 16, Acknowledges (r.val + 1)
      (setAllCommand (dataByte1 (s.val + 1)) (dataByte0 (s.val + 1)) ++ text ",OK") ↔ s = r := by
    decide +kernel
  have h := hall ⟨(relay - 1).toNat, by omega⟩ ⟨(other - 1).toNat, by omega⟩
  have hr : (((relay - 1).toNat : Nat) : Int) + 1 = relay := by omega
  have hs : (((other - 1).toNat : Nat) : Int) + 1 = other := by omega
  rw [hr, hs, Fin.mk.injEq] at h
  rw [h]
  omega

/-- Success only on a text received in this call that acknowledges this command. -/
def AckOwn (x : Exchange) (relay : Int) (c : RelayController) : Prop :=
  (turnOffAllRelaysExcept x relay c).1 = .ok →
    ∃ received c', setAllAnswer x relay c = some (received, c') ∧ Acknowledges relay received

def Sent (x : Exchange) (relay : Int) (c : RelayController) : Prop :=
  (transmit x.ensure x.send (setAllCommand (dataByte1 relay) (dataByte0 relay)) c).1 = .ok

def Delivered (w : WaitScript) (reply : Bytes) : Prop :=
  (receiveLoop 256 1000 w.start w.rounds []).1 = .ok ∧
    (receiveLoop 256 1000 w.start w.rounds []).2.1 = reply

/-- The first slice of the wait passes in silence before the deadline. -/
def SilentFirst (w : WaitScript) : Prop :=
  ∃ r rs, w.rounds = r :: rs ∧ r.slice = .quiet ∧ elapsed w.start r.now < 1000

theorem receiveRound_again_ne_nil {size : Nat} {timeout start : Int} {received got : Bytes}
    {r : Round} (h : receiveRound size timeout start received r = .again got) :
    received <+: got ∧ got ≠ [] := by
  obtain ⟨-, bytes, -, hseg, rfl, -, -⟩ := receiveRound_again_iff.mp h
  exact ⟨List.prefix_append _ _, fun hn => hseg (List.append_eq_nil_iff.mp hn).2⟩

theorem receiveLoop_prefix (size : Nat) (timeout start : Int) (rounds : List Round)
    (received : Bytes) : received <+: (receiveLoop size timeout start rounds received).2.1 := by
  induction rounds generalizing received with
  | nil => exact List.prefix_rfl
  | cons r rs ih =>
      rw [receiveLoop]
      cases hr : receiveRound size timeout start received r with
      | stop status got closed => exact receiveRound_prefix hr
      | again got => exact (receiveRound_again_ne_nil hr).1.trans (ih got)

/-- `receive_message` returns `ESP_OK` with nothing exactly on a silent first slice. -/
theorem delivered_nil_iff (w : WaitScript) : Delivered w [] ↔ SilentFirst w := by
  rw [Delivered, SilentFirst]
  cases hw : w.rounds with
  | nil =>
      constructor
      · rintro ⟨h, -⟩
        cases h
      · rintro ⟨r, rs, h, -⟩
        cases h
  | cons r rs =>
      constructor
      · rintro ⟨hs, hn⟩
        rw [receiveLoop] at hs hn
        cases hr : receiveRound 256 1000 w.start [] r with
        | again got =>
            simp only [hr] at hn
            have hp := receiveLoop_prefix 256 1000 w.start rs got
            rw [hn] at hp
            exact absurd (List.prefix_nil.mp hp) (receiveRound_again_ne_nil hr).2
        | stop status got closed =>
            simp only [hr] at hs hn
            subst hs hn
            obtain ⟨ht, -, ⟨hq, -⟩ | ⟨segment, hseg, hg, -⟩⟩ := receiveRound_ok hr
            · exact ⟨r, rs, rfl, hq, ht⟩
            · exact absurd hg.symm hseg
      · rintro ⟨r', rs', h, hq, ht⟩
        cases h
        rw [receiveLoop, receiveRound, if_neg (by omega), hq]
        exact ⟨rfl, rfl⟩

/-- An answer is a command that was sent and a wait that ended well; the buffer
keeps the text of an earlier call when this one received nothing. -/
theorem setAllAnswer_iff {x : Exchange} {relay : Int} {c : RelayController} {received : Bytes} :
    (∃ c', setAllAnswer x relay c = some (received, c')) ↔
      Sent x relay c ∧ Delivered x.wait received := by
  rw [setAllAnswer, answered, Sent, Delivered]
  cases ht : transmit x.ensure x.send (setAllCommand (dataByte1 relay) (dataByte0 relay)) c with
  | mk e c₁ =>
      cases e with
      | ok =>
          simp only [awaitReply, receiveMessage, true_and]
          rw [if_neg (by decide)]
          cases hl : receiveLoop 256 1000 x.wait.start x.wait.rounds [] with
          | mk status rest =>
              obtain ⟨got, closed⟩ := rest
              cases status <;> simp
      | _ => simp

theorem not_acknowledges_nil (relay : Int) : ¬ Acknowledges relay [] := by
  intro h
  have hl := h.length_le
  have ht : (text ",OK").length = 3 := by decide
  simp only [setAllSuffix, List.length_append, ht] at hl
  have hn : (cstr []).length = 0 := rfl
  omega

/-- `turn_off_all_relays_except` takes only its own acknowledgement exactly when the
wait is not silent from the start over a buffer that still holds `,OK`, and no text
with `,OK` arrives that lacks the data bytes of this command. -/
theorem ackOwn_iff (x : Exchange) (relay : Int) (h1 : 1 ≤ relay) (h16 : relay ≤ NUM_RELAYS)
    (c : RelayController) :
    AckOwn x relay c ↔
      (Sent x relay c →
        ¬ (SilentFirst x.wait ∧ text ",OK" <:+: cstr c.response) ∧
        ∀ reply, reply ≠ [] → Delivered x.wait reply → text ",OK" <:+: cstr reply →
          Acknowledges relay reply) := by
  rcases turnOffAllRelaysExcept_cases x h1 h16 c with
    ⟨e, c', he, -, hno, ht⟩ | ⟨received, c', -, ha, hok, ht⟩
  · refine iff_of_true (fun hs => ?_) fun hsent => ⟨?_, ?_⟩
    · rw [ht] at hs
      exact absurd hs he
    · rintro ⟨hq, hstale⟩
      obtain ⟨c₁, hc₁⟩ := setAllAnswer_iff.mpr ⟨hsent, (delivered_nil_iff x.wait).mpr hq⟩
      refine hno _ c₁ hc₁ ?_
      rw [answered_response hc₁, if_pos rfl]
      exact hstale
    · intro reply hne hd hreply
      obtain ⟨c₁, hc₁⟩ := setAllAnswer_iff.mpr ⟨hsent, hd⟩
      refine absurd ?_ (hno _ c₁ hc₁)
      rw [answered_response hc₁, if_neg hne]
      exact hreply
  · have hd := setAllAnswer_iff.mp ⟨c', ha⟩
    rw [answered_response ha] at hok
    constructor
    · intro hown _
      obtain ⟨received', c'', ha', hack⟩ := hown (congrArg Prod.fst ht)
      obtain ⟨rfl, -⟩ := Prod.mk.inj (Option.some.inj (ha.symm.trans ha'))
      have hne : received ≠ [] := by
        rintro rfl
        exact not_acknowledges_nil relay hack
      refine ⟨?_, fun reply _ hd' _ => ?_⟩
      · rintro ⟨hq, -⟩
        exact hne (hd.2.2.symm.trans ((delivered_nil_iff x.wait).mpr hq).2)
      · rw [← hd'.2, hd.2.2]
        exact hack
    · intro h _
      obtain ⟨hsilent, hown⟩ := h hd.1
      refine ⟨received, c', ha, ?_⟩
      by_cases hne : received = []
      · subst hne
        rw [if_pos rfl] at hok
        exact absurd ⟨(delivered_nil_iff x.wait).mp hd.2, hok⟩ hsilent
      · rw [if_neg hne] at hok
        exact hown received hne hd.2 hok

def acknowledgedOne : RelayController :=
  (turnOffAllRelaysExcept (exchange [.data (text "RELAY-SET_ALL-255,0,1,OK")]) 1
    { construct with tcpClient := linkUp }).2

theorem ackOwn_iff_two :
    AckOwn (exchange [.data (text "RELAY-SET_ALL-255,0,2,OK")]) 2 acknowledgedOne ↔
      (Sent (exchange [.data (text "RELAY-SET_ALL-255,0,2,OK")]) 2 acknowledgedOne →
        ¬ (SilentFirst (exchange [.data (text "RELAY-SET_ALL-255,0,2,OK")]).wait ∧
          text ",OK" <:+: cstr acknowledgedOne.response) ∧
        ∀ reply, reply ≠ [] →
          Delivered (exchange [.data (text "RELAY-SET_ALL-255,0,2,OK")]).wait reply →
          text ",OK" <:+: cstr reply → Acknowledges 2 reply) :=
  ackOwn_iff _ 2 (by decide) (by decide) acknowledgedOne

example : ¬ AckOwn (exchange [.data (text "RELAY-SET_ALL-255,32,0,OK")]) 10
    { construct with tcpClient := linkUp } := by
  intro h
  obtain ⟨received, c', ha, hack⟩ := h (by decide)
  have hd := (setAllAnswer_iff.mp ⟨c', ha⟩).2.2
  rw [← hd] at hack
  exact absurd hack (by decide)

/-- The command for relay 2 meets a silent slice and is confirmed by the reply to
the command for relay 1, which is still in the buffer. -/
theorem ackOwn_fails :
    ¬ ∀ (x : Exchange) (relay : Int), 1 ≤ relay → relay ≤ NUM_RELAYS → ∀ c, AckOwn x relay c := by
  intro h
  obtain ⟨received, c', ha, hack⟩ :=
    h (exchange [.quiet]) 2 (by decide) (by decide) acknowledgedOne (by decide)
  have hd := setAllAnswer_iff.mp ⟨c', ha⟩
  have hn : received = [] := hd.2.2.symm.trans (by decide)
  rw [hn] at hack
  exact not_acknowledges_nil 2 hack

end BandDecoder.Acknowledgement
