import BandDecoder.CatDispatch

namespace BandDecoder.FrequencyText

open CStrings SwitchConfig Config Relay Switch Cat CatDispatch

def Decimal32 (field : Bytes) : Prop :=
  field ≠ [] ∧ (∀ b ∈ field, isDigit b) ∧ digitsValue field < 2 ^ 32

/-- What a frequency field has to do: a decimal number becomes the current
frequency, anything else changes neither the frequency, nor the band, nor the
pending relay request. -/
def ReadsField (field : Bytes) (d d' : Device) : Prop :=
  (Decimal32 field → d'.catParser.currentFrequency = UInt32.ofNat (digitsValue field)) ∧
    (¬ Decimal32 field →
      d'.catParser.currentFrequency = d.catParser.currentFrequency ∧
      d'.catParser.currentBandIndex = d.catParser.currentBandIndex ∧
      d'.relayController.latestRequest = d.relayController.latestRequest)

/-- `strtoul` uses the field up to its end, or up to a NUL in it. -/
def Accepted (field : Bytes) : Prop := charAt field (strtoul 32 field).2 = 0

instance (field : Bytes) : Decidable (Accepted field) :=
  inferInstanceAs (Decidable (charAt field (strtoul 32 field).2 = 0))

def reading (field : Bytes) : UInt32 := UInt32.ofNat (strtoul 32 field).1

theorem Decimal32.accepted {field : Bytes} (h : Decimal32 field) : Accepted field := by
  rw [Accepted, strtoul_digits 32 h.1 h.2.1 h.2.2]
  exact charAt_length field

theorem Decimal32.reading_eq {field : Bytes} (h : Decimal32 field) :
    reading field = UInt32.ofNat (digitsValue field) := by
  rw [reading, strtoul_digits 32 h.1 h.2.1 h.2.2]

theorem handleFrequencyChange_frequency (frequency : UInt32) (d : Device) :
    (handleFrequencyChange frequency d).2.catParser.currentFrequency = frequency := by
  rw [handleFrequencyChange_eq]
  dsimp only
  split
  · rename_i h
    exact h.symm
  · rfl

theorem handleFrequencyChange_same (d : Device) :
    handleFrequencyChange d.catParser.currentFrequency d = (.ok, d) := by
  rw [handleFrequencyChange_eq, if_pos rfl]

/-- The shared end of both commands. `d₁` is the device with the transmit state
and mode that an IF command has stored by then. -/
theorem readsField_iff {field : Bytes} {d d' : Device} (d₁ : Device)
    (hf : d₁.catParser.currentFrequency = d.catParser.currentFrequency)
    (hb : d₁.catParser.currentBandIndex = d.catParser.currentBandIndex)
    (hr : d₁.relayController.latestRequest = d.relayController.latestRequest)
    (hreject : ¬ Accepted field → d' = d)
    (haccept : Accepted field → d' = (handleFrequencyChange (reading field) d₁).2) :
    ReadsField field d d' ↔
      (Decimal32 field ∨ ¬ Accepted field ∨ reading field = d.catParser.currentFrequency) := by
  by_cases hd : Decimal32 field
  · have hd' := haccept hd.accepted
    refine iff_of_true ⟨fun _ => ?_, fun hn => absurd hd hn⟩ (Or.inl hd)
    rw [hd', handleFrequencyChange_frequency, hd.reading_eq]
  · by_cases ha : Accepted field
    · have hd' := haccept ha
      constructor
      · rintro ⟨_, h⟩
        have hcur := (h hd).1
        rw [hd', handleFrequencyChange_frequency] at hcur
        exact Or.inr (Or.inr hcur)
      · rintro (h | h | h)
        · exact absurd h hd
        · exact absurd ha h
        · rw [← hf] at h
          rw [h, handleFrequencyChange_same] at hd'
          rw [hd']
          exact ⟨fun h => absurd h hd, fun _ => ⟨hf, hb, hr⟩⟩
    · rw [hreject ha]
      exact iff_of_true ⟨fun h => absurd h hd, fun _ => ⟨rfl, rfl, rfl⟩⟩ (Or.inr (Or.inl ha))

/-- Both parsers treat their field as decimal text exactly when it is a 32-bit
decimal number, or `strtoul` leaves a part of it unread, or the number it makes
of anything else is the frequency the parser already has. -/
theorem readsField_exact (d : Device) (command : Bytes) :
    (ReadsField command d (processFaCommand command d).2 ↔
      (Decimal32 command ∨ ¬ Accepted command ∨
        reading command = d.catParser.currentFrequency)) ∧
    (35 ≤ command.length →
      (ReadsField (command.take 11) d (processIfCommand command d).2 ↔
        (Decimal32 (command.take 11) ∨ ¬ Accepted (command.take 11) ∨
          reading (command.take 11) = d.catParser.currentFrequency))) := by
  constructor
  · refine readsField_iff d rfl rfl rfl ?_ ?_
    · intro h
      have hc : charAt command (strtoul 32 command).2 ≠ 0 := h
      simp only [processFaCommand, if_pos hc]
    · intro h
      have hc : ¬ charAt command (strtoul 32 command).2 ≠ 0 := not_not.mpr h
      simp only [processFaCommand, if_neg hc]
      rfl
  · intro hlen
    refine readsField_iff { d with catParser := { d.catParser with
      transmitting := charAt command 26 = 49, currentMode := modeOf (charAt command 27) } }
      rfl rfl rfl ?_ ?_
    · intro h
      have hc : charAt (command.take 11) (strtoul 32 (command.take 11)).2 ≠ 0 := h
      simp only [processIfCommand, if_neg (Nat.not_lt.mpr hlen), if_pos hc]
    · intro h
      have hc : ¬ charAt (command.take 11) (strtoul 32 (command.take 11)).2 ≠ 0 := not_not.mpr h
      simp only [processIfCommand, if_neg (Nat.not_lt.mpr hlen), if_neg hc]
      rfl

theorem readsField_exact_info :
    let d : Device := ⟨⟨.zero, [], []⟩, ⟨.zero, 0, -1, false, .unset⟩, Relay.construct⟩
    ReadsField (text "00014074000") d
        (processIfCommand (text "000140740000000+000000000020000000 ") d).2 ↔
      (Decimal32 (text "00014074000") ∨ ¬ Accepted (text "00014074000") ∨
        reading (text "00014074000") = 0) :=
  (readsField_exact _ (text "000140740000000+000000000020000000 ")).2 (by decide)

/-- The bare query `FA;` has an empty field and sets the frequency to zero. -/
theorem readsField_fails :
    ¬ ∀ (d : Device) (command : Bytes), ReadsField command d (processFaCommand command d).2 := by
  intro h
  have hq := (h ⟨⟨.zero, [], []⟩, ⟨.zero, 14074000, -1, false, .unset⟩, Relay.construct⟩ []).2
    (fun hd => hd.1 rfl)
  exact absurd hq.1 (by decide)

end BandDecoder.FrequencyText
