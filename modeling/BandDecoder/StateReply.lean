import BandDecoder.CStrings
import Mathlib.Data.BitVec

namespace BandDecoder.StateReply

open CStrings

def NUM_RELAYS : Nat := 16

/-- `__builtin_ffs`: one more than the index of the lowest set bit, 0 if none is set. -/
def ffs (v : BitVec 16) : Nat :=
  match (List.range NUM_RELAYS).find? fun i => v.getLsbD i with
  | some i => i + 1
  | none => 0

def combine (d1 d0 : UInt8) : BitVec 16 :=
  d1.toBitVec.setWidth 16 <<< 8 ||| d0.toBitVec.setWidth 16

def only (relay : Nat) : BitVec 16 := 1#16 <<< (relay - 1)

def parseByte (s : Bytes) : Option (UInt8 × Bytes) :=
  let (val, next) := strtol 32 s
  if next = 0 ∨ val < 0 ∨ 255 < val then none else some (UInt8.ofInt val, s.drop next)

/-- The scans of `parse_relay_state_response` on the text from the last `RELAY-`
on. Pointers are suffixes of that text; the pattern is `none` where the source
returns `ESP_FAIL`. -/
def parseLast (last : Bytes) : Option (BitVec 16) :=
  if last.length < 18 then none
  else if charAt last 0 ≠ 82 ∨ charAt last 5 ≠ 45 ∨ charAt last 6 ≠ 83 then none
  else match strstr last (text "-255") with
    | none => none
    | some pos =>
        let comma := (last.drop (pos + 4)).dropWhile (· ≠ 44)
        if comma.length < 4 then none
        else match parseByte comma.tail with
          | none => none
          | some (d1, next) =>
              if charAt next 0 ≠ 44 then none
              else match parseByte next.tail with
                | none => none
                | some (d0, next) =>
                    let ok := next.dropWhile fun b => b = 44 || b ≤ 32
                    if ok.length ≤ 1 ∨ charAt ok 0 ≠ 79 ∨ charAt ok 1 ≠ 75 then none
                    else some (combine d1 d0)

def parse (response : Bytes) : Option (BitVec 16) :=
  match rfind (text "RELAY-") response with
  | none => none
  | some pos => parseLast (response.drop pos)

example : parse (text "RELAY-STATE-255,1,4,OK") = some (only 9 ||| only 3) := by decide

def reply (header : Bytes) (d1 d0 : UInt8) : Bytes :=
  header ++ 44 :: (decimal d1.toNat ++ 44 :: (decimal d0.toNat ++ text ",OK"))

theorem ofInt_toNat (d : UInt8) : UInt8.ofInt d.toNat = d := by
  have hlt := d.toNat_lt
  have hmod : ((d.toNat : Int) % 2 ^ 8).toNat = d.toNat := by omega
  rw [UInt8.ofInt, hmod, UInt8.ofNat_toNat]

theorem toNat_ofInt {v : Int} (h0 : 0 ≤ v) (h255 : v ≤ 255) : ((UInt8.ofInt v).toNat : Int) = v := by
  rw [UInt8.ofInt, UInt8.toNat_ofNat']
  omega

theorem parseByte_iff {s t : Bytes} {d : UInt8} :
    parseByte s = some (d, t) ↔
      ∃ n, s = n ++ t ∧ Numeral n d.toNat ∧ ∀ b ∈ t.head?, isDigit b = false := by
  constructor
  · intro h
    rw [parseByte] at h
    dsimp only at h
    split at h
    · cases h
    · rename_i hr
      obtain ⟨n, t', v, rfl, hn, ht⟩ := @strtol_sound 32 s fun h0 => hr (Or.inl h0)
      rw [strtol_numeral 32 hn ht] at h hr
      have hv : max (-2 ^ 31) (min v (2 ^ 31 - 1)) = v := by omega
      rw [hv] at h hr
      rw [List.drop_left] at h
      obtain ⟨rfl, rfl⟩ := Prod.mk.inj (Option.some.inj h)
      refine ⟨n, rfl, ?_, ht⟩
      rwa [toNat_ofInt (by omega) (by omega)]
  · rintro ⟨n, rfl, hn, ht⟩
    have hlt := d.toNat_lt
    have hlen : n.length ≠ 0 := fun h0 => hn.ne_nil (List.length_eq_zero_iff.mp h0)
    have hv : max (-2 ^ 31) (min (d.toNat : Int) (2 ^ 31 - 1)) = d.toNat := by omega
    rw [parseByte, strtol_numeral 32 hn ht]
    dsimp only
    rw [hv, if_neg (by omega), List.drop_left, ofInt_toNat]

theorem not_digit_comma (t : Bytes) : ∀ b ∈ (44 :: t).head?, isDigit b = false := by
  intro b hb
  cases hb
  decide

/-- What has to follow `-255`: any text up to the first comma, two numbers with a
comma between them, and `OK` behind commas and blanks. -/
def Fields (t : Bytes) (d1 d0 : UInt8) : Prop :=
  ∃ w n₁ n₀ separators rest,
    t = w ++ 44 :: (n₁ ++ 44 :: (n₀ ++ (separators ++ 79 :: 75 :: rest))) ∧ 44 ∉ w ∧
    Numeral n₁ d1.toNat ∧ Numeral n₀ d0.toNat ∧ ∀ b ∈ separators, b = 44 ∨ b ≤ 32

theorem skip_to_comma {w : Bytes} (h : 44 ∉ w) (t : Bytes) :
    (w ++ 44 :: t).dropWhile (· ≠ 44) = 44 :: t := by
  rw [List.dropWhile_append_of_pos]
  · rfl
  · intro b hb
    have : b ≠ 44 := fun he => h (he ▸ hb)
    simpa using this

theorem comma_found {t : Bytes} (h : t.dropWhile (· ≠ 44) ≠ []) :
    ∃ w, 44 ∉ w ∧ t = w ++ 44 :: (t.dropWhile (· ≠ 44)).tail := by
  refine ⟨t.takeWhile (· ≠ 44), ?_, ?_⟩
  · intro hm
    simpa using List.mem_takeWhile_imp hm
  · obtain ⟨b, s, hs⟩ := List.exists_cons_of_ne_nil h
    have hb := List.head?_dropWhile_not (· ≠ 44) t
    rw [hs] at hb
    have he : b = 44 := by simpa using hb
    have ht := List.takeWhile_append_dropWhile (p := (· ≠ 44)) (l := t)
    rw [hs, he] at ht
    rw [hs, List.tail_cons]
    exact ht.symm

theorem ok_iff {t : Bytes} :
    (∃ separators rest, t = separators ++ 79 :: 75 :: rest ∧ ∀ b ∈ separators, b = 44 ∨ b ≤ 32) ↔
      ¬ ((t.dropWhile fun b => b = 44 || b ≤ 32).length ≤ 1 ∨
        charAt (t.dropWhile fun b => b = 44 || b ≤ 32) 0 ≠ 79 ∨
        charAt (t.dropWhile fun b => b = 44 || b ≤ 32) 1 ≠ 75) := by
  constructor
  · rintro ⟨separators, rest, rfl, hsep⟩
    have hskip : (separators ++ 79 :: 75 :: rest).dropWhile (fun b => b = 44 || b ≤ 32) =
        79 :: 75 :: rest := by
      rw [List.dropWhile_append_of_pos]
      · rfl
      · intro b hb
        simpa using hsep b hb
    rw [hskip]
    simp [charAt]
  · intro h
    rw [not_or, not_or] at h
    obtain ⟨hlen, hO, hK⟩ := h
    refine ⟨t.takeWhile fun b => b = 44 || b ≤ 32, (t.dropWhile fun b => b = 44 || b ≤ 32).drop 2, ?_, ?_⟩
    · cases hd : t.dropWhile fun b => b = 44 || b ≤ 32 with
      | nil => simp [hd] at hlen
      | cons a s =>
          cases s with
          | nil => simp [hd] at hlen
          | cons b s =>
              rw [hd] at hO hK
              have ha : a = 79 := by simpa [charAt] using hO
              have hb : b = 75 := by simpa [charAt] using hK
              subst ha hb
              have ht := List.takeWhile_append_dropWhile (p := fun b => b = 44 || b ≤ 32) (l := t)
              rw [hd] at ht
              exact ht.symm
    · intro b hb
      simpa using List.mem_takeWhile_imp hb

theorem not_digit_separators {separators rest : Bytes} (h : ∀ b ∈ separators, b = 44 ∨ b ≤ 32) :
    ∀ b ∈ (separators ++ 79 :: 75 :: rest).head?, isDigit b = false := by
  cases separators with
  | nil =>
      intro b hb
      cases hb
      decide
  | cons c cs =>
      intro b hb
      cases hb
      rcases h c List.mem_cons_self with rfl | hc
      · decide
      · have hlt : ¬ 48 ≤ c := fun h48 => absurd (UInt8.le_trans h48 hc) (by decide)
        simp [isDigit, hlt]

/-- `parse_relay_state_response` behind its `ptr += 4`. -/
def parseFields (t : Bytes) : Option (BitVec 16) :=
  let comma := t.dropWhile (· ≠ 44)
  if comma.length < 4 then none
  else match parseByte comma.tail with
    | none => none
    | some (d1, next) =>
        if charAt next 0 ≠ 44 then none
        else match parseByte next.tail with
          | none => none
          | some (d0, next) =>
              let ok := next.dropWhile fun b => b = 44 || b ≤ 32
              if ok.length ≤ 1 ∨ charAt ok 0 ≠ 79 ∨ charAt ok 1 ≠ 75 then none
              else some (combine d1 d0)

theorem parseLast_eq (last : Bytes) :
    parseLast last =
      if last.length < 18 then none
      else if charAt last 0 ≠ 82 ∨ charAt last 5 ≠ 45 ∨ charAt last 6 ≠ 83 then none
      else match strstr last (text "-255") with
        | none => none
        | some pos => parseFields (last.drop (pos + 4)) := rfl

theorem parseFields_complete {t : Bytes} {d1 d0 : UInt8} (h : Fields t d1 d0) :
    parseFields t = some (combine d1 d0) := by
  obtain ⟨w, n₁, n₀, separators, rest, rfl, hw, hv₁, hv₀, hsep⟩ := h
  rw [parseFields, skip_to_comma hw]
  dsimp only
  rw [if_neg (by simp; omega), List.tail_cons,
    parseByte_iff.mpr ⟨n₁, rfl, hv₁, not_digit_comma _⟩]
  dsimp only
  rw [if_neg (by simp [charAt]), List.tail_cons,
    parseByte_iff.mpr ⟨n₀, rfl, hv₀, not_digit_separators hsep⟩]
  dsimp only
  rw [if_neg (ok_iff.mp ⟨separators, rest, rfl, hsep⟩)]

theorem parseFields_sound {t : Bytes} {v : BitVec 16} (h : parseFields t = some v) :
    ∃ d1 d0, Fields t d1 d0 ∧ v = combine d1 d0 := by
  rw [parseFields] at h
  dsimp only at h
  split at h
  · cases h
  · rename_i hcomma
    split at h
    · cases h
    · rename_i d1 next h1
      split at h
      · cases h
      · rename_i hnext
        split at h
        · cases h
        · rename_i d0 behind h0
          split at h
          · cases h
          · rename_i hok
            cases h
            obtain ⟨w, hw, ht⟩ := comma_found (t := t) (fun he => hcomma (by rw [he]; decide))
            obtain ⟨n₁, hn₁, hv₁, -⟩ := parseByte_iff.mp h1
            obtain ⟨n₀, hn₀, hv₀, -⟩ := parseByte_iff.mp h0
            obtain ⟨separators, rest, hs, hsep⟩ := ok_iff.mpr hok
            have hcons : next = 44 :: next.tail := by
              cases next with
              | nil => exact absurd (show charAt [] 0 ≠ 44 by decide) hnext
              | cons b s => simpa [charAt] using hnext
            refine ⟨d1, d0, ⟨w, n₁, n₀, separators, rest, ?_, hw, hv₁, hv₀, hsep⟩, rfl⟩
            rw [← hs, ← hn₀, ← hcons, ← hn₁]
            exact ht

/-- What the scans of `parse_relay_state_response` let through. -/
theorem parseLast_iff {last : Bytes} {v : BitVec 16} :
    parseLast last = some v ↔
      18 ≤ last.length ∧ charAt last 0 = 82 ∧ charAt last 5 = 45 ∧ charAt last 6 = 83 ∧
        ∃ pos d1 d0, strstr last (text "-255") = some pos ∧ Fields (last.drop (pos + 4)) d1 d0 ∧
          v = combine d1 d0 := by
  rw [parseLast_eq]
  constructor
  · intro h
    split at h
    · cases h
    · rename_i hlen
      split at h
      · cases h
      · rename_i hhead
        simp only [ne_eq, not_or, Decidable.not_not] at hhead
        split at h
        · cases h
        · rename_i pos hpos
          obtain ⟨d1, d0, hf, hv⟩ := parseFields_sound h
          exact ⟨by omega, hhead.1, hhead.2.1, hhead.2.2, pos, d1, d0, hpos, hf, hv⟩
  · rintro ⟨hlen, hR, hdash, hS, pos, d1, d0, hpos, hf, rfl⟩
    rw [if_neg (by omega), if_neg (by simp [hR, hdash, hS]), hpos]
    exact parseFields_complete hf

def stateHeader : Bytes := text "RELAY-STATE-255"

def setAllHeader : Bytes := text "RELAY-SET_ALL-255"

theorem parseLast_header {header : Bytes} (h : header = stateHeader ∨ header = setAllHeader)
    (t : Bytes) : ∃ pos, pos + 4 = header.length ∧ 15 ≤ header.length ∧
      charAt (header ++ t) 0 = 82 ∧ charAt (header ++ t) 5 = 45 ∧ charAt (header ++ t) 6 = 83 ∧
      strstr (header ++ t) (text "-255") = some pos ∧ (header ++ t).drop (pos + 4) = t := by
  have hnul : 0 ∉ header := by
    rcases h with rfl | rfl <;> decide
  obtain ⟨pos, hpos, hlen⟩ : ∃ pos, find (text "-255") header = some pos ∧ pos + 4 = header.length := by
    rcases h with rfl | rfl
    · exact ⟨11, by decide, by decide⟩
    · exact ⟨13, by decide, by decide⟩
  obtain ⟨h15, hR, hdash, hS⟩ : 15 ≤ header.length ∧ charAt (header ++ t) 0 = 82 ∧
      charAt (header ++ t) 5 = 45 ∧ charAt (header ++ t) 6 = 83 := by
    rcases h with rfl | rfl <;> exact ⟨by decide, rfl, rfl, rfl⟩
  refine ⟨pos, hlen, h15, hR, hdash, hS, ?_, by rw [hlen, List.drop_left]⟩
  rw [strstr, cstr_append_of_not_mem hnul, find_append hpos]

/-- Whatever stands between the header and the first comma, and whatever follows. -/
theorem parseLast_reply {header : Bytes} (h : header = stateHeader ∨ header = setAllHeader)
    (d1 d0 : UInt8) {w : Bytes} (hw : 44 ∉ w) (s : Bytes) :
    parseLast (header ++ (w ++ 44 :: (decimal d1.toNat ++ 44 :: (decimal d0.toNat ++ (text ",OK" ++ s))))) =
      some (combine d1 d0) := by
  obtain ⟨pos, -, h15, hR, hdash, hS, hpos, hdrop⟩ := parseLast_header h
    (w ++ 44 :: (decimal d1.toNat ++ 44 :: (decimal d0.toNat ++ (text ",OK" ++ s))))
  refine parseLast_iff.mpr ⟨?_, hR, hdash, hS, pos, d1, d0, hpos, ?_, rfl⟩
  · simp [text]
    omega
  · rw [hdrop]
    exact ⟨w, _, _, [44], s, rfl, hw, numeral_decimal _, numeral_decimal _, by simp⟩

theorem rfind_zero {pat t : Bytes} {b : UInt8} (h : pat <+: b :: t) (hb : pat.head? = some b)
    (ht : b ∉ t) : rfind pat (b :: t) = some 0 := by
  refine rfind_eq_some_iff.mpr ⟨Nat.zero_le _, h, ?_⟩
  intro i _ hpos hp
  obtain ⟨k, rfl⟩ := Nat.exists_eq_succ_of_ne_zero hpos.ne'
  rw [List.drop_succ_cons] at hp
  exact ht (List.mem_of_mem_drop (hp.subset (List.mem_of_mem_head? hb)))

theorem parse_reply {header : Bytes} (h : header = stateHeader ∨ header = setAllHeader)
    (d1 d0 : UInt8) : parse (reply header d1 d0) = some (combine d1 d0) := by
  obtain ⟨t, ht, hpre, hmem⟩ : ∃ t, header = 82 :: t ∧ text "RELAY-" <+: header ∧ 82 ∉ t := by
    rcases h with rfl | rfl <;> exact ⟨_, rfl, by decide, by decide⟩
  have hdec (d : UInt8) : 82 ∉ decimal d.toNat := not_mem_decimal (by decide) d.toNat
  have hlast : rfind (text "RELAY-") (reply header d1 d0) = some 0 := by
    have hp := hpre.trans (List.prefix_append header
      (44 :: (decimal d1.toNat ++ 44 :: (decimal d0.toNat ++ text ",OK"))))
    rw [reply, ht, List.cons_append] at *
    refine rfind_zero hp (by decide) ?_
    simp only [List.mem_append, List.mem_cons, hmem, hdec, false_or]
    decide
  have hp := parseLast_reply h d1 d0 (w := []) (by simp) []
  rw [parse, hlast]
  simpa only [reply, List.nil_append, List.append_nil, List.drop_zero] using hp

theorem ffs_eq_succ_iff {v : BitVec 16} {i : Nat} :
    ffs v = i + 1 ↔ i < NUM_RELAYS ∧ v.getLsbD i ∧ ∀ j < i, v.getLsbD j = false := by
  rw [ffs]
  cases h : (List.range NUM_RELAYS).find? fun i => v.getLsbD i with
  | none =>
      simp only [List.find?_range_eq_none, Bool.not_eq_true'] at h
      change 0 = i + 1 ↔ _
      constructor
      · intro h0; omega
      · rintro ⟨hi, hv, _⟩
        simp [h i hi] at hv
  | some k =>
      have hk := List.find?_range_eq_some.mp h
      simp only [List.mem_range, Bool.not_eq_true'] at hk
      change k + 1 = i + 1 ↔ _
      constructor
      · intro he
        obtain rfl : k = i := by omega
        exact ⟨hk.2.1, hk.1, hk.2.2⟩
      · rintro ⟨hi, hv, hlow⟩
        rcases Nat.lt_trichotomy k i with hlt | rfl | hgt
        · simp [hlow k hlt] at hk
        · rfl
        · simp [hk.2.2 i hgt] at hv

theorem ffs_eq_zero_iff {v : BitVec 16} : ffs v = 0 ↔ ∀ i < NUM_RELAYS, v.getLsbD i = false := by
  rw [ffs]
  cases h : (List.range NUM_RELAYS).find? fun i => v.getLsbD i with
  | none => simpa [List.find?_range_eq_none] using h
  | some k =>
      have hk := List.find?_range_eq_some.mp h
      simp only [List.mem_range] at hk
      simp only [Nat.add_eq_zero_iff, Nat.one_ne_zero, and_false, false_iff, not_forall]
      exact ⟨k, hk.2.1, by simp [hk.1]⟩

theorem getLsbD_only {relay i : Nat} (h : 1 ≤ relay) (hr : relay ≤ NUM_RELAYS) :
    (only relay).getLsbD i = decide (i + 1 = relay) := by
  simp only [NUM_RELAYS] at hr
  simp only [only, BitVec.getLsbD_shiftLeft, BitVec.getLsbD_one, Nat.zero_lt_succ, decide_true,
    Bool.true_and]
  by_cases hi : i + 1 = relay
  · simp [← hi]; omega
  · simp [hi]; omega

theorem ffs_only {relay : Nat} (h : 1 ≤ relay) (hr : relay ≤ NUM_RELAYS) :
    ffs (only relay) = relay := by
  obtain ⟨i, rfl⟩ : ∃ i, relay = i + 1 := ⟨relay - 1, by omega⟩
  rw [ffs_eq_succ_iff]
  refine ⟨by omega, by simp [getLsbD_only h hr], ?_⟩
  intro j hj
  simp [getLsbD_only h hr]
  omega

theorem eq_only_iff {v : BitVec 16} {relay : Nat} (h : 1 ≤ relay) (hr : relay ≤ NUM_RELAYS) :
    v = only relay ↔ ∀ i < NUM_RELAYS, (v.getLsbD i ↔ i + 1 = relay) := by
  constructor
  · rintro rfl i _
    simp [getLsbD_only h hr]
  · intro hv
    apply BitVec.eq_of_getLsbD_eq
    intro i hi
    rw [getLsbD_only h hr, Bool.eq_iff_iff, hv i hi, decide_eq_true_iff]

end BandDecoder.StateReply
