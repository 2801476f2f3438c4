import Mathlib.Algebra.Ring.Int.Defs
import Mathlib.Algebra.Ring.Nat
import Mathlib.Data.List.Infix
import Mathlib.Data.List.TakeWhile
import Mathlib.Tactic.Common

namespace BandDecoder.CStrings

abbrev Bytes := List UInt8

def text (s : String) : Bytes := s.toList.map fun c => UInt8.ofNat c.toNat

/-- The C string that a buffer holds: its bytes before the first NUL. -/
def cstr (s : Bytes) : Bytes := s.takeWhile (· ≠ 0)

def find (pat s : Bytes) : Option Nat :=
  (List.range (s.length + 1)).find? fun i => pat.isPrefixOf (s.drop i)

def rfind (pat s : Bytes) : Option Nat :=
  (List.range (s.length + 1)).reverse.find? fun i => pat.isPrefixOf (s.drop i)

def strstr (s pat : Bytes) : Option Nat := find pat (cstr s)

def isSpace (b : UInt8) : Bool := b = 32 || (9 ≤ b && b ≤ 13)

def isDigit (b : UInt8) : Bool := 48 ≤ b && b ≤ 57

def digitsValue (ds : Bytes) : Nat := ds.foldl (fun v b => 10 * v + (b.toNat - 48)) 0

/-- What `strtol` and `strtoul` see in base ten: blanks, one optional sign and a
run of digits. With no digit at all nothing is consumed and `stop` is zero. -/
structure Subject where
  negative : Bool
  digits : Bytes
  stop : Nat

def unsignedPart (s : Bytes) : Bytes :=
  if s.head? = some 43 ∨ s.head? = some 45 then s.tail else s

def subject (s : Bytes) : Subject :=
  let signed := s.dropWhile isSpace
  let digits := (unsignedPart signed).takeWhile isDigit
  ⟨signed.head? = some 45, digits,
    if digits = [] then 0 else s.length - ((unsignedPart signed).dropWhile isDigit).length⟩

/-- `unsigned long` of the given width: negation wraps, overflow saturates. -/
def strtoul (width : Nat) (s : Bytes) : Nat × Nat :=
  let p := subject s
  let v := digitsValue p.digits
  (if 2 ^ width ≤ v then 2 ^ width - 1 else if p.negative then (2 ^ width - v) % 2 ^ width else v,
    p.stop)

/-- `long` of the given width: both overflows saturate. -/
def strtol (width : Nat) (s : Bytes) : Int × Nat :=
  let p := subject s
  let v : Int := digitsValue p.digits
  (if p.negative then max (-v) (-2 ^ (width - 1)) else min v (2 ^ (width - 1) - 1), p.stop)

def Numeral (n : Bytes) (v : Int) : Prop :=
  ∃ blanks sign digits, n = blanks ++ (sign ++ digits) ∧ (∀ b ∈ blanks, isSpace b) ∧
    (sign = [] ∨ sign = [43] ∨ sign = [45]) ∧ digits ≠ [] ∧ (∀ b ∈ digits, isDigit b) ∧
    v = if sign = [45] then -(digitsValue digits : Int) else digitsValue digits

/-- The character an end pointer shows: the terminator once the text is used up. -/
def charAt (s : Bytes) (i : Nat) : UInt8 := s.getD i 0

def decimal (n : Nat) : Bytes := (Nat.toDigits 10 n).map fun c => UInt8.ofNat c.toNat

theorem cstr_eq_self {s : Bytes} (h : 0 ∉ s) : cstr s = s := by
  apply List.takeWhile_eq_self_iff.mpr
  intro b hb
  have : b ≠ 0 := fun he => h (he ▸ hb)
  simpa using this

theorem zero_not_mem_cstr (s : Bytes) : 0 ∉ cstr s := by
  intro h
  simpa using List.mem_takeWhile_imp h

@[simp] theorem cstr_cstr (s : Bytes) : cstr (cstr s) = cstr s := cstr_eq_self (zero_not_mem_cstr s)

theorem length_cstr_lt {s : Bytes} (h : 0 ∈ s) : (cstr s).length < s.length := by
  have hpre : cstr s <+: s := List.takeWhile_prefix _
  have hle := hpre.length_le
  by_contra hn
  have he := hpre.eq_of_length (by omega)
  rw [← he] at h
  exact zero_not_mem_cstr _ h

/-- Text behind a NUL does not count. -/
theorem cstr_append_of_mem {s : Bytes} (h : 0 ∈ s) (t : Bytes) : cstr (s ++ t) = cstr s := by
  have hlt := length_cstr_lt h
  rw [cstr] at hlt
  rw [cstr, cstr, List.takeWhile_append, if_neg (by omega)]

theorem cstr_append_of_not_mem {s : Bytes} (h : 0 ∉ s) (t : Bytes) : cstr (s ++ t) = s ++ cstr t := by
  rw [cstr, List.takeWhile_append_of_pos]
  · rfl
  · intro b hb
    have : b ≠ 0 := fun he => h (he ▸ hb)
    simpa using this

theorem cstr_append_zero {s : Bytes} (h : 0 ∉ s) (t : Bytes) : cstr (s ++ 0 :: t) = s := by
  rw [cstr_append_of_not_mem h, cstr, List.takeWhile_cons_of_neg (by decide), List.append_nil]

theorem cstr_padded {s : Bytes} (h : 0 ∉ s) (k : Nat) : cstr (s ++ List.replicate k 0) = s := by
  cases k with
  | zero => rw [List.replicate_zero, List.append_nil, cstr_eq_self h]
  | succ k => exact cstr_append_zero h _

theorem not_isSpace_of_isDigit {b : UInt8} (h : isDigit b) : isSpace b = false ∧ b ≠ 43 ∧ b ≠ 45 := by
  have hsign : b ≠ 43 ∧ b ≠ 45 := by
    constructor
    · rintro rfl
      cases h
    · rintro rfl
      cases h
  refine ⟨?_, hsign⟩
  simp only [isDigit, Bool.and_eq_true, decide_eq_true_eq, UInt8.le_iff_toNat_le] at h
  simp only [isSpace, Bool.or_eq_false_iff, decide_eq_false_iff_not, Bool.and_eq_false_iff,
    UInt8.le_iff_toNat_le, ← UInt8.toNat_inj]
  simp at h ⊢
  omega

theorem subject_signed {blanks sign digits t : Bytes} (hb : ∀ b ∈ blanks, isSpace b)
    (hs : sign = [] ∨ sign = [43] ∨ sign = [45]) (hne : digits ≠ []) (hd : ∀ b ∈ digits, isDigit b)
    (ht : ∀ b ∈ t.head?, isDigit b = false) :
    subject (blanks ++ (sign ++ digits) ++ t) =
      ⟨decide (sign = [45]), digits, (blanks ++ (sign ++ digits)).length⟩ := by
  obtain ⟨b, ds, rfl⟩ := List.exists_cons_of_ne_nil hne
  obtain ⟨hspace, hplus, hminus⟩ := not_isSpace_of_isDigit (hd b List.mem_cons_self)
  have hskip : (blanks ++ (sign ++ b :: ds) ++ t).dropWhile isSpace = sign ++ (b :: ds ++ t) := by
    rw [List.append_assoc, List.dropWhile_append_of_pos hb]
    rcases hs with rfl | rfl | rfl
    · simp [hspace]
    · rfl
    · rfl
  have hunsigned : unsignedPart (sign ++ (b :: ds ++ t)) = b :: ds ++ t := by
    rcases hs with rfl | rfl | rfl <;> simp [unsignedPart, hplus, hminus]
  have hneg : decide ((sign ++ (b :: ds ++ t)).head? = some 45) = decide (sign = [45]) := by
    rcases hs with rfl | rfl | rfl <;> simp [hminus]
  have hstop : t.takeWhile isDigit = [] ∧ t.dropWhile isDigit = t := by
    cases t with
    | nil => exact ⟨rfl, rfl⟩
    | cons c t => simp [ht c rfl]
  have hlen : (blanks ++ (sign ++ b :: ds) ++ t).length =
      (blanks ++ (sign ++ b :: ds)).length + t.length := List.length_append
  rw [subject, hskip, hunsigned, hneg, List.takeWhile_append_of_pos hd, hstop.1, List.append_nil,
    if_neg hne, List.dropWhile_append_of_pos hd, hstop.2, hlen, Nat.add_sub_cancel]

/-- Where the scan consumes anything, it consumes a number and no digit follows. -/
theorem subject_sound {s : Bytes} (h : (subject s).stop ≠ 0) :
    ∃ blanks sign digits t, s = blanks ++ (sign ++ digits) ++ t ∧ (∀ b ∈ blanks, isSpace b) ∧
      (sign = [] ∨ sign = [43] ∨ sign = [45]) ∧ digits ≠ [] ∧ (∀ b ∈ digits, isDigit b) ∧
      ∀ b ∈ t.head?, isDigit b = false := by
  obtain ⟨sign, hs, hsigned⟩ : ∃ sign, (sign = [] ∨ sign = [43] ∨ sign = [45]) ∧
      s.dropWhile isSpace = sign ++ unsignedPart (s.dropWhile isSpace) := by
    rw [unsignedPart]
    split
    · rename_i hh
      cases hd : s.dropWhile isSpace with
      | nil => exact ⟨[], Or.inl rfl, rfl⟩
      | cons c cs =>
          rw [hd] at hh
          refine ⟨[c], Or.inr ?_, rfl⟩
          rcases hh with hh | hh <;> cases hh <;> simp
    · exact ⟨[], Or.inl rfl, rfl⟩
  refine ⟨s.takeWhile isSpace, sign, (unsignedPart (s.dropWhile isSpace)).takeWhile isDigit,
    (unsignedPart (s.dropWhile isSpace)).dropWhile isDigit, ?_, ?_, hs, ?_, ?_, ?_⟩
  · rw [List.append_assoc, List.append_assoc, List.takeWhile_append_dropWhile, ← hsigned,
      List.takeWhile_append_dropWhile]
  · exact fun b hb => List.mem_takeWhile_imp hb
  · intro he
    rw [subject, he, if_pos rfl] at h
    exact h rfl
  · exact fun b hb => List.mem_takeWhile_imp hb
  · intro b hb
    have hn := List.head?_dropWhile_not isDigit (unsignedPart (s.dropWhile isSpace))
    rw [Option.mem_def.mp hb] at hn
    exact hn

theorem subject_digits {s : Bytes} (hne : s ≠ []) (hd : ∀ b ∈ s, isDigit b) :
    subject s = ⟨false, s, s.length⟩ := by
  simpa using @subject_signed [] [] s [] (by simp) (Or.inl rfl) hne hd (by simp)

theorem strtoul_digits (width : Nat) {s : Bytes} (hne : s ≠ []) (hd : ∀ b ∈ s, isDigit b)
    (hv : digitsValue s < 2 ^ width) : strtoul width s = (digitsValue s, s.length) := by
  simp [strtoul, subject_digits hne hd, Nat.not_le.mpr hv]

theorem Numeral.ne_nil {n : Bytes} {v : Int} (h : Numeral n v) : n ≠ [] := by
  obtain ⟨blanks, sign, digits, rfl, -, -, hne, -⟩ := h
  simp [hne]

theorem strtol_numeral (width : Nat) {n t : Bytes} {v : Int} (h : Numeral n v)
    (ht : ∀ b ∈ t.head?, isDigit b = false) :
    strtol width (n ++ t) = (max (-2 ^ (width - 1)) (min v (2 ^ (width - 1) - 1)), n.length) := by
  obtain ⟨blanks, sign, digits, rfl, hb, hs, hne, hd, rfl⟩ := h
  have hpos : (0 : Int) < 2 ^ (width - 1) := Int.pow_pos (by decide)
  rw [strtol, subject_signed hb hs hne hd ht]
  by_cases hm : sign = [45]
  · simp only [hm, decide_true, if_true]
    congr 1
    omega
  · simp only [hm, decide_false, Bool.false_eq_true, if_false]
    congr 1
    omega

theorem strtol_sound {width : Nat} {s : Bytes} (h : (strtol width s).2 ≠ 0) :
    ∃ n t v, s = n ++ t ∧ Numeral n v ∧ ∀ b ∈ t.head?, isDigit b = false := by
  obtain ⟨blanks, sign, digits, t, hs, hb, hsign, hne, hd, ht⟩ := subject_sound h
  exact ⟨blanks ++ (sign ++ digits), t, _, hs, ⟨blanks, sign, digits, rfl, hb, hsign, hne, hd, rfl⟩, ht⟩

/-- A number of more than the type's width saturates, any other is taken modulo. -/
theorem strtoul_numeral (width : Nat) {n t : Bytes} {v : Int} (h : Numeral n v)
    (ht : ∀ b ∈ t.head?, isDigit b = false) :
    strtoul width (n ++ t) =
      (if 2 ^ width ≤ v.natAbs then 2 ^ width - 1 else (v % (2 ^ width : Nat)).toNat, n.length) := by
  obtain ⟨blanks, sign, digits, rfl, hb, hs, hne, hd, rfl⟩ := h
  have habs : (if sign = [45] then -(digitsValue digits : Int) else digitsValue digits).natAbs =
      digitsValue digits := by
    split
    · rw [Int.natAbs_neg, Int.natAbs_natCast]
    · exact Int.natAbs_natCast _
  rw [strtoul, subject_signed hb hs hne hd ht, habs]
  dsimp only
  congr 1
  generalize digitsValue digits = x
  by_cases hx : 2 ^ width ≤ x
  · rw [if_pos hx, if_pos hx]
  · rw [if_neg hx, if_neg hx]
    by_cases hm : sign = [45]
    · have hneg : (-(x : Int)) % ((2 ^ width : Nat) : Int) =
          (((2 ^ width - x) % 2 ^ width : Nat) : Int) := by
        rw [Int.natCast_emod, Int.ofNat_sub (by omega), Int.sub_eq_add_neg, Int.add_comm,
          Int.add_emod_right]
      rw [decide_eq_true hm, if_pos rfl, if_pos hm, hneg, Int.toNat_natCast]
    · rw [decide_eq_false hm, if_neg Bool.false_ne_true, if_neg hm, ← Int.natCast_emod,
        Int.toNat_natCast, Nat.mod_eq_of_lt (by omega)]

theorem strtoul_sound {width : Nat} {s : Bytes} (h : (strtoul width s).2 ≠ 0) :
    ∃ n t v, s = n ++ t ∧ Numeral n v ∧ ∀ b ∈ t.head?, isDigit b = false := by
  obtain ⟨blanks, sign, digits, t, hs, hb, hsign, hne, hd, ht⟩ := subject_sound h
  exact ⟨blanks ++ (sign ++ digits), t, _, hs, ⟨blanks, sign, digits, rfl, hb, hsign, hne, hd, rfl⟩, ht⟩

/-- Text that starts with no number reads as zero. -/
theorem strtoul_of_stop {width : Nat} {s : Bytes} (h : (strtoul width s).2 = 0) :
    (strtoul width s).1 = 0 := by
  have hd : (subject s).digits = [] := by
    by_contra hne
    have hstop : (subject s).stop = s.length -
        ((unsignedPart (s.dropWhile isSpace)).dropWhile isDigit).length := by
      rw [subject]
      exact if_neg hne
    have hsub := (List.dropWhile_suffix isSpace (l := s)).length_le
    have htail : (unsignedPart (s.dropWhile isSpace)).length ≤ (s.dropWhile isSpace).length := by
      rw [unsignedPart]
      split
      · rw [List.length_tail]
        omega
      · exact le_rfl
    have hsplit := congrArg List.length
      (List.takeWhile_append_dropWhile (p := isDigit) (l := unsignedPart (s.dropWhile isSpace)))
    have hpos := List.length_pos_iff.mpr hne
    change 0 < ((unsignedPart (s.dropWhile isSpace)).takeWhile isDigit).length at hpos
    rw [List.length_append] at hsplit
    change (subject s).stop = 0 at h
    omega
  have hpos : ¬ 2 ^ width ≤ 0 := Nat.not_le.mpr (Nat.two_pow_pos width)
  have hzero : digitsValue [] = 0 := rfl
  rw [strtoul, hd, hzero]
  dsimp only
  rw [if_neg hpos, Nat.sub_zero, Nat.mod_self]
  exact ite_self 0

theorem decimal_of_lt {n : Nat} (h : n < 10) : decimal n = [UInt8.ofNat n.digitChar.toNat] := by
  rw [decimal, Nat.toDigits_of_lt_base h]
  rfl

theorem decimal_of_le {n : Nat} (h : 10 ≤ n) :
    decimal n = decimal (n / 10) ++ [UInt8.ofNat (n % 10).digitChar.toNat] := by
  rw [decimal, Nat.toDigits_of_base_le (by decide) h, List.map_append]
  rfl

theorem decimal_ne_nil (n : Nat) : decimal n ≠ [] := by
  simp [decimal, Nat.toDigits_ne_nil]

theorem isDigit_digitChar {n : Nat} (h : n < 10) : isDigit (UInt8.ofNat n.digitChar.toNat) := by
  have hd : ∀ n < 10, isDigit (UInt8.ofNat n.digitChar.toNat) := by decide
  exact hd n h

theorem isDigit_decimal (n : Nat) : ∀ b ∈ decimal n, isDigit b := by
  induction n using Nat.strongRecOn with
  | ind n ih =>
      by_cases h : n < 10
      · rw [decimal_of_lt h]
        simpa using isDigit_digitChar h
      · rw [decimal_of_le (Nat.not_lt.mp h)]
        intro b hb
        rcases List.mem_append.mp hb with hb | hb
        · exact ih (n / 10) (by omega) b hb
        · rw [List.mem_singleton.mp hb]
          exact isDigit_digitChar (by omega)

theorem digitsValue_append (ds : Bytes) (b : UInt8) :
    digitsValue (ds ++ [b]) = 10 * digitsValue ds + (b.toNat - 48) := by
  rw [digitsValue, List.foldl_append]
  rfl

theorem digitsValue_decimal (n : Nat) : digitsValue (decimal n) = n := by
  have hd : ∀ n < 10, (UInt8.ofNat n.digitChar.toNat).toNat - 48 = n := by decide
  induction n using Nat.strongRecOn with
  | ind n ih =>
      by_cases h : n < 10
      · rw [decimal_of_lt h, ← List.nil_append [_], digitsValue_append, hd n h]
        simp [digitsValue]
      · rw [decimal_of_le (Nat.not_lt.mp h), digitsValue_append, ih (n / 10) (by omega),
          hd (n % 10) (by omega)]
        omega

theorem numeral_decimal (n : Nat) : Numeral (decimal n) n :=
  ⟨[], [], decimal n, rfl, by simp, Or.inl rfl, decimal_ne_nil n, isDigit_decimal n, by
    rw [digitsValue_decimal, if_neg (by simp)]⟩

theorem length_decimal_le {k n : Nat} (h : n < 10 ^ (k + 1)) : (decimal n).length ≤ k + 1 := by
  induction k generalizing n with
  | zero => simp [decimal_of_lt (by simpa using h)]
  | succ k ih =>
      by_cases hn : n < 10
      · simp [decimal_of_lt hn]
      · have := ih (n := n / 10) (by rw [Nat.pow_succ] at h; omega)
        rw [decimal_of_le (by omega), List.length_append, List.length_singleton]
        omega

theorem decimal_injective : Function.Injective decimal := by
  intro m n h
  rw [← digitsValue_decimal m, h, digitsValue_decimal]

theorem not_mem_decimal {b : UInt8} (h : isDigit b = false) (n : Nat) : b ∉ decimal n := by
  intro hb
  rw [isDigit_decimal n b hb] at h
  cases h

theorem find?_reverse_range {p : Nat → Bool} {n i : Nat} :
    (List.range n).reverse.find? p = some i ↔ i < n ∧ p i ∧ ∀ j < n, i < j → p j = false := by
  induction n with
  | zero => simp
  | succ n ih =>
      rw [List.range_succ, List.reverse_append, List.reverse_singleton, List.singleton_append,
        List.find?_cons]
      cases hp : p n with
      | true =>
          constructor
          · intro h
            cases h
            exact ⟨Nat.lt_succ_self _, hp, fun j hj hi => by omega⟩
          · rintro ⟨hi, -, hno⟩
            by_cases he : i = n
            · rw [he]
            · have hpn := hno n (Nat.lt_succ_self n) (by omega)
              rw [hp] at hpn
              cases hpn
      | false =>
          dsimp only
          rw [ih]
          constructor
          · rintro ⟨hi, hpi, hno⟩
            refine ⟨by omega, hpi, fun j hj hij => ?_⟩
            by_cases he : j = n
            · rw [he, hp]
            · exact hno j (by omega) hij
          · rintro ⟨hi, hpi, hno⟩
            have hne : i ≠ n := by
              intro he
              rw [he, hp] at hpi
              cases hpi
            exact ⟨by omega, hpi, fun j hj hij => hno j (by omega) hij⟩

theorem rfind_eq_some_iff {pat s : Bytes} {i : Nat} :
    rfind pat s = some i ↔ i ≤ s.length ∧ pat <+: s.drop i ∧
      ∀ j ≤ s.length, i < j → ¬ pat <+: s.drop j := by
  simp only [rfind, find?_reverse_range, List.isPrefixOf_iff_prefix, Nat.lt_succ_iff,
    Bool.eq_false_iff, ne_eq]

theorem find_append {pat s : Bytes} {i : Nat} (h : find pat s = some i) (t : Bytes) :
    find pat (s ++ t) = some i := by
  simp only [find, List.find?_range_eq_some, List.isPrefixOf_iff_prefix, List.mem_range,
    Bool.not_eq_true', Bool.eq_false_iff, ne_eq] at h ⊢
  obtain ⟨hp, hi, hno⟩ := h
  have hlen := hp.length_le
  rw [List.length_drop] at hlen
  refine ⟨?_, by rw [List.length_append]; omega, fun j hj hpj => hno j hj ?_⟩
  · rw [List.drop_append_of_le_length (by omega)]
    exact hp.trans (List.prefix_append _ _)
  · rw [List.drop_append_of_le_length (by omega)] at hpj
    refine List.prefix_of_prefix_length_le hpj (List.prefix_append _ _) ?_
    rw [List.length_drop]
    omega

theorem charAt_length (s : Bytes) : charAt s s.length = 0 := by
  simp [charAt]

end BandDecoder.CStrings
