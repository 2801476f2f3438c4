import BandDecoder.CStrings
import Mathlib.Data.Fin.Basic

namespace BandDecoder.SwitchConfig

open CStrings

/-- The `esp_err_t` results the program tells apart. Any other NVS error keeps
its code. -/
inductive EspErr
  | ok
  | fail
  | noMem
  | invalidArg
  | invalidState
  | notFound
  | timeout
  | nvsNotFound
  | nvs (code : Nat)
  deriving DecidableEq, Repr

def MAX_BANDS : Nat := 10

def MAX_ANTENNA_PORTS : Nat := 8

abbrev CharArray (n : Nat) := Fin n → UInt8

namespace CharArray

variable {n : Nat}

def bytes (a : CharArray n) : Bytes := List.ofFn a

def str (a : CharArray n) : Bytes := cstr a.bytes

def Terminated (a : CharArray n) : Prop := ∃ i, a i = 0

def zero : CharArray n := fun _ => 0

/-- `strncpy(a, s, n - 1)` followed by a terminator in the last cell. -/
def strncpy (s : Bytes) : CharArray n := fun i =>
  if i.val + 1 < n then charAt (cstr s) i else 0

/-- `strcpy(a, s)`: the cells behind the terminator keep what they held. -/
def strcpy (a : CharArray n) (s : Bytes) : CharArray n := fun i =>
  if i.val ≤ (cstr s).length then charAt (cstr s) i else a i

theorem terminated_zero (h : 0 < n) : (zero : CharArray n).Terminated := ⟨⟨0, h⟩, rfl⟩

theorem terminated_strncpy (h : 0 < n) (s : Bytes) : (strncpy s : CharArray n).Terminated :=
  ⟨⟨n - 1, by omega⟩, by simp only [strncpy]; rw [if_neg (by omega)]⟩

theorem terminated_strcpy (a : CharArray n) (s : Bytes) (h : (cstr s).length < n) :
    (strcpy a s).Terminated :=
  ⟨⟨(cstr s).length, h⟩, by simp [strcpy, charAt_length]⟩

theorem length_str_lt {a : CharArray n} (h : a.Terminated) : a.str.length < n := by
  obtain ⟨i, hi⟩ := h
  have hlt := length_cstr_lt (s := a.bytes) (List.mem_ofFn.mpr ⟨i, hi⟩)
  rwa [bytes, List.length_ofFn] at hlt

/-- A field that shows a text is the text with zeros behind it. -/
theorem bytes_of_charAt {a : CharArray n} {s : Bytes} (h : ∀ i : Fin n, a i = charAt s i)
    (hs : s.length ≤ n) : a.bytes = s ++ List.replicate (n - s.length) 0 := by
  apply List.ext_getElem
  · rw [bytes, List.length_ofFn, List.length_append, List.length_replicate]
    omega
  · intro i h₁ h₂
    simp only [bytes, List.getElem_ofFn, h, charAt, List.getElem_append, List.getElem_replicate,
      List.getD_eq_getElem?_getD]
    by_cases hi : i < s.length
    · rw [dif_pos hi, List.getElem?_eq_getElem hi, Option.getD_some]
    · rw [dif_neg hi, List.getElem?_eq_none (Nat.not_lt.mp hi), Option.getD_none]

theorem bytes_strncpy (s : Bytes) :
    (strncpy s : CharArray (n + 1)).bytes =
      (cstr s).take n ++ List.replicate (n + 1 - ((cstr s).take n).length) 0 := by
  have hlen := List.length_take_le n (cstr s)
  refine bytes_of_charAt (fun i => ?_) (Nat.le_succ_of_le hlen)
  simp only [strncpy, charAt, List.getD_eq_getElem?_getD, List.getElem?_take, Nat.add_lt_add_iff_right]
  split <;> rfl

/-- A string that fits comes back, a longer one loses its end. -/
theorem str_strncpy (s : Bytes) : (strncpy s : CharArray (n + 1)).str = (cstr s).take n := by
  have hzero : 0 ∉ (cstr s).take n := fun h => zero_not_mem_cstr s (List.mem_of_mem_take h)
  rw [str, bytes_strncpy, cstr_padded hzero]

end CharArray

structure BandConfig where
  description : CharArray 32
  startFreq : UInt32
  endFreq : UInt32
  antennaPorts : Fin MAX_ANTENNA_PORTS → Bool

structure AntennaSwitchConfig where
  autoMode : Bool
  numBands : UInt8
  numAntennaPorts : UInt8
  bands : Fin MAX_BANDS → BandConfig
  tcpHost : CharArray 16
  tcpPort : UInt16
  uartBaudRate : Int
  uartParity : UInt8
  uartStopBits : UInt8
  uartFlowCtrl : UInt8

namespace BandConfig

def zero : BandConfig := ⟨CharArray.zero, 0, 0, fun _ => false⟩

def contains (b : BandConfig) (freq : UInt32) : Bool := b.startFreq ≤ freq && freq ≤ b.endFreq

/-- Reading past the array is undefined in the source and reads as a disabled
port here; the loops over checked accesses show that no reachable state does it. -/
def port (b : BandConfig) (j : Nat) : Bool :=
  if h : j < MAX_ANTENNA_PORTS then b.antennaPorts ⟨j, h⟩ else false

end BandConfig

namespace AntennaSwitchConfig

def zero : AntennaSwitchConfig :=
  ⟨false, 0, 0, fun _ => BandConfig.zero, CharArray.zero, 0, 0, 0, 0, 0⟩

def band (c : AntennaSwitchConfig) (i : Nat) : BandConfig :=
  if h : i < MAX_BANDS then c.bands ⟨i, h⟩ else BandConfig.zero

/-- The first band below `num_bands` around a frequency: the loop that the
parser, the switch and the status page each write out. -/
def firstBand (c : AntennaSwitchConfig) (freq : UInt32) : Option Nat :=
  (List.range c.numBands.toNat).find? fun i => (c.band i).contains freq

def firstPort (c : AntennaSwitchConfig) (i : Nat) : Option Nat :=
  (List.range c.numAntennaPorts.toNat).find? fun j => (c.band i).port j

def Checked (c : AntennaSwitchConfig) : Prop :=
  1 ≤ c.numBands.toNat ∧ c.numBands.toNat ≤ MAX_BANDS ∧
    1 ≤ c.numAntennaPorts.toNat ∧ c.numAntennaPorts.toNat ≤ MAX_ANTENNA_PORTS

instance (c : AntennaSwitchConfig) : Decidable c.Checked :=
  inferInstanceAs (Decidable (_ ∧ _))

theorem firstPort_lt {c : AntennaSwitchConfig} {i j : Nat} (h : c.firstPort i = some j) :
    j < MAX_ANTENNA_PORTS := by
  have hp := (List.find?_range_eq_some.mp h).1
  by_contra hj
  simp [BandConfig.port, hj] at hp

theorem firstBand_congr {c c' : AntennaSwitchConfig} (hn : c.numBands = c'.numBands)
    (hb : c.bands = c'.bands) : c.firstBand = c'.firstBand := by
  funext freq
  simp [firstBand, band, hn, hb]

end AntennaSwitchConfig

end BandDecoder.SwitchConfig
