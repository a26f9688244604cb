import Mathlib.Data.Rat.Floor
import Mathlib.Tactic.Linarith

/-! # C arithmetic

The motion code computes in `float`. Its control flow is modelled over any type
with the operations that code uses, so that results which do not depend on
rounding hold for every float format; exact arithmetic is the instance on `ℚ`.
Integer types are numbers reduced to the width of the type.
-/

namespace PlantAssistant.Firmware

/-- The operations of `float` that the firmware uses. `lit` is the value of a
literal or of a converted integer, `toInt` the conversion to an integer type. -/
class CFloat (F : Type) extends Add F, Sub F, Mul F, Div F, Neg F, LT F, LE F where
  lit : ℚ → F
  toInt : F → ℤ
  decLT : DecidableRel (α := F) (· < ·)
  decLE : DecidableRel (α := F) (· ≤ ·)

instance instDecidableLT {F : Type} [CFloat F] : DecidableRel (α := F) (· < ·) := CFloat.decLT
instance instDecidableLE {F : Type} [CFloat F] : DecidableRel (α := F) (· ≤ ·) := CFloat.decLE

/-- Exact arithmetic. Conversion to an integer truncates towards zero. -/
instance : CFloat ℚ where
  lit q := q
  toInt q := q.num.tdiv q.den
  decLT := inferInstance
  decLE := inferInstance

@[simp] theorem lit_rat (q : ℚ) : (CFloat.lit q : ℚ) = q := rfl

/-- Truncation of a nonnegative rational is its floor. -/
theorem toInt_rat_of_nonneg {q : ℚ} (hq : 0 ≤ q) : CFloat.toInt q = ⌊q⌋ := by
  change q.num.tdiv q.den = ⌊q⌋
  rw [Rat.floor_def', Int.tdiv_eq_ediv_of_nonneg (Rat.num_nonneg.mpr hq)]

/-- A value that reaches a literal is not below a smaller one. In a rounded format
literals keep their order, and a NaN reaches none. -/
class OrderedCFloat (F : Type) [CFloat F] : Prop where
  not_lt_of_le {low high : ℚ} {x : F} : low ≤ high → CFloat.lit high ≤ x → ¬ x < CFloat.lit low

instance : OrderedCFloat ℚ where
  not_lt_of_le hlits hreached := not_lt_of_ge (hlits.trans hreached)

/-- `fabsf`. -/
def CFloat.fabs {F : Type} [CFloat F] (x : F) : F :=
  if x < CFloat.lit 0 then -x else x

/-- Reduction to `uint16_t`. -/
def uint16 (n : ℕ) : ℕ := n % 2 ^ 16

/-- Conversion of a float to `uint16_t`. -/
def CFloat.toUInt16 {F : Type} [CFloat F] (x : F) : ℕ :=
  (CFloat.toInt x % 2 ^ 16).toNat

/-- `(uint16_t)(hi << 8) | lo`, the big-endian word of two bytes. -/
def beWord (hi lo : UInt8) : ℕ :=
  uint16 (hi.toNat <<< 8) ||| lo.toNat

theorem beWord_eq (hi lo : UInt8) : beWord hi lo = hi.toNat * 256 + lo.toNat := by
  have hhi := hi.toNat_lt
  have hlo := lo.toNat_lt
  have hword : uint16 (hi.toNat <<< 8) = 2 ^ 8 * hi.toNat := by
    rw [uint16, Nat.shiftLeft_eq, Nat.mod_eq_of_lt (by omega), Nat.mul_comm]
  rw [beWord, hword, ← Nat.two_pow_add_eq_or_of_lt (by omega)]
  omega

/-- `word >> 8 & 0xff` and `word & 0xff`, the bytes of a word. -/
def hiByte (word : ℕ) : UInt8 := UInt8.ofNat ((word >>> 8) &&& 0xff)

def loByte (word : ℕ) : UInt8 := UInt8.ofNat (word &&& 0xff)

theorem beWord_bytes {word : ℕ} (hword : word < 2 ^ 16) :
    beWord (hiByte word) (loByte word) = word := by
  have hmask : ∀ n : ℕ, n &&& 0xff = n % 256 := fun n => Nat.and_two_pow_sub_one_eq_mod n 8
  rw [beWord_eq, hiByte, loByte, UInt8.toNat_ofNat', UInt8.toNat_ofNat', hmask, hmask,
    Nat.shiftRight_eq_div_pow]
  omega

end PlantAssistant.Firmware
