import Mathlib.Algebra.Order.Floor.Ring
import Mathlib.Tactic.FieldSimp
import Mathlib.Tactic.Linarith
import Mathlib.Tactic.Ring

/-! # Decimal texts

A value is rounded to a number of units, and the text is that number with a point
in it. The parts before and after the point can be had from the value in two ways:
by rounding first, or by rounding the fraction and carrying.
-/

namespace Decimal

section Rounding

variable {α : Type*} [Field α] [LinearOrder α] [IsStrictOrderedRing α] [FloorRing α]

/-- `x` in units of `1 / scale`, rounded half up. -/
def halfUp (scale : ℕ) (x : α) : ℤ := ⌊x * scale + 1 / 2⌋

theorem halfUp_nonneg {x : α} (hx : 0 ≤ x) (scale : ℕ) : 0 ≤ halfUp scale x :=
  Int.floor_nonneg.mpr (by positivity)

/-- A whole number of units is not rounded. -/
theorem halfUp_of_eq {scale : ℕ} {x : α} {units : ℤ} (hx : x * scale = units) :
    halfUp scale x = units := by
  rw [halfUp, hx, add_comm, Int.floor_add_intCast]
  have hhalf : ⌊(1 / 2 : α)⌋ = 0 := by
    rw [Int.floor_eq_zero_iff]
    constructor <;> norm_num
  rw [hhalf, zero_add]

theorem floor_eq_floor_mul_div {scale : ℕ} (hscale : 0 < scale) (x : α) :
    ⌊x⌋ = ⌊x * scale⌋ / (scale : ℤ) := by
  have hne : (scale : α) ≠ 0 := Nat.cast_ne_zero.mpr hscale.ne'
  rw [← Int.floor_div_natCast, mul_div_cancel_right₀ x hne]

/-- The part before the point, with the rounding first. -/
theorem floor_add_half_div {scale : ℕ} (hscale : 0 < scale) (x : α) :
    ⌊x + 1 / 2 / scale⌋ = halfUp scale x / scale := by
  have hne : (scale : α) ≠ 0 := Nat.cast_ne_zero.mpr hscale.ne'
  rw [floor_eq_floor_mul_div hscale, add_mul, div_mul_cancel₀ _ hne, halfUp]

theorem floor_fract_mul {scale : ℕ} (hscale : 0 < scale) (x : α) :
    ⌊(x - ⌊x⌋) * scale⌋ = ⌊x * scale⌋ % (scale : ℤ) := by
  have hsplit : (x - ⌊x⌋) * scale = x * scale - ((⌊x⌋ * scale : ℤ) : α) := by
    push_cast
    ring
  rw [hsplit, Int.floor_sub_intCast, Int.emod_def, mul_comm (scale : ℤ),
    ← floor_eq_floor_mul_div hscale]

/-- The part after the point, with the rounding first. -/
theorem floor_fract_add_half_div {scale : ℕ} (hscale : 0 < scale) (x : α) :
    ⌊(x + 1 / 2 / scale - ⌊x + 1 / 2 / scale⌋) * scale⌋ = halfUp scale x % scale := by
  have hne : (scale : α) ≠ 0 := Nat.cast_ne_zero.mpr hscale.ne'
  rw [floor_fract_mul hscale, add_mul, div_mul_cancel₀ _ hne, halfUp]

/-- The rounded fraction lacks the whole units. -/
theorem floor_fract_mul_add_half (scale : ℕ) (x : α) :
    ⌊(x - ⌊x⌋) * scale + 1 / 2⌋ = halfUp scale x - ⌊x⌋ * scale := by
  have hsplit : (x - ⌊x⌋) * scale + 1 / 2 = x * scale + 1 / 2 - ((⌊x⌋ * scale : ℤ) : α) := by
    push_cast
    ring
  rw [hsplit, Int.floor_sub_intCast, halfUp]

/-- It is at most one whole. -/
theorem rounded_fract_mem {scale : ℕ} (hscale : 0 < scale) (x : α) :
    0 ≤ halfUp scale x - ⌊x⌋ * scale ∧ halfUp scale x - ⌊x⌋ * scale ≤ scale := by
  have hpos : (0 : α) < scale := Nat.cast_pos.mpr hscale
  have hlow := Int.floor_le x
  have hhigh := Int.lt_floor_add_one x
  rw [← floor_fract_mul_add_half]
  constructor
  · apply Int.floor_nonneg.mpr
    nlinarith
  · apply Int.le_of_lt_add_one
    rw [Int.floor_lt]
    push_cast
    nlinarith

/-- The parts with a carry. -/
theorem halfUp_div_mod {scale : ℕ} (hscale : 0 < scale) (x : α) :
    halfUp scale x / scale =
        (if (scale : ℤ) ≤ halfUp scale x - ⌊x⌋ * scale then ⌊x⌋ + 1 else ⌊x⌋) ∧
      halfUp scale x % scale =
        if (scale : ℤ) ≤ halfUp scale x - ⌊x⌋ * scale then halfUp scale x - ⌊x⌋ * scale - scale
        else halfUp scale x - ⌊x⌋ * scale := by
  obtain ⟨hnonneg, hle⟩ := rounded_fract_mem hscale x
  have hpos : (0 : ℤ) < scale := by exact_mod_cast hscale
  split
  next hcarry =>
    apply Int.ediv_emod_unique hpos |>.mpr
    refine ⟨by ring, by linarith, by linarith⟩
  next hnone =>
    apply Int.ediv_emod_unique hpos |>.mpr
    refine ⟨by ring, hnonneg, by linarith⟩

end Rounding

/-! ## Texts -/

/-- The last `decimals` digits of `units`. -/
def fractionDigits (decimals units : ℕ) : List Char :=
  (List.range decimals).map fun i => Nat.digitChar (units / 10 ^ (decimals - 1 - i) % 10)

/-- The decimal expansion of `units / 10 ^ decimals`. -/
def fixedText (decimals units : ℕ) : List Char :=
  Nat.toDigits 10 (units / 10 ^ decimals) ++ '.' :: fractionDigits decimals units

theorem length_fixedText (decimals units : ℕ) :
    (fixedText decimals units).length =
      (Nat.toDigits 10 (units / 10 ^ decimals)).length + 1 + decimals := by
  simp [fixedText, fractionDigits, add_assoc, add_comm 1]

theorem fractionDigits_succ (decimals units : ℕ) :
    fractionDigits (decimals + 1) units =
      Nat.digitChar (units / 10 ^ decimals % 10) :: fractionDigits decimals units := by
  unfold fractionDigits
  rw [List.range_succ_eq_map, List.map_cons, List.map_map]
  congr 1
  apply List.map_congr_left
  intro i _
  have hplace : decimals + 1 - 1 - (i + 1) = decimals - 1 - i := by omega
  rw [Function.comp_apply, Nat.succ_eq_add_one, hplace]

/-- Digits after the point do not depend on what stands before it. -/
theorem fractionDigits_mod (decimals units : ℕ) :
    fractionDigits decimals (units % 10 ^ decimals) = fractionDigits decimals units := by
  unfold fractionDigits
  apply List.map_congr_left
  intro i hi
  rw [List.mem_range] at hi
  have hsplit : 10 ^ decimals = 10 ^ (decimals - 1 - i) * (10 * 10 ^ i) := by
    rw [← pow_succ', ← pow_add]
    congr 1
    omega
  rw [hsplit, Nat.mod_mul_right_div_self, Nat.mod_mul_right_mod]

end Decimal
