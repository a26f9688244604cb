import Mathlib.Algebra.Group.ModEq
import Mathlib.Algebra.Order.Round
import Mathlib.Tactic.FieldSimp
import Mathlib.Tactic.Linarith
import Mathlib.Tactic.Ring

/-! # Distances on a circle

Points on a circle of a given length are numbers modulo that length. The distance
of two of them is the least distance of their representatives.
-/

namespace Cyclic

variable {α : Type*} [Field α] [LinearOrder α] [IsStrictOrderedRing α] [FloorRing α]

/-- The distance of two points on a circle of length `p`. -/
def dist (p x y : α) : α := |x - y - p * round ((x - y) / p)|

theorem dist_le {p : α} (hp : 0 < p) (x y : α) (turns : ℤ) : dist p x y ≤ |x - y - p * turns| := by
  have hscale (z : ℤ) : |x - y - p * z| = p * |(x - y) / p - z| := by
    rw [← abs_of_pos hp, ← abs_mul, abs_of_pos hp, mul_sub, mul_div_cancel₀ _ hp.ne']
  rw [dist, hscale, hscale]
  exact mul_le_mul_of_nonneg_left (round_le _ _) hp.le

omit [IsStrictOrderedRing α] in
theorem dist_attained (p x y : α) : ∃ turns : ℤ, dist p x y = |x - y - p * turns| :=
  ⟨_, rfl⟩

/-- Representatives do not matter. -/
theorem dist_congr {p : α} (hp : 0 < p) {x y y' : α} (turns : ℤ) (hy : y' = y + p * turns) :
    dist p x y' = dist p x y := by
  apply le_antisymm
  · obtain ⟨least, hleast⟩ := dist_attained p x y
    have hle := dist_le hp x y' (least - turns)
    rw [hleast]
    convert hle using 2
    push_cast
    rw [hy]
    ring
  · obtain ⟨least, hleast⟩ := dist_attained p x y'
    have hle := dist_le hp x y (least + turns)
    rw [hleast]
    convert hle using 2
    push_cast
    rw [hy]
    ring

/-- Representatives at most a turn apart are near on the circle if they are
near themselves or nearly a turn apart. -/
theorem dist_lt_iff {p x y : α} (hp : 0 < p) (hturn : |x - y| ≤ p) {r : α} :
    dist p x y < r ↔ |x - y| < r ∨ p - r < |x - y| := by
  obtain ⟨hlow, hhigh⟩ := abs_le.mp hturn
  constructor
  · obtain ⟨least, hleast⟩ := dist_attained p x y
    rw [hleast]
    intro hlt
    obtain ⟨hbelow, habove⟩ := abs_lt.mp hlt
    rcases lt_trichotomy least 0 with hneg | rfl | hpos
    · have hone : (least : α) ≤ -1 := by exact_mod_cast Int.le_sub_one_of_lt hneg
      have hscaled := mul_le_mul_of_nonneg_left hone hp.le
      have habs := neg_le_abs (x - y)
      exact Or.inr (by linarith)
    · rw [Int.cast_zero, mul_zero, sub_zero] at hlt
      exact Or.inl hlt
    · have hone : (1 : α) ≤ least := by exact_mod_cast hpos
      have hscaled := mul_le_mul_of_nonneg_left hone hp.le
      have habs := le_abs_self (x - y)
      exact Or.inr (by linarith)
  · rintro (hnear | hfar)
    · have hle := dist_le hp x y 0
      rw [Int.cast_zero, mul_zero, sub_zero] at hle
      exact hle.trans_lt hnear
    · rcases le_total 0 (x - y) with hsign | hsign
      · have hle := dist_le hp x y 1
        rw [abs_of_nonneg hsign] at hfar
        rw [Int.cast_one, mul_one, abs_of_nonpos (by linarith)] at hle
        linarith
      · have hle := dist_le hp x y (-1)
        rw [abs_of_nonpos hsign] at hfar
        rw [Int.cast_neg, Int.cast_one, mul_neg_one, abs_of_nonneg (by linarith)] at hle
        linarith

end Cyclic
