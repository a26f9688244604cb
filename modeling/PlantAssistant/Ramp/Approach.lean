import Mathlib.Algebra.Order.Ring.Abs
import Mathlib.Algebra.Order.Group.MinMax
import Mathlib.Logic.Function.Iterate
import Mathlib.Tactic.Linarith
import Mathlib.Tactic.Ring

/-! # Approaching a goal in bounded steps

One step moves a value towards its goal, by no more than a fixed amount and not
beyond it. The distance that is left after some steps is what the steps did not
cover.
-/

namespace Ramp

variable {α : Type*} [CommRing α] [LinearOrder α] [IsStrictOrderedRing α]

/-- The value after one step. -/
def approach (step goal x : α) : α :=
  if x ≤ goal then min goal (x + step) else max goal (x - step)

variable {step goal x : α}

/-- A goal that is near enough is reached. -/
theorem approach_eq_goal (hnear : |goal - x| ≤ step) : approach step goal x = goal := by
  obtain ⟨hlow, hhigh⟩ := abs_le.mp hnear
  unfold approach
  split
  · exact min_eq_left (by linarith)
  · exact max_eq_left (by linarith)

/-- From further away the step has its full length. -/
theorem approach_of_far (hfar : step ≤ |goal - x|) :
    approach step goal x = if x ≤ goal then x + step else x - step := by
  unfold approach
  split
  next hle =>
    rw [abs_of_nonneg (sub_nonneg.mpr hle)] at hfar
    exact min_eq_right (by linarith)
  next hnot =>
    rw [abs_of_neg (by linarith)] at hfar
    exact max_eq_right (by linarith)

/-- A step from below stays below, and does not go back. -/
theorem approach_mem_of_le (hstep : 0 ≤ step) (hle : x ≤ goal) :
    x ≤ approach step goal x ∧ approach step goal x ≤ goal := by
  unfold approach
  rw [if_pos hle]
  exact ⟨le_min hle (by linarith), min_le_left _ _⟩

theorem approach_mem_of_ge (hstep : 0 ≤ step) (hge : goal ≤ x) :
    goal ≤ approach step goal x ∧ approach step goal x ≤ x := by
  rcases hge.eq_or_lt with rfl | hlt
  · rw [approach_eq_goal (by simpa using hstep)]
    exact ⟨le_rfl, le_rfl⟩
  · unfold approach
    rw [if_neg (not_le.mpr hlt)]
    exact ⟨le_max_left _ _, max_le hge (by linarith)⟩

/-- A step covers its length or the distance that is left. -/
theorem abs_approach_sub (hstep : 0 ≤ step) :
    |approach step goal x - x| = min step |goal - x| := by
  rcases le_total |goal - x| step with hnear | hfar
  · rw [approach_eq_goal hnear, min_eq_right hnear]
  · rw [approach_of_far hfar, min_eq_left hfar]
    split
    · rw [add_sub_cancel_left, abs_of_nonneg hstep]
    · rw [sub_sub_cancel_left, abs_neg, abs_of_nonneg hstep]

theorem abs_sub_approach :
    |goal - approach step goal x| = max 0 (|goal - x| - step) := by
  rcases le_total |goal - x| step with hnear | hfar
  · rw [approach_eq_goal hnear, sub_self, abs_zero, max_eq_left (by linarith)]
  · rw [approach_of_far hfar, max_eq_right (by linarith)]
    split
    next hle =>
      have hdistance : |goal - x| = goal - x := abs_of_nonneg (sub_nonneg.mpr hle)
      rw [hdistance, abs_of_nonneg (by linarith)]
      ring
    next hnot =>
      have hdistance : |goal - x| = -(goal - x) := abs_of_neg (by linarith)
      rw [hdistance, abs_of_nonpos (by linarith)]
      ring

theorem abs_sub_iterate_approach (hstep : 0 ≤ step) (n : ℕ) :
    |goal - (approach step goal)^[n] x| = max 0 (|goal - x| - n * step) := by
  induction n with
  | zero => simp
  | succ n ih =>
      rw [Function.iterate_succ_apply', abs_sub_approach, ih]
      push_cast
      rcases le_total (|goal - x| - n * step) 0 with hreached | hleft
      · rw [max_eq_left hreached, max_eq_left (by linarith), max_eq_left (by linarith)]
      · rw [max_eq_right hleft, add_one_mul, sub_sub]

/-- The goal is reached when the steps cover the distance, and kept from then on. -/
theorem iterate_approach_eq_iff (hstep : 0 ≤ step) (n : ℕ) :
    (approach step goal)^[n] x = goal ↔ |goal - x| ≤ n * step := by
  rw [eq_comm, ← sub_eq_zero, ← abs_eq_zero, abs_sub_iterate_approach hstep, max_eq_left_iff,
    sub_nonpos]

end Ramp
