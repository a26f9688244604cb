import Mathlib.Algebra.Order.Floor.Ring
import Mathlib.Data.List.Induction
import PlantAssistant.Firmware.TB6612
import PlantAssistant.Ramp.Approach
import PlantAssistant.Transition.Run

/-! # Accelerating

Repeated calls with the same speeds bring the target of each wheel to its speed
in steps of 40, whatever the other wheel does.
-/

namespace PlantAssistant.Motion

open Transition Ramp PlantAssistant.Firmware

inductive Wheel where
  | motor1
  | motor2
deriving DecidableEq, Repr

/-- `Pid_Motor1Speed.Target` or `Pid_Motor2Speed.Target`. -/
def target (m : Motors ℚ) : Wheel → ℚ
  | .motor1 => m.pidMotor1Speed.target
  | .motor2 => m.pidMotor2Speed.target

/-- Calls of `Motor_PidTarget_Acce` with the same speeds. Every call finds its own
encoder speeds. -/
def accelerationSystem (branch : Branch) (speed : Wheel → ℚ) (m : Motors ℚ) :
    System (Motors ℚ) (ℤ × ℤ) where
  init := m
  step m encoderSpeeds :=
    m.motorPidTargetAcce branch (speed .motor1) (speed .motor2) encoderSpeeds.1 encoderSpeeds.2

/-- The target is on the side from which it accelerates to `speed`. -/
def Accelerating (speed target : ℚ) : Prop :=
  (0 ≤ speed → target ≤ speed) ∧ (speed < 0 → speed ≤ target)

theorem accelerate_eq_approach {speed target : ℚ} (hside : Accelerating speed target) :
    Motors.accelerate speed target = approach 40 speed target := by
  unfold Motors.accelerate approach
  simp only [lit_rat]
  rcases le_or_gt 0 speed with hnonneg | hneg
  · have hle := hside.1 hnonneg
    rw [if_pos hnonneg, if_neg (not_lt.mpr hnonneg), if_pos hle, min_def]
    rcases hle.eq_or_lt with rfl | hlt
    · rw [if_neg (lt_irrefl _), if_pos le_rfl, if_pos (by linarith)]
    · rw [if_pos hlt]
  · have hge := hside.2 hneg
    rw [if_neg (not_le.mpr hneg), if_pos hneg]
    rcases hge.eq_or_lt with rfl | hlt
    · rw [if_neg (lt_irrefl _), if_pos le_rfl, if_pos le_rfl, min_eq_left (by linarith)]
    · rw [if_pos hlt, if_neg (not_le.mpr hlt), max_comm, max_def]

theorem accelerating_approach {speed target : ℚ} (hside : Accelerating speed target) :
    Accelerating speed (approach 40 speed target) :=
  ⟨fun hnonneg => (approach_mem_of_le (by norm_num) (hside.1 hnonneg)).2,
    fun hneg => (approach_mem_of_ge (by norm_num) (hside.2 hneg)).1⟩

theorem target_step (branch : Branch) (speed : Wheel → ℚ) (start m : Motors ℚ)
    (encoderSpeeds : ℤ × ℤ) (wheel : Wheel) :
    target ((accelerationSystem branch speed start).step m encoderSpeeds) wheel =
      Motors.accelerate (speed wheel) (target m wheel) := by
  cases wheel <;> rfl

/-- After some calls the target of a wheel is where as many steps bring it. -/
theorem target_run (branch : Branch) (speed : Wheel → ℚ) (m : Motors ℚ) {wheel : Wheel}
    (hside : Accelerating (speed wheel) (target m wheel)) (calls : List (ℤ × ℤ)) :
    Accelerating (speed wheel) (target ((accelerationSystem branch speed m).run calls) wheel) ∧
    target ((accelerationSystem branch speed m).run calls) wheel =
      (approach 40 (speed wheel))^[calls.length] (target m wheel) := by
  induction calls using List.reverseRecOn with
  | nil => exact ⟨hside, rfl⟩
  | append_singleton calls call ih =>
      rw [System.run_concat, target_step, accelerate_eq_approach ih.1, List.length_append,
        List.length_singleton, Function.iterate_succ_apply', ← ih.2]
      exact ⟨accelerating_approach ih.1, rfl⟩

/-- The way of one target under repeated calls. -/
structure Ramps (speed : ℚ) (before after : ℚ) : Prop where
  forward : 0 ≤ speed → before ≤ after ∧ after ≤ speed
  backward : speed < 0 → speed ≤ after ∧ after ≤ before
  moves : |after - before| = min 40 |speed - before|

/-- Every call moves the target towards the speed by 40 or by what is left, and it
has arrived from the call on that covers the distance. -/
theorem acceleration_ramps (branch : Branch) (speed : Wheel → ℚ) (m : Motors ℚ) (wheel : Wheel)
    (hside : Accelerating (speed wheel) (target m wheel)) :
    (∀ (calls : List (ℤ × ℤ)) (call : ℤ × ℤ),
      Ramps (speed wheel) (target ((accelerationSystem branch speed m).run calls) wheel)
        (target ((accelerationSystem branch speed m).run (calls ++ [call])) wheel)) ∧
    ∀ calls : List (ℤ × ℤ),
      target ((accelerationSystem branch speed m).run calls) wheel = speed wheel ↔
        ⌈|speed wheel - target m wheel| / 40⌉₊ ≤ calls.length := by
  constructor
  · intro calls call
    have hbefore := (target_run branch speed m hside calls).1
    rw [System.run_concat, target_step, accelerate_eq_approach hbefore]
    exact {
      forward := fun hnonneg => approach_mem_of_le (by norm_num) (hbefore.1 hnonneg)
      backward := fun hneg => approach_mem_of_ge (by norm_num) (hbefore.2 hneg)
      moves := abs_approach_sub (by norm_num) }
  · intro calls
    have hstep : (0 : ℚ) ≤ 40 := by norm_num
    rw [(target_run branch speed m hside calls).2, iterate_approach_eq_iff hstep, Nat.ceil_le,
      div_le_iff₀ (by norm_num)]

/-- One wheel reverses from 30 to -90 in three calls while the other stands. -/
theorem acceleration_ramps_reversing :
    target ((accelerationSystem .motorFlagOff (fun _ => -90)
      { (Motors.init : Motors ℚ) with
        pidMotor1Speed := { (Motors.init : Motors ℚ).pidMotor1Speed with target := 30 } }).run
      [(0, 0), (3, 5), (4, 4)]) .motor1 = -90 :=
  ((acceleration_ramps .motorFlagOff (fun _ => -90) _ .motor1
    ⟨fun hnonneg => absurd hnonneg (by norm_num), fun _ => by decide +kernel⟩).2
    [(0, 0), (3, 5), (4, 4)]).mpr (by decide +kernel)

end PlantAssistant.Motion
