import Mathlib.Order.Interval.Set.Basic
import Mathlib.Tactic.FieldSimp
import Mathlib.Tactic.Ring
import PlantAssistant.Motion.StopPhases

/-! # The limit of the turn controller

`PID_pOut_Max` limits the output of the call before and then computes the new
one, so that its limit has no effect. Which measured values keep the output
within it all the same depends on the gains and on what earlier calls have left.
-/

namespace PlantAssistant.Motion

open Transition PlantAssistant.Firmware

/-! ## One controller -/

/-- A call of `PID_pOut_Max` after its target was set. -/
structure PidCall where
  target : ℚ
  actual : ℚ
  max : ℚ
deriving DecidableEq, Repr

def pidStep (pid : Mypid ℚ) (call : PidCall) : Mypid ℚ :=
  { pid with target := call.target }.pOutMax call.actual call.max

/-- Any sequence of calls from any state of the controller. -/
def pidSystem (pid : Mypid ℚ) : System (Mypid ℚ) PidCall where
  init := pid
  step := pidStep

/-- The output stays within the limit of the call. -/
def Limited (pid : Mypid ℚ) (call : PidCall) : Prop :=
  (pidStep pid call).out ∈ Set.Icc (-call.max) call.max

/-- What a unit of error adds to the output. -/
def totalGain (pid : Mypid ℚ) : ℚ := pid.kp + pid.ki + pid.kd

/-- The share of the output that earlier calls have left. -/
def carried (pid : Mypid ℚ) : ℚ := pid.ki * pid.errorSum - pid.kd * pid.error1

/-- The measured value lies near enough to the target, as seen from what earlier
calls have left. -/
def InBand (pid : Mypid ℚ) (call : PidCall) : Prop :=
  if totalGain pid = 0 then |carried pid| ≤ call.max
  else
    |call.actual - (call.target + carried pid / totalGain pid)| ≤ call.max / |totalGain pid|

theorem out_pidStep (pid : Mypid ℚ) (call : PidCall) :
    (pidStep pid call).out =
      totalGain pid * (call.target - call.actual) + carried pid := by
  rw [pidStep, Mypid.pOutMax_eq_pOut]
  simp only [Mypid.pOut, totalGain, carried]
  ring

theorem limited_iff_inBand (pid : Mypid ℚ) (call : PidCall) :
    Limited pid call ↔ InBand pid call := by
  have habs : Limited pid call ↔
      |totalGain pid * (call.target - call.actual) + carried pid| ≤ call.max := by
    rw [Limited, out_pidStep, Set.mem_Icc, abs_le]
  rw [habs, InBand]
  split
  next hgain => rw [hgain, zero_mul, zero_add]
  next hgain =>
    have hfactor : totalGain pid * (call.target - call.actual) + carried pid =
        -(totalGain pid * (call.actual - (call.target + carried pid / totalGain pid))) := by
      field_simp
      ring
    rw [hfactor, abs_neg, abs_mul, le_div_iff₀ (abs_pos.mpr hgain), mul_comm]

/-! ## The turns of the car -/

/-- The gains that `PID_Init` gives the turn controller. -/
structure TurnGains (m : Motors ℚ) : Prop where
  kp : m.pidTrun.kp = 5
  ki : m.pidTrun.ki = 0
  kd : m.pidTrun.kd = 0

/-- The wheel speeds that a turn requests are at most 200. -/
def TurnLimited (s : Car ℚ) (event : CarEvent ℚ) : Prop :=
  Executed s event → ∀ _heading ∈ (avoidance s).turnHeading,
    (carStep s event).motors.turnEndTargetLeft ∈ Set.Icc (-200) 200 ∧
      (carStep s event).motors.turnEndTargetRight ∈ Set.Icc (-200) 200

/-- The yaw of a turn, taken to the side of its target, is within 40 degrees of
it. -/
def WithinForty (s : Car ℚ) (event : CarEvent ℚ) : Prop :=
  Executed s event → ∀ heading ∈ (avoidance s).turnHeading,
    |changeHeading heading - Motors.readYaw (changeHeading heading) s.yaw| ≤ 40

instance (pid : Mypid ℚ) (call : PidCall) : Decidable (Limited pid call) :=
  inferInstanceAs (Decidable (_ ∧ _))

instance (s : Car ℚ) (event : CarEvent ℚ) : Decidable (TurnLimited s event) :=
  inferInstanceAs (Decidable (_ → ∀ _heading ∈ _, (_ ∧ _) ∧ (_ ∧ _)))

theorem TurnGains.congr {m n : Motors ℚ} (hgains : TurnGains m)
    (hkp : n.pidTrun.kp = m.pidTrun.kp) (hki : n.pidTrun.ki = m.pidTrun.ki)
    (hkd : n.pidTrun.kd = m.pidTrun.kd) : TurnGains n :=
  ⟨hkp.trans hgains.kp, hki.trans hgains.ki, hkd.trans hgains.kd⟩

theorem TurnGains.findingObsCase {t : Car ℚ} (hgains : TurnGains t.motors) :
    TurnGains t.findingObsCase.motors := by
  have hturn : ∀ modestate heading, TurnGains (t.obsTurn modestate heading).motors := by
    intro modestate heading
    rw [motors_obsTurn]
    apply hgains.congr <;> rw [pidTrun_yawChange] <;> rfl
  unfold Car.findingObsCase
  split
  case h_1 =>
    unfold Car.obsWatch
    dsimp only
    split_ifs <;> exact hgains
  case h_2 | h_4 | h_6 | h_8 | h_10 => exact hturn _ _
  case h_3 | h_5 | h_7 | h_9 | h_11 =>
    rw [motors_obsStop]
    · exact hgains.congr rfl rfl rfl
    · exact fun t => rfl
  case h_13 =>
    unfold Car.obsLeg
    dsimp only
    split
    · exact hgains.congr rfl rfl rfl
    · exact hgains.congr rfl rfl rfl
  case h_12 | h_14 => exact hgains

/-- The gains are set once. -/
structure GainsInv (s : Car ℚ) : Prop where
  inMode : InMode s
  gains : TurnGains s.motors

theorem GainsInv.of_keeps {s t : Car ℚ} (hinv : GainsInv s) (hkeeps : KeepsObstacles s t) :
    TurnGains t.motors := by
  apply hinv.gains.congr <;> rw [hkeeps.pidTrun]

theorem gainsInv_invariant : (carSystem ℚ).Invariant GainsInv where
  init := ⟨.inr rfl, rfl, rfl, rfl⟩
  step s event hinv := by
    refine ⟨carSystem_inMode.step s event hinv.inMode, ?_⟩
    cases event with
    | tick =>
        obtain ⟨t, hkeeps, htick⟩ := tick_obstacles hinv.inMode
        have hgains := hinv.of_keeps hkeeps
        change TurnGains (tick s).motors
        rw [htick]
        split
        · obtain ⟨-, hobs⟩ | ⟨-, hobs⟩ | ⟨-, -, hobs⟩ := findingObs_guards t <;> rw [hobs]
          · exact hgains.findingObsCase
          · exact hgains.congr rfl rfl rfl
          · exact hgains
        · exact hgains
    | plantSoft | maixcam | distance | yaw | encoder => exact hinv.gains

/-- The wheel speeds of a turn, from its error. -/
theorem turnEndTarget_tick {s : Car ℚ} (hinv : GainsInv s) (hexecuting : Executing s) {heading : ℚ}
    (hheading : (avoidance s).turnHeading = some heading) :
    let error := changeHeading heading - Motors.readYaw (changeHeading heading) s.yaw
    (tick s).motors.turnEndTargetLeft = -(5 * error) ∧
      (tick s).motors.turnEndTargetRight = 5 * error := by
  obtain ⟨t, hkeeps, htick⟩ := tick_of_executing hinv.inMode hexecuting
  obtain ⟨hkp, hki, hkd⟩ := hinv.of_keeps hkeeps
  rw [← hkeeps.avoidance] at hheading
  rw [htick, motors_of_turn hheading, ← hkeeps.yaw]
  have hout : (t.motors.yawChange (.findingObs t.modestate) heading t.yaw t.encoderSpeed1
      t.encoderSpeed2).pidTrun.out =
        5 * (changeHeading heading - Motors.readYaw (changeHeading heading) t.yaw) := by
    rw [pidTrun_yawChange]
    simp only [Mypid.pOut, hkp, hki, hkd]
    ring
  constructor
  · rw [← hout]
    exact zero_sub _
  · rw [← hout]
    exact zero_add _

theorem turnLimited_iff_of_inv {s : Car ℚ} (hinv : GainsInv s) (event : CarEvent ℚ) :
    TurnLimited s event ↔ WithinForty s event := by
  apply imp_congr_right
  intro hexecuted
  apply forall₂_congr
  intro heading hheading
  obtain rfl := hexecuted.eq_tick
  obtain ⟨hleft, hright⟩ := turnEndTarget_tick hinv hexecuted.2 hheading
  change ((tick s).motors.turnEndTargetLeft ∈ _ ∧ (tick s).motors.turnEndTargetRight ∈ _) ↔ _
  rw [hleft, hright, Set.mem_Icc, Set.mem_Icc, abs_le]
  constructor
  · rintro ⟨⟨hlow, hhigh⟩, -⟩
    constructor <;> linarith
  · rintro ⟨hlow, hhigh⟩
    exact ⟨⟨by linarith, by linarith⟩, by linarith, by linarith⟩

/-- The limit holds throughout a sequence of calls exactly if every measured
value lies in the band, and the turns of a run request at most 200 exactly if
all of them are within 40 degrees. -/
theorem limit_iff_in_band (pid : Mypid ℚ) (calls : List PidCall) (events : List (CarEvent ℚ)) :
    ((pidSystem pid).Along Limited calls ↔ (pidSystem pid).Along InBand calls) ∧
      ((carSystem ℚ).Along TurnLimited events ↔ (carSystem ℚ).Along WithinForty events) := by
  have hany : (pidSystem pid).Invariant fun _ => True := ⟨trivial, fun _ _ _ => trivial⟩
  constructor
  · exact hany.along_congr (fun pid call _ => limited_iff_inBand pid call) calls
  · exact gainsInv_invariant.along_congr (fun _ event hinv => turnLimited_iff_of_inv hinv event)
      events

/-- A quarter of the circle, from rest, and the first turn of the car. -/
theorem not_limited :
    ¬ (pidSystem (Mypid.init 5 0 0)).Along Limited [⟨90, 0, 200⟩] ∧
      ¬ (carSystem ℚ).Along TurnLimited turningAway := by
  decide +kernel

end PlantAssistant.Motion
