import Mathlib.Order.Interval.Set.Basic
import PlantAssistant.Cyclic.Distance
import PlantAssistant.Motion.Obstacles

/-! # Headings

The headings of a round are the yaw at its start turned by half a circle, and
that turned by sixty and ninety degrees to both sides. A single correction by a
full turn is enough for all of them. The test that ends a turn makes none.
-/

namespace PlantAssistant.Motion

open Transition PlantAssistant.Firmware

/-! ## The range of the headings -/

/-- The yaw that an event brings is one of the sensor's. -/
def YawInRange : CarEvent ℚ → Prop
  | .yaw yaw => -180 ≤ yaw ∧ yaw < 180
  | _ => True

/-- The car with a sensor that measures from -180 to 180 degrees. -/
def imuSystem : System (Car ℚ) {event // YawInRange event} := (carSystem ℚ).restrict YawInRange

structure HeadingsInRange (a : Avoidance ℚ) : Prop where
  round : 1 ≤ a.modestate → a.modestate ≤ 10 → 0 ≤ a.yawTemprary ∧ a.yawTemprary < 360
  right60 : a.modestate = 3 → a.yawTemprary1 = a.yawTemprary + 60
  left60 : a.modestate = 5 → a.yawTemprary2 = a.yawTemprary - 60
  right90 : a.modestate = 7 → a.yawTemprary1 = a.yawTemprary + 90
  left90 : a.modestate = 9 → a.yawTemprary2 = a.yawTemprary - 90
  leg : a.modestate = 12 → -180 ≤ a.yawTemprary ∧ a.yawTemprary < 180

structure HeadingInv (s : Car ℚ) : Prop where
  inMode : InMode s
  yaw : -180 ≤ s.yaw ∧ s.yaw < 180
  headings : HeadingsInRange (avoidance s)

/-- What does not touch the state and the headings. -/
theorem HeadingsInRange.congr {a b : Avoidance ℚ} (hrange : HeadingsInRange a)
    (hstate : b.modestate = a.modestate) (hyaw : b.yawTemprary = a.yawTemprary)
    (hyaw1 : b.yawTemprary1 = a.yawTemprary1) (hyaw2 : b.yawTemprary2 = a.yawTemprary2) :
    HeadingsInRange b := by
  obtain ⟨hround, hright60, hleft60, hright90, hleft90, hleg⟩ := hrange
  constructor <;> rw [hstate] <;> simpa only [hyaw, hyaw1, hyaw2]

/-- No heading is used before the state that sets it. -/
theorem HeadingsInRange.of_stop {a : Avoidance ℚ} (hstop : a.modestate ∈ stopStates)
    (hyaw : 0 ≤ a.yawTemprary ∧ a.yawTemprary < 360) : HeadingsInRange a := by
  simp only [stopStates, List.mem_cons, List.not_mem_nil, or_false] at hstop
  constructor
  · exact fun _ _ => hyaw
  all_goals
    intro hstate
    omega

theorem HeadingsInRange.of_outside {a : Avoidance ℚ}
    (hstate : a.modestate = 0 ∨ a.modestate = 11) : HeadingsInRange a := by
  constructor <;> intros <;> omega

theorem ObsStep.headings {a b : Avoidance ℚ} {distance : ℕ} {yaw : ℚ}
    (hstep : ObsStep a distance yaw b) (hrange : HeadingsInRange a)
    (hyaw : -180 ≤ yaw ∧ yaw < 180) : HeadingsInRange b := by
  cases hstep with
  | clear | watch | turning | standing | driving | other =>
      exact hrange.congr rfl rfl rfl rfl
  | found =>
      refine ⟨fun _ _ => ?_, ?_, ?_, ?_, ?_, ?_⟩
      · change 0 ≤ yaw + 180 ∧ yaw + 180 < 360
        constructor <;> linarith
      all_goals
        intro hstate
        cases hstate
  | turned heading hheading =>
      have hstate := turnHeading_cases hheading
      apply HeadingsInRange.of_stop
      · simp only [stopStates, List.mem_cons, List.not_mem_nil, or_false]
        omega
      · exact hrange.round (by omega) (by omega)
  | free => exact .of_outside (.inr rfl)
  | blocked _ hnext =>
      have hstop := blocked_cases hnext
      have hsame : a.counted.modestate = a.modestate := rfl
      have hround := hrange.round (by omega) (by omega)
      obtain ⟨-, rfl⟩ | ⟨-, rfl⟩ | ⟨-, rfl⟩ | ⟨-, rfl⟩ | ⟨-, rfl⟩ := hstop
      · refine ⟨fun _ _ => hround, fun _ => rfl, ?_, ?_, ?_, ?_⟩ <;> rintro ⟨⟩
      · refine ⟨fun _ _ => hround, ?_, fun _ => rfl, ?_, ?_, ?_⟩ <;> rintro ⟨⟩
      · refine ⟨fun _ _ => hround, ?_, ?_, fun _ => rfl, ?_, ?_⟩ <;> rintro ⟨⟩
      · refine ⟨fun _ _ => hround, ?_, ?_, ?_, fun _ => rfl, ?_⟩ <;> rintro ⟨⟩
      · exact .of_outside (.inl rfl)
  | depart =>
      have hlate : ¬ (12 : ℕ) ≤ 10 := by decide
      refine ⟨fun _ hle => absurd hle hlate, ?_, ?_, ?_, ?_, fun _ => hyaw⟩ <;> rintro ⟨⟩
  | arrived => exact .of_outside (.inl rfl)

theorem headingInv_invariant : imuSystem.Invariant HeadingInv where
  init := by
    refine ⟨.inr rfl, ?_, .of_outside (.inl rfl)⟩
    change -180 ≤ (0 : ℚ) ∧ (0 : ℚ) < 180
    norm_num
  step s event hinv := by
    obtain ⟨event, hallowed⟩ := event
    have hmode := carSystem_inMode.step s event hinv.inMode
    refine ⟨hmode, ?_, ?_⟩
    · cases event with
      | yaw yaw => exact hallowed
      | tick =>
          change -180 ≤ (tick s).yaw ∧ (tick s).yaw < 180
          rw [yaw_tick hinv.inMode]
          exact hinv.yaw
      | plantSoft | maixcam | distance | encoder => exact hinv.yaw
    · rcases carStep_obstacles hinv.inMode event with ⟨-, hstep⟩ | ⟨-, hsame⟩
      · exact hstep.headings hinv.headings hinv.yaw
      · exact hsame ▸ hinv.headings

/-! ## The two corrections -/

theorem add_turn_modEq (angle : ℚ) : angle + 360 ≡ angle [PMOD 360] := by
  simp

theorem sub_turn_modEq (angle : ℚ) : angle - 360 ≡ angle [PMOD 360] := by
  have hturn := add_turn_modEq (angle - 360)
  rw [sub_add_cancel] at hturn
  exact hturn.symm

/-- The heading that `Yaw_change` hands to `Car_Turn`. -/
theorem changeHeading_spec {heading : ℚ} (hlow : -540 < heading) (hhigh : heading ≤ 540) :
    changeHeading heading ∈ Set.Ioc (-180) 180 ∧ changeHeading heading ≡ heading [PMOD 360] := by
  unfold changeHeading
  simp only [lit_rat, not_lt, Set.mem_Ioc]
  split_ifs with habove hbelow hbelow
  · -- the first correction has come from above
    exact absurd hbelow (by linarith)
  · exact ⟨⟨by linarith, by linarith⟩, sub_turn_modEq heading⟩
  · exact ⟨⟨by linarith, by linarith⟩, add_turn_modEq heading⟩
  · exact ⟨⟨by linarith, by linarith⟩, AddCommGroup.modEq_rfl⟩

/-- The yaw that `Car_Turn` and `Car_Goline` hand to the controller. -/
theorem readYaw_spec {target yaw : ℚ} (hlow : -540 ≤ target - yaw) (hhigh : target - yaw ≤ 540) :
    target - Motors.readYaw target yaw ∈ Set.Icc (-180) 180 ∧
      Motors.readYaw target yaw ≡ yaw [PMOD 360] := by
  unfold Motors.readYaw
  simp only [lit_rat, Set.mem_Icc]
  split_ifs
  · exact ⟨⟨by linarith, by linarith⟩, add_turn_modEq yaw⟩
  · exact ⟨⟨by linarith, by linarith⟩, sub_turn_modEq yaw⟩
  · exact ⟨⟨by linarith, by linarith⟩, AddCommGroup.modEq_rfl⟩

/-- The headings that a round turns to. -/
theorem HeadingsInRange.turnHeading {a : Avoidance ℚ} (hrange : HeadingsInRange a) {heading : ℚ}
    (hheading : a.turnHeading = some heading) : -540 < heading ∧ heading ≤ 540 := by
  obtain ⟨hstate, rfl⟩ | ⟨hstate, rfl⟩ | ⟨hstate, rfl⟩ | ⟨hstate, rfl⟩ | ⟨hstate, rfl⟩ :=
    turnHeading_cases hheading
  all_goals obtain ⟨hlow, hhigh⟩ := hrange.round (by omega) (by omega)
  · constructor <;> linarith
  · rw [hrange.right60 hstate]
    constructor <;> linarith
  · rw [hrange.left60 hstate]
    constructor <;> linarith
  · rw [hrange.right90 hstate]
    constructor <;> linarith
  · rw [hrange.left90 hstate]
    constructor <;> linarith

/-! ## What the controller is fed -/

/-- The controller of the turns was given a target for a heading, and an error
that is the short way to it. -/
structure Corrects (heading yaw : ℚ) (m : Motors ℚ) : Prop where
  target : m.pidTrun.target ≡ heading [PMOD 360]
  fed : m.pidTrun.error0 = m.pidTrun.target - m.yawRead
  short : m.pidTrun.error0 ∈ Set.Icc (-180) 180
  error : m.pidTrun.error0 ≡ m.pidTrun.target - yaw [PMOD 360]

/-- `Car_Turn` and `Car_Goline` leave this to the controller. -/
theorem corrects_of_fed {heading target yaw : ℚ} {m : Motors ℚ}
    (htarget : m.pidTrun.target = target) (hread : m.yawRead = Motors.readYaw target yaw)
    (hfed : m.pidTrun.error0 = m.pidTrun.target - m.yawRead)
    (hheading : target ≡ heading [PMOD 360]) (hlow : -540 ≤ target - yaw)
    (hhigh : target - yaw ≤ 540) : Corrects heading yaw m := by
  obtain ⟨hshort, hcongr⟩ := readYaw_spec hlow hhigh
  rw [htarget, hread] at hfed
  refine ⟨htarget ▸ hheading, ?_, ?_, ?_⟩
  · rw [hfed, htarget, hread]
  · rwa [hfed]
  · rw [hfed, htarget]
    exact hcongr.sub_left target

/-- Every turn and every leg of a call takes the short way. -/
structure ShortWay (s : Car ℚ) (event : CarEvent ℚ) : Prop where
  turn : Executed s event → ∀ heading ∈ (avoidance s).turnHeading,
    (carStep s event).motors.pidTrun.target ∈ Set.Ioc (-180) 180 ∧
      Corrects heading s.yaw (carStep s event).motors
  leg : Executed s event → s.modestate = 12 → (s.milleage1 + s.milleage2) / 2 ≤ 350 →
    (carStep s event).motors.pidTrun.target ∈ Set.Ico (-180) 180 ∧
      Corrects s.yawTemprary s.yaw (carStep s event).motors

theorem HeadingInv.turn {s : Car ℚ} (hinv : HeadingInv s) (hexecuting : Executing s) {heading : ℚ}
    (hheading : (avoidance s).turnHeading = some heading) :
    (tick s).motors.pidTrun.target ∈ Set.Ioc (-180) 180 ∧
      Corrects heading s.yaw (tick s).motors := by
  obtain ⟨t, hkeeps, htick⟩ := tick_of_executing hinv.inMode hexecuting
  obtain ⟨hlow, hhigh⟩ := hinv.headings.turnHeading hheading
  obtain ⟨hrange, hcongr⟩ := changeHeading_spec hlow hhigh
  rw [← hkeeps.avoidance] at hheading
  have hyaw := hinv.yaw
  rw [← hkeeps.yaw] at hyaw ⊢
  rw [htick, motors_of_turn hheading]
  have htarget : (t.motors.yawChange (.findingObs t.modestate) heading t.yaw t.encoderSpeed1
      t.encoderSpeed2).pidTrun.target = changeHeading heading := by
    rw [pidTrun_yawChange]
    rfl
  refine ⟨htarget ▸ hrange, corrects_of_fed htarget rfl ?_ hcongr ?_ ?_⟩
  · rw [pidTrun_yawChange]
    rfl
  · linarith [hrange.1, hyaw.2]
  · linarith [hrange.2, hyaw.1]

theorem HeadingInv.leg {s : Car ℚ} (hinv : HeadingInv s) (hexecuting : Executing s)
    (hstate : s.modestate = 12) (hshort : (s.milleage1 + s.milleage2) / 2 ≤ 350) :
    (tick s).motors.pidTrun.target ∈ Set.Ico (-180) 180 ∧
      Corrects s.yawTemprary s.yaw (tick s).motors := by
  obtain ⟨t, hkeeps, htick⟩ := tick_of_executing hinv.inMode hexecuting
  have hrange := hinv.headings.leg hstate
  have hyaw := hinv.yaw
  have hstate' : t.modestate = 12 := (congrArg Avoidance.modestate hkeeps.avoidance).trans hstate
  have htemprary : t.yawTemprary = s.yawTemprary :=
    congrArg Avoidance.yawTemprary hkeeps.avoidance
  change -180 ≤ s.yawTemprary ∧ s.yawTemprary < 180 at hrange
  rw [← htemprary] at hrange ⊢
  rw [← hkeeps.yaw] at hyaw ⊢
  rw [← hkeeps.milleage1, ← hkeeps.milleage2] at hshort
  have hmotors : t.findingObsCase.motors =
      t.motors.carGoline (.findingObs 12) t.yawTemprary 600 t.yaw t.encoderSpeed1
        t.encoderSpeed2 := by
    unfold Car.findingObsCase
    rw [hstate']
    exact congrArg Car.motors (if_pos hshort)
  have htarget : (t.motors.carGoline (.findingObs 12) t.yawTemprary 600 t.yaw t.encoderSpeed1
      t.encoderSpeed2).pidTrun.target = t.yawTemprary := rfl
  rw [htick, hmotors]
  refine ⟨hrange, corrects_of_fed htarget rfl rfl AddCommGroup.modEq_rfl ?_ ?_⟩
  · linarith [hrange.1, hyaw.2]
  · linarith [hrange.2, hyaw.1]

theorem turns_short_way (events : List {event // YawInRange event}) :
    imuSystem.Along (fun s event => ShortWay s event.1) events := by
  apply headingInv_invariant.along
  intro s event hinv
  constructor
  · intro hexecuted heading hheading
    rw [hexecuted.eq_tick]
    exact hinv.turn hexecuted.2 hheading
  · intro hexecuted hstate hshort
    rw [hexecuted.eq_tick]
    exact hinv.leg hexecuted.2 hstate hshort

/-! ## The end of a turn -/

/-- A turn ends exactly if the yaw is less than five degrees from the heading on
the circle. -/
def TurnEnds (s : Car ℚ) (event : CarEvent ℚ) : Prop :=
  Executed s event → ∀ heading ∈ (avoidance s).turnHeading,
    ((carStep s event).modestate = s.modestate + 1 ↔ Cyclic.dist 360 s.yaw heading < 5)

/-- The yaw is not just across the half turn from the heading. -/
def NotAcross (s : Car ℚ) (event : CarEvent ℚ) : Prop :=
  Executed s event → ∀ heading ∈ (avoidance s).turnHeading,
    |s.yaw - changeHeading heading| ≤ 355

instance (s : Car ℚ) (event : CarEvent ℚ) : Decidable (TurnEnds s event) :=
  inferInstanceAs (Decidable (_ → ∀ heading ∈ _, _))

theorem fabs_rat (x : ℚ) : CFloat.fabs x = |x| := by
  unfold CFloat.fabs
  rw [lit_rat]
  split
  next hneg => rw [abs_of_neg hneg]
  next hpos => rw [abs_of_nonneg (not_lt.mp hpos)]

theorem reached_iff (yaw heading : ℚ) :
    Reached yaw heading ↔ |yaw - changeHeading heading| < 5 := by
  rw [Reached, fabs_rat]
  rfl

theorem ObsStep.of_turn {F : Type} [CFloat F] {a b : Avoidance F} {distance : ℕ} {yaw heading : F}
    (hstep : ObsStep a distance yaw b) (hheading : a.turnHeading = some heading) :
    b.modestate = a.modestate + 1 ↔ Reached yaw heading := by
  have hstate := turnHeading_cases hheading
  cases hstep with
  | clear hother | watch hother | found hother | depart hother | driving hother
  | arrived hother | other hother => omega
  | turning _ hheading' hreached =>
      cases hheading'.symm.trans hheading
      exact ⟨fun hnext => absurd hnext.symm (Nat.succ_ne_self _), fun h => absurd h hreached⟩
  | turned _ hheading' hreached =>
      cases hheading'.symm.trans hheading
      exact ⟨fun _ => hreached, fun _ => rfl⟩
  | standing _ hnext | free _ hnext | blocked _ hnext =>
      have hstop := blocked_cases hnext
      have hsame : a.counted.modestate = a.modestate := rfl
      omega

/-- The distance on the circle, from the heading that `Yaw_change` hands on. -/
theorem dist_changeHeading {yaw heading : ℚ} (hyaw : -180 ≤ yaw ∧ yaw < 180)
    (hlow : -540 < heading) (hhigh : heading ≤ 540) :
    Cyclic.dist 360 yaw heading < 5 ↔
      |yaw - changeHeading heading| < 5 ∨ 355 < |yaw - changeHeading heading| := by
  obtain ⟨⟨hlow', hhigh'⟩, hcongr⟩ := changeHeading_spec hlow hhigh
  obtain ⟨turns, hturns⟩ := AddCommGroup.modEq_iff_zsmul.mp hcongr
  have hsame : Cyclic.dist 360 yaw heading = Cyclic.dist 360 yaw (changeHeading heading) := by
    apply Cyclic.dist_congr (by norm_num) turns
    rw [zsmul_eq_mul] at hturns
    linarith
  have hturn : |yaw - changeHeading heading| ≤ 360 := by
    rw [abs_le]
    constructor <;> linarith [hyaw.1, hyaw.2]
  rw [hsame, Cyclic.dist_lt_iff (by norm_num) hturn]
  norm_num

theorem turnEnds_iff_of_inv {s : Car ℚ} (hinv : HeadingInv s) (event : CarEvent ℚ) :
    TurnEnds s event ↔ NotAcross s event := by
  apply imp_congr_right
  intro hexecuted
  apply forall₂_congr
  intro heading hheading
  obtain rfl := hexecuted.eq_tick
  obtain ⟨hlow, hhigh⟩ := hinv.headings.turnHeading hheading
  have hends := (obsStep_tick hinv.inMode hexecuted.2).of_turn hheading
  change ((tick s).modestate = s.modestate + 1 ↔ Reached s.yaw heading) at hends
  change ((tick s).modestate = s.modestate + 1 ↔ _) ↔ _
  rw [hends, reached_iff, dist_changeHeading hinv.yaw hlow hhigh]
  constructor
  · intro hiff
    by_contra hacross
    have hreached := hiff.mpr (Or.inr (not_le.mp hacross))
    linarith
  · intro hnear
    exact ⟨Or.inl, fun hor => hor.resolve_right (not_lt.mpr hnear)⟩

/-- Turns end by the distance on the circle throughout a run exactly if no turn
finds the yaw just across the half turn from its heading. -/
theorem turn_ends_iff_not_across (events : List {event // YawInRange event}) :
    imuSystem.Along (fun s event => TurnEnds s event.1) events ↔
      imuSystem.Along (fun s event => NotAcross s event.1) events :=
  headingInv_invariant.along_congr (fun _ event hinv => turnEnds_iff_of_inv hinv event.1) events

/-- An obstacle seen at yaw zero has the car turn to 180 degrees, and it comes to
stand at -179. -/
def acrossHalfTurn : List {event // YawInRange event} :=
  ⟨command [0xAA, 0x10, 0x01, 0x55], trivial⟩ :: List.replicate 50 ⟨.tick, trivial⟩ ++
    [⟨.yaw (-179), by norm_num [YawInRange]⟩, ⟨.tick, trivial⟩]

theorem not_turnEnds_acrossHalfTurn :
    ¬ imuSystem.Along (fun s event => TurnEnds s event.1) acrossHalfTurn := by
  decide +kernel

end PlantAssistant.Motion
