import PlantAssistant.Motion.Sport

/-! # The duties of the wheels

Both speed controllers limit their output to the range of the timer, so that
nothing is left to cut off where the duties are set: the wheels are braked, or
run with exactly what the controllers put out.
-/

namespace PlantAssistant.Motion

open Transition PlantAssistant.Firmware

/-- The range of the compare values. -/
abbrev dutyLimit : ℕ := 4199

/-- The wheels are braked, or every channel carries its controller's output. -/
structure DutiesLimited (m : Motors ℚ) : Prop where
  out1 : |m.pidMotor1Speed.out| ≤ dutyLimit
  out2 : |m.pidMotor2Speed.out| ≤ dutyLimit
  applied : m.ccr1 = 0 ∧ m.ccr2 = 0 ∨
    (m.ccr1 = (CFloat.toInt m.pidMotor1Speed.out).natAbs ∧
        m.ain = decide (0 ≤ CFloat.toInt m.pidMotor1Speed.out)) ∧
      m.ccr2 = (CFloat.toInt m.pidMotor2Speed.out).natAbs ∧
        m.bin = decide (0 ≤ CFloat.toInt m.pidMotor2Speed.out)

/-! ## One controller and one channel -/

theorem abs_out_iOutMax (actual : ℚ) {max : ℚ} (hmax : 0 ≤ max) (pid : Mypid ℚ) :
    |(pid.iOutMax actual max).out| ≤ max := by
  unfold Mypid.iOutMax
  dsimp only
  split_ifs with habove hbelow
  · exact (abs_of_nonneg hmax).le
  · rw [abs_neg, abs_of_nonneg hmax]
  · exact abs_le.mpr ⟨not_lt.mp hbelow, not_lt.mp habove⟩

/-- Truncation does not lead out of a range around zero. -/
theorem natAbs_toInt_le {q : ℚ} {limit : ℕ} (hq : |q| ≤ limit) :
    (CFloat.toInt q).natAbs ≤ limit := by
  change (q.num.tdiv q.den).natAbs ≤ limit
  rw [Int.natAbs_tdiv, Int.natAbs_natCast]
  apply Nat.div_le_of_le_mul
  have hden : (0 : ℚ) < q.den := by exact_mod_cast q.den_pos
  have hscaled : |(q.num : ℚ)| ≤ q.den * limit := by
    have hnum : (q.num : ℚ) = q * q.den := (Rat.mul_den_eq_num q).symm
    rw [hnum, abs_mul, abs_of_pos hden, mul_comm]
    exact mul_le_mul_of_nonneg_left hq hden.le
  have hcast : (q.num.natAbs : ℚ) ≤ (q.den * limit : ℕ) := by
    rw [Nat.cast_natAbs, Int.cast_abs]
    push_cast
    exact hscaled
  exact_mod_cast hcast

/-- A duty within the limit is set as it is. -/
theorem channel_eq {motorCCR : ℤ} (hlimit : motorCCR.natAbs ≤ dutyLimit) :
    Motors.channel motorCCR = (decide (0 ≤ motorCCR), motorCCR.natAbs) := by
  have hvalue : dutyLimit = 4199 := rfl
  unfold Motors.channel
  dsimp only
  congr 1
  split_ifs <;> omega

/-! ## The functions that set duties -/

theorem dutiesLimited_driveTargets (branch : Branch) (encoderSpeed1 encoderSpeed2 : ℤ)
    (m : Motors ℚ) : DutiesLimited (m.driveTargets branch encoderSpeed1 encoderSpeed2) := by
  have hlimited (encoderSpeed : ℤ) (pid : Mypid ℚ) :
      |(pid.iOutMax (encoderSpeed : ℚ) (4199 : ℚ)).out| ≤ ((dutyLimit : ℕ) : ℚ) :=
    abs_out_iOutMax encoderSpeed (by norm_num) pid
  have hout1 := hlimited encoderSpeed1 m.pidMotor1Speed
  have hout2 := hlimited encoderSpeed2 m.pidMotor2Speed
  have hccr1 := channel_eq (natAbs_toInt_le hout1)
  have hccr2 := channel_eq (natAbs_toInt_le hout2)
  refine ⟨hout1, hout2, .inr ⟨⟨?_, ?_⟩, ?_, ?_⟩⟩
  · exact congrArg Prod.snd hccr1
  · exact congrArg Prod.fst hccr1
  · exact congrArg Prod.snd hccr2
  · exact congrArg Prod.fst hccr2

theorem DutiesLimited.brake {m : Motors ℚ} (hlimited : DutiesLimited m) (branch : Branch) :
    DutiesLimited (m.motorSetCCR branch 0 0) :=
  ⟨hlimited.out1, hlimited.out2, .inl ⟨rfl, rfl⟩⟩

theorem DutiesLimited.findingLightCase {s : Car ℚ} (hlimited : DutiesLimited s.motors) :
    DutiesLimited s.findingLightCase.motors := by
  unfold Car.findingLightCase
  split
  case h_2 =>
    dsimp only
    split_ifs
    all_goals first
      | exact hlimited
      | exact dutiesLimited_driveTargets _ _ _ _
  case h_4 => exact hlimited.brake _
  case h_1 | h_3 | h_5 => exact hlimited

theorem DutiesLimited.obsStop {s : Car ℚ} (hlimited : DutiesLimited s.motors) (modestate : ℕ)
    {blocked : Car ℚ → Car ℚ} (hblocked : ∀ s, (blocked s).motors = s.motors) :
    DutiesLimited (s.obsStop modestate blocked).motors := by
  unfold Car.obsStop
  dsimp only
  split_ifs
  · exact hlimited.brake _
  · rw [hblocked]
    exact hlimited.brake _
  · exact hlimited.brake _

theorem DutiesLimited.findingObsCase {s : Car ℚ} (hlimited : DutiesLimited s.motors) :
    DutiesLimited s.findingObsCase.motors := by
  have hturn (modestate : ℕ) (heading : ℚ) :
      DutiesLimited (s.obsTurn modestate heading).motors := by
    unfold Car.obsTurn
    dsimp only
    split <;> exact dutiesLimited_driveTargets _ _ _ _
  unfold Car.findingObsCase
  split
  case h_1 =>
    unfold Car.obsWatch
    dsimp only
    split_ifs <;> exact hlimited
  case h_2 | h_4 | h_6 | h_8 | h_10 => exact hturn _ _
  case h_3 | h_5 | h_7 | h_9 | h_11 => exact hlimited.obsStop _ fun _ => rfl
  case h_13 =>
    unfold Car.obsLeg
    dsimp only
    split
    · exact dutiesLimited_driveTargets _ _ _ _
    · exact hlimited.brake _
  case h_12 | h_14 => exact hlimited

/-! ## Whole runs -/

theorem DutiesLimited.guards {machine call : Car ℚ → Car ℚ} (hguards : Guards machine call)
    {s : Car ℚ} (hlimited : DutiesLimited s.motors)
    (hmachine : DutiesLimited (machine s).motors) : DutiesLimited (call s).motors := by
  obtain ⟨-, hcall⟩ | ⟨-, hcall⟩ | ⟨-, -, hcall⟩ := hguards s <;> rw [hcall]
  · exact hmachine
  · exact hlimited.brake _
  · exact hlimited

theorem DutiesLimited.maixCamSport {s : Car ℚ} (hmode : InMode s)
    (hlimited : DutiesLimited s.motors) : DutiesLimited s.maixCamSport.motors := by
  have hobs {s : Car ℚ} (hlimited : DutiesLimited s.motors) : DutiesLimited s.findingObs.motors :=
    hlimited.guards findingObs_guards hlimited.findingObsCase
  rcases hmode with hmode | hmode
  · rw [maixCamSport_mode1 hmode]
    refine hobs ?_
    rw [(keepsWheels_inspected s).motors]
    exact hlimited
  · have hsearched : DutiesLimited (searched s).motors := by
      unfold searched
      split
      · have hcounted : DutiesLimited s.countStarttime.motors := hlimited
        exact hcounted.guards findingLight_guards hcounted.findingLightCase
      · exact hlimited
    rw [maixCamSport_mode2 hmode]
    split
    · exact hobs hsearched
    · exact hsearched

theorem dutiesLimited_invariant :
    (carSystem ℚ).Invariant fun s => InMode s ∧ DutiesLimited s.motors where
  init := ⟨.inr rfl, by rw [abs_le]; constructor <;> decide +kernel,
    by rw [abs_le]; constructor <;> decide +kernel, .inl ⟨rfl, rfl⟩⟩
  step s event hinv := by
    obtain ⟨hmode, hlimited⟩ := hinv
    refine ⟨carSystem_inMode.step s event hmode, ?_⟩
    cases event with
    | plantSoft | maixcam | distance | yaw | encoder => exact hlimited
    | tick =>
        have hcleared : DutiesLimited (cleared s).motors :=
          ⟨hlimited.out1, hlimited.out2, hlimited.applied⟩
        exact hcleared.maixCamSport hmode

/-- Whatever the sensors, the frames and the encoders say, the wheels are braked
or carry the outputs of their controllers, which stay in the range of the timer. -/
theorem duties_limited (events : List (CarEvent ℚ)) :
    DutiesLimited ((carSystem ℚ).run events).motors :=
  (dutiesLimited_invariant.run events).2

end PlantAssistant.Motion
