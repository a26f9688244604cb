import PlantAssistant.Motion.EmergencyStop

/-! # No uncontrolled motion

A call with `Motor_flag` one either reaches a branch that writes the duties, or
leaves them as they were. Wheels that turn are meant to be attended: by the
search for light while it drives, or by a state of the obstacle machine that
drives or brakes. Mode commands and the end of the search break this.
-/

namespace PlantAssistant.Motion

open Transition PlantAssistant.Firmware

variable {F : Type}

/-- The branches that drive the wheels; the others brake. -/
def Drives : Branch → Prop
  | .findingLight modestate => modestate = 2
  | .findingObs modestate => modestate ∈ [1, 3, 5, 7, 9, 12]
  | .motorFlagOff => False

/-- The last call took its duties from a branch that drives. -/
def Driven (s : Car F) : Prop :=
  ∃ branch, s.motors.writer = some branch ∧ Drives branch

/-- The states of `Finding_obs` that write the duties: all but waiting for an
obstacle and the start of a leg. -/
def ObsWrites (modestate : ℕ) : Prop := 1 ≤ modestate ∧ modestate ≤ 12 ∧ modestate ≠ 11

instance (modestate : ℕ) : Decidable (ObsWrites modestate) :=
  inferInstanceAs (Decidable (_ ∧ _))

/-- The machine in charge, if it goes on, writes the duties of turning wheels. -/
def Attended (s : Car F) : Prop :=
  s.maixModeFlag = 1 ∧ ObsWrites s.modestate ∨
    s.maixModeFlag = 2 ∧
      (s.modestateLight = 2 ∨ s.modestateLight = 5 ∧ ObsWrites s.modestate)

instance (s : Car F) : Decidable (Attended s) := inferInstanceAs (Decidable (_ ∨ _))

/-- Nothing that decides who attends to the wheels changes, and the wheels are
stopped or go on as they were. -/
structure Rests (s t : Car F) : Prop where
  maixModeFlag : t.maixModeFlag = s.maixModeFlag
  modestateLight : t.modestateLight = s.modestateLight
  modestate : t.modestate = s.modestate
  motors : Stopped t ∨ t.motors = s.motors

theorem Rests.trans {s t u : Car F} (hfirst : Rests s t) (hsecond : Rests t u) : Rests s u where
  maixModeFlag := hsecond.1.trans hfirst.1
  modestateLight := hsecond.2.trans hfirst.2
  modestate := hsecond.3.trans hfirst.3
  motors := by
    obtain hstopped | hsame := hsecond.motors
    · exact .inl hstopped
    · rw [Stopped, hsame]
      exact hfirst.motors

theorem Rests.attended {s t : Car F} (hrests : Rests s t) (hattended : ¬ Stopped s → Attended s)
    (hturns : ¬ Stopped t) : Attended t := by
  have hsame := hrests.motors.resolve_left hturns
  rw [Attended, hrests.maixModeFlag, hrests.modestateLight, hrests.modestate]
  apply hattended
  rwa [Stopped, ← hsame]

theorem Guards.rests {machine call : Car F → Car F} (hguards : Guards machine call) {s : Car F}
    (hoff : s.motorFlag ≠ 1) : Rests s (call s) := by
  obtain ⟨hon, -⟩ | ⟨-, hcall⟩ | ⟨-, -, hcall⟩ := hguards s
  · exact absurd hon hoff
  · rw [hcall]
    exact ⟨rfl, rfl, rfl, .inl (stopped_setCCR _ s)⟩
  · rw [hcall]
    exact ⟨rfl, rfl, rfl, .inr rfl⟩

theorem stopped_obsStop (modestate : ℕ) {blocked : Car F → Car F}
    (hblocked : ∀ s, (blocked s).motors = s.motors) (s : Car F) :
    Stopped (s.obsStop modestate blocked) := by
  unfold Car.obsStop
  dsimp only
  split_ifs
  · exact ⟨rfl, rfl⟩
  · rw [Stopped, hblocked]
    exact ⟨rfl, rfl⟩
  · exact ⟨rfl, rfl⟩

variable [CFloat F]

/-- The states of `Finding_light` that write the duties. -/
def LightWrites (s : Car F) : Prop :=
  s.modestateLight = 2 ∧ s.findingFlag = 0 ∧
      (s.milleage1 ≤ CFloat.lit 575 ∨ s.milleage1 ≤ CFloat.lit 1150) ∨
    s.modestateLight = 4

instance (s : Car F) : Decidable (LightWrites s) := inferInstanceAs (Decidable (_ ∨ _))

/-- The next call with `Motor_flag` one reaches a branch that writes the duties. -/
def WritesMotors (s : Car F) : Prop :=
  s.maixModeFlag = 1 ∧ ObsWrites s.modestate ∨
    s.maixModeFlag = 2 ∧
      (300 ≤ (s.starttimeCnt + 1) % 2 ^ 16 ∧ LightWrites s ∨
        s.modestateLight = 5 ∧ ObsWrites s.modestate)

/-! ## The obstacle machine -/

theorem driven_obsTurn {modestate : ℕ} (hdrives : Drives (.findingObs modestate)) (heading : F)
    (s : Car F) : Driven (s.obsTurn modestate heading) := by
  refine ⟨.findingObs modestate, ?_, hdrives⟩
  unfold Car.obsTurn
  dsimp only
  split <;> rfl

theorem modestate_obsTurn (modestate : ℕ) (heading : F) {s : Car F}
    (hstate : s.modestate = modestate) :
    (s.obsTurn modestate heading).modestate = modestate ∨
      (s.obsTurn modestate heading).modestate = modestate + 1 := by
  unfold Car.obsTurn
  dsimp only
  split
  · exact .inr rfl
  · exact .inl hstate

/-- A writing state brakes, or drives and hands over to a writing state. -/
theorem findingObsCase_writes {s : Car F} (hwrites : ObsWrites s.modestate) :
    Stopped s.findingObsCase ∨ Driven s.findingObsCase ∧ ObsWrites s.findingObsCase.modestate := by
  have hturn : ∀ modestate heading, s.modestate = modestate →
      Drives (.findingObs modestate) → modestate < 10 →
      Driven (s.obsTurn modestate heading) ∧
        ObsWrites (s.obsTurn modestate heading).modestate := by
    intro modestate heading hstate hdrives hlt
    refine ⟨driven_obsTurn hdrives heading s, ?_⟩
    obtain ⟨hpos, -⟩ := hstate ▸ hwrites
    rcases modestate_obsTurn modestate heading hstate with hnext | hnext <;>
    · rw [hnext, ObsWrites]
      omega
  unfold Car.findingObsCase
  split
  case h_2 hstate | h_4 hstate | h_6 hstate | h_8 hstate | h_10 hstate =>
    exact .inr (hturn _ _ hstate (by simp [Drives]) (by decide))
  case h_3 | h_5 | h_7 | h_9 | h_11 =>
    refine .inl (stopped_obsStop _ ?_ s)
    intro s
    rfl
  case h_13 hstate =>
    unfold Car.obsLeg
    dsimp only
    split
    · refine .inr ⟨⟨.findingObs 12, rfl, by simp [Drives]⟩, ?_⟩
      exact hwrites
    · exact .inl ⟨rfl, rfl⟩
  case h_1 hstate => exact absurd hwrites.1 (by omega)
  case h_12 hstate => exact absurd hstate hwrites.2.2
  case h_14 => grind [ObsWrites]

/-- The other states leave the motors alone. -/
theorem findingObsCase_idle {s : Car F} (hidle : ¬ ObsWrites s.modestate) :
    s.findingObsCase.motors = s.motors := by
  unfold Car.findingObsCase
  split
  case h_1 =>
    unfold Car.obsWatch
    dsimp only
    split_ifs <;> rfl
  case h_12 | h_14 => rfl
  all_goals
    next hstate =>
      rw [ObsWrites, hstate] at hidle
      omega

theorem findingObs_writes {s : Car F} (hon : s.motorFlag = 1) (hwrites : ObsWrites s.modestate) :
    Stopped s.findingObs ∨ Driven s.findingObs ∧ ObsWrites s.findingObs.modestate := by
  rw [findingObs_guards.on hon]
  exact findingObsCase_writes hwrites

theorem findingObs_idle {s : Car F} (hon : s.motorFlag = 1) (hidle : ¬ ObsWrites s.modestate) :
    s.findingObs.motors = s.motors := by
  rw [findingObs_guards.on hon]
  exact findingObsCase_idle hidle

/-! ## The search for light -/

theorem findingLight_over {s : Car F} (hon : s.motorFlag = 1) (hstate : s.modestateLight = 5) :
    s.findingLight = s := by
  rw [findingLight_guards.on hon, Car.findingLightCase]
  simp only [hstate]

theorem findingLight_drives {s : Car F} (hon : s.motorFlag = 1) (hstate : s.modestateLight = 2)
    (hwrites : LightWrites s) :
    Driven s.findingLight ∧ s.findingLight.modestateLight = 2 := by
  obtain ⟨-, hsearching, hway⟩ | hbrake := hwrites
  · rw [findingLight_guards.on hon, Car.findingLightCase]
    simp only [hstate, hsearching, if_true]
    by_cases hnear : s.milleage1 ≤ CFloat.lit 575
    · rw [if_pos hnear]
      split
      next hfound => exact absurd (hsearching.symm.trans hfound) (by decide)
      next => exact ⟨⟨.findingLight 2, rfl, rfl⟩, hstate⟩
    · rw [if_neg hnear, if_pos (hway.resolve_left hnear)]
      split
      next hfound => exact absurd (hsearching.symm.trans hfound) (by decide)
      next => exact ⟨⟨.findingLight 2, rfl, rfl⟩, hstate⟩
  · omega

theorem findingLight_brakes {s : Car F} (hon : s.motorFlag = 1) (hstate : s.modestateLight = 4) :
    Stopped s.findingLight ∧ s.findingLight.modestateLight = 5 := by
  rw [findingLight_guards.on hon, Car.findingLightCase]
  simp only [hstate]
  exact ⟨⟨rfl, rfl⟩, trivial⟩

/-- The other states leave the motors alone, and none of them ends the search. -/
theorem findingLight_idle {s : Car F} (hon : s.motorFlag = 1) (hidle : ¬ LightWrites s) :
    s.findingLight.motors = s.motors ∧
      (s.findingLight.modestateLight = 5 ↔ s.modestateLight = 5) := by
  rw [findingLight_guards.on hon]
  unfold Car.findingLightCase
  split
  case h_2 hstate =>
    have hgone : s.findingFlag = 0 →
        ¬ s.milleage1 ≤ CFloat.lit 575 ∧ ¬ s.milleage1 ≤ CFloat.lit 1150 := by
      intro hsearching
      exact not_or.mp fun hway => hidle (.inl ⟨hstate, hsearching, hway⟩)
    by_cases hsearching : s.findingFlag = 0
    · simp [hsearching, hgone hsearching, hstate]
    · dsimp only
      rw [if_neg hsearching]
      split <;> simp [hstate]
  case h_4 hstate => exact absurd (.inr hstate) hidle
  all_goals simp_all

/-! ## A call with `Motor_flag` one -/

theorem searched_over {s : Car F} (hon : s.motorFlag = 1) (hstate : s.modestateLight = 5) :
    searched s = s.countStarttime := by
  unfold searched
  split
  · exact findingLight_over hon hstate
  · rfl

/-- After the search the obstacle machine takes over wheels that are stopped or
that it writes. -/
theorem findingObs_attends {s : Car F} (hon : s.motorFlag = 1) (hmode : s.maixModeFlag = 2)
    (hlight : s.modestateLight = 5) (hready : Stopped s ∨ ObsWrites s.modestate) :
    Stopped s.findingObs ∨ Driven s.findingObs ∧ Attended s.findingObs := by
  have hglobals := (keepsGlobals_findingObs s).toGlobals
  by_cases hwrites : ObsWrites s.modestate
  · refine (findingObs_writes hon hwrites).imp_right fun ⟨hdriven, hnext⟩ => ⟨hdriven, ?_⟩
    exact .inr ⟨by rw [hglobals, hmode], .inr ⟨by rw [hglobals, hlight], hnext⟩⟩
  · left
    rw [Stopped, findingObs_idle hon hwrites]
    exact hready.resolve_right hwrites

theorem maixCamSport_writes {s : Car F} (hon : s.motorFlag = 1) (hwrites : WritesMotors s) :
    Stopped s.maixCamSport ∨ Driven s.maixCamSport ∧ Attended s.maixCamSport := by
  obtain ⟨hmode, hobs⟩ | ⟨hmode, ⟨hdelay, hlight⟩ | ⟨hstate, hobs⟩⟩ := hwrites
  · have hkeeps := keepsWheels_inspected s
    rw [maixCamSport_mode1 hmode]
    refine (findingObs_writes (hkeeps.motorFlag.trans hon) (by rwa [hkeeps.modestate])).imp_right
      fun ⟨hdriven, hnext⟩ => ⟨hdriven, .inl ⟨?_, hnext⟩⟩
    rw [(keepsGlobals_findingObs _).toGlobals, hkeeps.maixModeFlag, hmode]
  · have hsearched : searched s = s.countStarttime.findingLight := if_pos hdelay
    have hkeeps := keepsArm_findingLight s.countStarttime
    rw [maixCamSport_mode2 hmode, hsearched]
    -- the search drives on, or brakes and hands over in the same call
    by_cases hstate : s.modestateLight = 2
    · obtain ⟨hdriven, hnext⟩ := findingLight_drives (s := s.countStarttime) hon hstate hlight
      rw [if_neg (by omega)]
      exact .inr ⟨hdriven, .inr ⟨hkeeps.maixModeFlag.trans hmode, .inl hnext⟩⟩
    · obtain ⟨hstopped, hnext⟩ := findingLight_brakes (s := s.countStarttime) hon
        (hlight.resolve_left fun hdrives => hstate hdrives.1)
      rw [if_pos hnext]
      exact findingObs_attends (hkeeps.motorFlag.trans hon) (hkeeps.maixModeFlag.trans hmode)
        hnext (.inl hstopped)
  · rw [maixCamSport_mode2 hmode, searched_over hon hstate, modestateLight_countStarttime,
      if_pos hstate]
    exact findingObs_attends (s := s.countStarttime) hon hmode hstate (.inr hobs)

theorem maixCamSport_idle {s : Car F} (hmode : InMode s) (hon : s.motorFlag = 1)
    (hidle : ¬ WritesMotors s) : s.maixCamSport.motors = s.motors := by
  rcases hmode with hmode | hmode
  · have hkeeps := keepsWheels_inspected s
    have hobs : ¬ ObsWrites (inspected s).modestate := by
      rw [hkeeps.modestate]
      exact fun hobs => hidle (.inl ⟨hmode, hobs⟩)
    rw [maixCamSport_mode1 hmode, findingObs_idle (hkeeps.motorFlag.trans hon) hobs,
      hkeeps.motors]
  · rw [maixCamSport_mode2 hmode]
    by_cases hstate : s.modestateLight = 5
    · have hobs : ¬ ObsWrites s.modestate := fun hobs => hidle (.inr ⟨hmode, .inr ⟨hstate, hobs⟩⟩)
      rw [searched_over hon hstate, modestateLight_countStarttime, if_pos hstate]
      exact findingObs_idle (s := s.countStarttime) hon hobs
    · by_cases hdelay : 300 ≤ (s.starttimeCnt + 1) % 2 ^ 16
      · have hlight : ¬ LightWrites s := fun hlight => hidle (.inr ⟨hmode, .inl ⟨hdelay, hlight⟩⟩)
        have hsearched : searched s = s.countStarttime.findingLight := if_pos hdelay
        obtain ⟨hmotors, hover⟩ := findingLight_idle (s := s.countStarttime) hon hlight
        rw [hsearched, if_neg (fun hnext => hstate (hover.mp hnext)), hmotors]
        rfl
      · have hsearched : searched s = s.countStarttime := if_neg hdelay
        rw [hsearched, modestateLight_countStarttime, if_neg hstate]
        rfl

/-! ## A call with another `Motor_flag` -/

theorem maixCamSport_rests {s : Car F} (hmode : InMode s) (hoff : s.motorFlag ≠ 1) :
    Rests s s.maixCamSport := by
  rcases hmode with hmode | hmode
  · obtain ⟨hkept, hmotor, hlight, hmotors, hstate⟩ := keepsWheels_inspected s
    have hinspected : Rests s (inspected s) := ⟨hkept, hlight, hstate, .inr hmotors⟩
    rw [maixCamSport_mode1 hmode]
    exact hinspected.trans (findingObs_guards.rests (by rwa [hmotor]))
  · have hcounted : Rests s s.countStarttime := ⟨rfl, rfl, rfl, .inr rfl⟩
    have hsearched : Rests s (searched s) ∧ (searched s).motorFlag ≠ 1 := by
      unfold searched
      split
      · have hkeeps := keepsArm_findingLight s.countStarttime
        exact ⟨hcounted.trans (findingLight_guards.rests hoff), by rwa [hkeeps.motorFlag]⟩
      · exact ⟨hcounted, hoff⟩
    rw [maixCamSport_mode2 hmode]
    split
    · exact hsearched.1.trans (findingObs_guards.rests hsearched.2)
    · exact hsearched.1

/-! ## Runs -/

/-- After a call with `Motor_flag` one, wheels that turn were driven by it. -/
def Controlled (s : Car F) (event : CarEvent F) : Prop :=
  event = .tick → s.motorFlag = 1 → ¬ Stopped (carStep s event) → Driven (carStep s event)

/-- A call with `Motor_flag` one writes the duties, or finds the wheels stopped. -/
def MotorsReached (s : Car F) (event : CarEvent F) : Prop :=
  event = .tick → s.motorFlag = 1 → WritesMotors s ∨ Stopped s

/-- The commands that reach turning wheels leave them attended, and the search
for light is neither held off nor over while it drives. -/
def HandedOver (s : Car F) : CarEvent F → Prop
  | .plantSoft data size =>
      ¬ Stopped s → Attended { s with toGlobals := plantSoftDataProc data size s.toGlobals }
  | .tick =>
      s.motorFlag = 1 → ¬ Stopped s → s.maixModeFlag = 2 → s.modestateLight = 2 →
        300 ≤ (s.starttimeCnt + 1) % 2 ^ 16 ∧ LightWrites s
  | _ => True

instance (s : Car F) : ∀ event, Decidable (HandedOver s event)
  | .plantSoft .. => inferInstanceAs (Decidable (_ → _))
  | .tick => inferInstanceAs (Decidable (_ → _))
  | .maixcam .. | .distance _ | .yaw _ | .encoder .. => isTrue trivial

theorem controlled_iff {s : Car F} (hmode : InMode s) (event : CarEvent F) :
    Controlled s event ↔ MotorsReached s event := by
  refine forall_congr' fun htick => forall_congr' fun hon => ?_
  subst htick
  by_cases hwrites : WritesMotors s
  · have hwritten := maixCamSport_writes (s := cleared s) hon hwrites
    refine iff_of_true (fun hturns => ?_) (.inl hwrites)
    exact (hwritten.resolve_left hturns).1
  · have hmotors : (tick s).motors = (cleared s).motors :=
      maixCamSport_idle (s := cleared s) hmode hon hwrites
    have hundriven : ¬ Driven (tick s) := by
      rintro ⟨branch, hbranch, -⟩
      simp [hmotors, cleared] at hbranch
    have hstopped : Stopped (tick s) ↔ Stopped s := by
      rw [Stopped, hmotors]
      rfl
    change (¬ Stopped (tick s) → Driven (tick s)) ↔ _
    tauto

/-- One step of the invariant behind the second part of the theorem below. -/
theorem attended_step {s : Car F} {event : CarEvent F} (hmode : InMode s)
    (hattended : ¬ Stopped s → Attended s) (hhanded : HandedOver s event) :
    MotorsReached s event ∧ (¬ Stopped (carStep s event) → Attended (carStep s event)) := by
  cases event with
  | plantSoft data size => exact ⟨fun htick => by simp at htick, hhanded⟩
  | maixcam data size =>
      refine ⟨fun htick => by simp at htick, fun hturns => ?_⟩
      have hkeeps := keepsModes_maixcamDataProc data size s.toGlobals
      have hsame : Rests s (carStep s (.maixcam data size)) :=
        ⟨hkeeps.maixModeFlag, hkeeps.modestateLight, rfl, .inr rfl⟩
      exact hsame.attended hattended hturns
  | distance | yaw | encoder => exact ⟨fun htick => by simp at htick, hattended⟩
  | tick =>
      by_cases hon : s.motorFlag = 1
      · have hreached : WritesMotors s ∨ Stopped s := by
          by_cases hstopped : Stopped s
          · exact .inr hstopped
          · left
            obtain hobs | ⟨htwo, hlight | hobs⟩ := hattended hstopped
            · exact .inl hobs
            · exact .inr ⟨htwo, .inl (hhanded hon hstopped htwo hlight)⟩
            · exact .inr ⟨htwo, .inr hobs⟩
        refine ⟨fun _ _ => hreached, fun hturns => ?_⟩
        by_cases hwrites : WritesMotors s
        · have hwritten := maixCamSport_writes (s := cleared s) hon hwrites
          exact (hwritten.resolve_left hturns).2
        · have hmotors := maixCamSport_idle (s := cleared s) hmode hon hwrites
          refine absurd ?_ hturns
          change Stopped (cleared s).maixCamSport
          rw [Stopped, hmotors]
          exact hreached.resolve_left hwrites
      · refine ⟨fun _ hon' => absurd hon' hon, fun hturns => ?_⟩
        exact (maixCamSport_rests (s := cleared s) hmode hon).attended hattended hturns

/-- In every run, wheels that turn after a call with `Motor_flag` one were driven
by it if and only if each such call writes the duties or finds the wheels
stopped. Runs whose commands hand the wheels over are among these. -/
theorem motion_controlled_iff (events : List (CarEvent F)) :
    ((carSystem F).Along Controlled events ↔ (carSystem F).Along MotorsReached events) ∧
      ((carSystem F).Along HandedOver events → (carSystem F).Along Controlled events) := by
  have hiff : (carSystem F).Along Controlled events ↔ (carSystem F).Along MotorsReached events :=
    carSystem_inMode.along_congr (fun _ event hmode => controlled_iff hmode event) events
  refine ⟨hiff, fun hhanded => hiff.mpr ?_⟩
  refine System.along_of_kept (fun s => InMode s ∧ (¬ Stopped s → Attended s))
    ⟨carSystem_inMode.init, fun hturns => absurd ⟨rfl, rfl⟩ hturns⟩ ?_ hhanded
  rintro s event ⟨hmode, hattended⟩ hstep
  obtain ⟨hreached, hnext⟩ := attended_step hmode hattended hstep
  exact ⟨hreached, carSystem_inMode.step s event hmode, hnext⟩

/-- The wheels turn at the end of this run, and are attended throughout. -/
theorem turningAway_controlled :
    ¬ Stopped ((carSystem ℚ).run turningAway) ∧ (carSystem ℚ).Along Controlled turningAway :=
  ⟨by decide +kernel, (motion_controlled_iff turningAway).2 (by decide +kernel)⟩

/-- The start delay, after which the search for light drives, with nothing in
front of the car. -/
def searching : List (CarEvent ℚ) :=
  .distance 1000 :: List.replicate 301 .tick

/-- Mode 1 while the search drives: `Finding_obs` waits for an obstacle, and the
car spins on. -/
theorem spins_on_after_mode_command :
    ¬ (carSystem ℚ).Along Controlled
      (searching ++ [command [0xAA, 0x10, 0x01, 0x55]] ++ [.tick]) := by
  intro halong
  obtain ⟨branch, hwriter, -⟩ := System.Along.last (carSystem ℚ) halong rfl
    (by decide +kernel) (by decide +kernel)
  have hwrote : (carStep ((carSystem ℚ).run
      (searching ++ [command [0xAA, 0x10, 0x01, 0x55]])) .tick).motors.writer.isSome = true := by
    rw [hwriter]
    rfl
  revert hwrote
  decide +kernel

end PlantAssistant.Motion
