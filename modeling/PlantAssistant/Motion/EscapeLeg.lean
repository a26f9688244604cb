import PlantAssistant.Motion.Obstacles

/-! # The odometer of an escape leg

State 11 of the obstacle machine clears the odometers and state 12 drives until
they show the length of a leg. The search for light clears them too, and the
obstacle machine stands still while the panel has it search. Exact arithmetic.
-/

namespace PlantAssistant.Motion

open Transition PlantAssistant.Firmware

/-! ## What a call does to the odometers -/

/-- The case of `Finding_obs` that the next call executes. -/
def Executes (modestate : ℕ) (s : Car ℚ) : Prop :=
  s.motorFlag = 1 ∧ s.modestate = modestate ∧ Call.findingObs ∈ calls s

instance (modestate : ℕ) (s : Car ℚ) : Decidable (Executes modestate s) :=
  inferInstanceAs (Decidable (_ ∧ _))

/-- Neither the odometers nor the state of the obstacle machine change. -/
structure KeepsOdometer (s t : Car ℚ) : Prop where
  motorFlag : t.motorFlag = s.motorFlag
  modestate : t.modestate = s.modestate
  milleage1 : t.milleage1 = s.milleage1
  milleage2 : t.milleage2 = s.milleage2

theorem KeepsObstacles.keepsOdometer {s t : Car ℚ} (hkeeps : KeepsObstacles s t) :
    KeepsOdometer s t where
  motorFlag := hkeeps.motorFlag
  modestate := congrArg Avoidance.modestate hkeeps.avoidance
  milleage1 := hkeeps.milleage1
  milleage2 := hkeeps.milleage2

/-- A call comes to `Finding_obs`, if it does, with the odometers as they were. -/
theorem tick_odometer {s : Car ℚ} (hmode : InMode s) :
    ∃ t, KeepsOdometer s t ∧
      tick s = if Call.findingObs ∈ calls s then t.findingObs else t := by
  obtain ⟨t, hkeeps, htick⟩ := tick_obstacles hmode
  exact ⟨t, hkeeps.keepsOdometer, htick⟩

/-! ## The states 11 and 12 -/

theorem findingObsCase_other {t : Car ℚ} (h11 : t.modestate ≠ 11) (h12 : t.modestate ≠ 12) :
    t.findingObsCase.milleage1 = t.milleage1 ∧ t.findingObsCase.milleage2 = t.milleage2 ∧
      t.findingObsCase.modestate ≠ 12 := by
  unfold Car.findingObsCase
  split
  case h_1 hstate =>
    unfold Car.obsWatch
    dsimp only
    split_ifs <;> simp [hstate]
  case h_2 hstate | h_4 hstate | h_6 hstate | h_8 hstate | h_10 hstate =>
    unfold Car.obsTurn
    dsimp only
    split_ifs <;> simp [hstate]
  case h_3 hstate | h_5 hstate | h_7 hstate | h_9 hstate | h_11 hstate =>
    unfold Car.obsStop
    dsimp only
    split_ifs <;> simp [hstate, Car.setCCR]
  case h_12 hstate => exact absurd hstate h11
  case h_13 hstate => exact absurd hstate h12
  case h_14 => exact ⟨rfl, rfl, h12⟩

/-- A call that does not execute one of the last two states leaves the odometers
alone and does not come to the leg. -/
theorem tick_of_other {s : Car ℚ} (hmode : InMode s) (h11 : ¬ Executes 11 s)
    (h12 : ¬ Executes 12 s) :
    (tick s).milleage1 = s.milleage1 ∧ (tick s).milleage2 = s.milleage2 ∧
      ((tick s).modestate = 12 → s.modestate = 12) := by
  obtain ⟨t, ⟨hmotor, hstate, hway1, hway2⟩, htick⟩ := tick_odometer hmode
  rw [htick, ← hway1, ← hway2, ← hstate]
  split
  next hcall =>
    obtain ⟨hon, hobs⟩ | ⟨-, hobs⟩ | ⟨-, -, hobs⟩ := findingObs_guards t <;> rw [hobs]
    · have hne : ∀ modestate, ¬ Executes modestate s → t.modestate ≠ modestate := by
        intro modestate hnot heq
        exact hnot ⟨hmotor ▸ hon, hstate ▸ heq, hcall⟩
      obtain ⟨hkept1, hkept2, hleg⟩ := findingObsCase_other (hne 11 h11) (hne 12 h12)
      exact ⟨hkept1, hkept2, fun heq => absurd heq hleg⟩
    · exact ⟨rfl, rfl, id⟩
    · exact ⟨rfl, rfl, id⟩
  next => exact ⟨rfl, rfl, id⟩

/-- A call that executes a state runs its case with the odometers as they are. -/
theorem tick_of_executes {modestate : ℕ} {s : Car ℚ} (hmode : InMode s)
    (hexecutes : Executes modestate s) :
    ∃ t, KeepsOdometer s t ∧ t.modestate = modestate ∧ tick s = t.findingObsCase := by
  obtain ⟨hon, hstate, hcall⟩ := hexecutes
  obtain ⟨t, hkeeps, htick⟩ := tick_of_executing hmode ⟨hon, hcall⟩
  have hodometer := hkeeps.keepsOdometer
  exact ⟨t, hodometer, hodometer.modestate.trans hstate, htick⟩

/-- State 11 clears the odometers and begins the leg. -/
theorem tick_of_11 {s : Car ℚ} (hmode : InMode s) (h11 : Executes 11 s) :
    (tick s).milleage1 = 0 ∧ (tick s).milleage2 = 0 ∧ (tick s).modestate = 12 := by
  obtain ⟨t, -, hstate, htick⟩ := tick_of_executes hmode h11
  rw [htick, Car.findingObsCase, hstate]
  exact ⟨rfl, rfl, rfl⟩

/-- State 12 measures the leg, and leaves it when it is long enough. -/
theorem tick_of_12 {s : Car ℚ} (hmode : InMode s) (h12 : Executes 12 s) :
    (tick s).milleage = (s.milleage1 + s.milleage2) / 2 ∧
      (tick s).milleage1 = s.milleage1 ∧ (tick s).milleage2 = s.milleage2 ∧
      ((tick s).modestate = 12 → (s.milleage1 + s.milleage2) / 2 ≤ 350) := by
  obtain ⟨t, ⟨-, -, hway1, hway2⟩, hstate, htick⟩ := tick_of_executes hmode h12
  rw [htick, Car.findingObsCase, hstate, ← hway1, ← hway2]
  change t.obsLeg.milleage = _ ∧ t.obsLeg.milleage1 = _ ∧ t.obsLeg.milleage2 = _ ∧
    (t.obsLeg.modestate = 12 → _)
  unfold Car.obsLeg
  dsimp only
  split
  next hshort => exact ⟨rfl, rfl, rfl, fun _ => hshort⟩
  next =>
    refine ⟨rfl, rfl, rfl, ?_⟩
    intro hleft
    have hzero : (0 : ℕ) = 12 := hleft
    omega

/-! ## Measured legs -/

/-- What a call of `GetSpeed_Milleage_1` or `_2` adds to the odometer. -/
def addedWay (counter counter' : UInt16) (mode : ℕ) : ℚ :=
  if mode = 0 then 0
  else
    let way := CFloat.lit counter'.toInt16.toInt * CFloat.lit 204.1 / CFloat.lit 60000
    if counter.toInt16.toInt < 0 then -way else way

/-- The car, what was added to each odometer since state 11 was last executed,
and the mean of what was added since the last call. -/
structure Leg where
  car : Car ℚ
  driven1 : ℚ
  driven2 : ℚ
  fresh : ℚ

def legStep (l : Leg) : CarEvent ℚ → Leg
  | .encoder counter1 counter1' counter2 counter2' =>
      let added1 := addedWay counter1 counter1' l.car.milleage1Flag
      let added2 := addedWay counter2 counter2' l.car.milleage2Flag
      { car := carStep l.car (.encoder counter1 counter1' counter2 counter2')
        driven1 := l.driven1 + added1
        driven2 := l.driven2 + added2
        fresh := l.fresh + (added1 + added2) / 2 }
  | .tick =>
      { car := tick l.car
        driven1 := if Executes 11 l.car then 0 else l.driven1
        driven2 := if Executes 11 l.car then 0 else l.driven2
        fresh := 0 }
  | event => { l with car := carStep l.car event }

def legSystem : System Leg (CarEvent ℚ) where
  init := ⟨Car.init, 0, 0, 0⟩
  step := legStep

/-- When state 12 is executed, it compares the mean way of the leg, and that is
no more than 350 before the way of the last tick. -/
def LegMeasured (l : Leg) (event : CarEvent ℚ) : Prop :=
  event = .tick → Executes 12 l.car →
    (tick l.car).milleage = (l.driven1 + l.driven2) / 2 ∧
      (l.driven1 + l.driven2) / 2 ≤ 350 + l.fresh

/-- While a leg is unfinished, no odometer that shows a way is cleared, and calls
go on with the leg or find it no longer than 350. -/
def LegKept (l : Leg) (event : CarEvent ℚ) : Prop :=
  l.car.modestate = 12 →
    match event with
    | .encoder .. =>
        (l.car.milleage1Flag = 0 → l.car.milleage1 = 0) ∧
          (l.car.milleage2Flag = 0 → l.car.milleage2 = 0)
    | .tick => Executes 12 l.car ∨ (l.car.milleage1 + l.car.milleage2) / 2 ≤ 350
    | _ => True

instance decidableLegKept (l : Leg) : ∀ event, Decidable (LegKept l event)
  | .encoder .. => inferInstanceAs (Decidable (_ → _ ∧ _))
  | .tick => inferInstanceAs (Decidable (_ → _ ∨ _))
  | .plantSoft .. | .maixcam .. | .distance .. | .yaw .. => isTrue fun _ => trivial

/-- In an unfinished leg the odometers show what was driven, and the leg was not
too long at the last call. -/
structure LegInv (l : Leg) : Prop where
  inMode : InMode l.car
  driven1 : l.car.modestate = 12 → l.car.milleage1 = l.driven1
  driven2 : l.car.modestate = 12 → l.car.milleage2 = l.driven2
  short : l.car.modestate = 12 → (l.driven1 + l.driven2) / 2 ≤ 350 + l.fresh

/-- A reading adds to the odometer, or clears it where it shows nothing. -/
theorem milleage_getSpeedMilleage (counter counter' : UInt16) (speed : ℤ) {milleage : ℚ}
    {mode : ℕ} (hclear : mode = 0 → milleage = 0) :
    (Car.getSpeedMilleage counter counter' speed milleage mode).2.1 =
      milleage + addedWay counter counter' mode := by
  unfold Car.getSpeedMilleage addedWay
  split
  next hzero => simp [hclear hzero]
  next =>
    dsimp only
    split
    · rw [sub_eq_add_neg]
    · rfl

theorem legInv_encoder {l : Leg} (hinv : LegInv l) {counter1 counter1' counter2 counter2' : UInt16}
    (hkept : LegKept l (.encoder counter1 counter1' counter2 counter2')) :
    LegInv (legStep l (.encoder counter1 counter1' counter2 counter2')) where
  inMode := hinv.inMode
  driven1 hstate := by
    have hway := milleage_getSpeedMilleage counter1 counter1' l.car.encoderSpeed1
      (hkept hstate).1
    simp only [legStep]
    rw [← hinv.driven1 hstate]
    exact hway
  driven2 hstate := by
    have hway := milleage_getSpeedMilleage counter2 counter2' l.car.encoderSpeed2
      (hkept hstate).2
    simp only [legStep]
    rw [← hinv.driven2 hstate]
    exact hway
  short hstate := by
    have hshort := hinv.short hstate
    simp only [legStep]
    linarith

theorem legInv_tick {l : Leg} (hinv : LegInv l) (hkept : LegKept l .tick) :
    LegInv (legStep l .tick) := by
  have hmode := carSystem_inMode.step l.car .tick hinv.inMode
  by_cases h11 : Executes 11 l.car
  · -- the leg begins
    obtain ⟨hway1, hway2, -⟩ := tick_of_11 hinv.inMode h11
    refine ⟨hmode, ?_, ?_, ?_⟩ <;> intro _ <;> simp only [legStep, if_pos h11]
    · exact hway1
    · exact hway2
    · norm_num
  by_cases h12 : Executes 12 l.car
  · -- the leg is measured
    obtain ⟨-, hway1, hway2, hleg⟩ := tick_of_12 hinv.inMode h12
    have hdriven1 := hinv.driven1 h12.2.1
    have hdriven2 := hinv.driven2 h12.2.1
    refine ⟨hmode, ?_, ?_, ?_⟩ <;> intro hstate <;> simp only [legStep, if_neg h11]
    · exact hway1.trans hdriven1
    · exact hway2.trans hdriven2
    · have hshort := hleg hstate
      rw [hdriven1, hdriven2] at hshort
      linarith
  · -- the leg, if there is one, stands still
    obtain ⟨hway1, hway2, hleg⟩ := tick_of_other hinv.inMode h11 h12
    refine ⟨hmode, ?_, ?_, ?_⟩ <;> intro hstate <;> simp only [legStep, if_neg h11]
    · exact hway1.trans (hinv.driven1 (hleg hstate))
    · exact hway2.trans (hinv.driven2 (hleg hstate))
    · have hshort := (hkept (hleg hstate)).resolve_left h12
      rw [hinv.driven1 (hleg hstate), hinv.driven2 (hleg hstate)] at hshort
      linarith

theorem legInv_step {l : Leg} {event : CarEvent ℚ} (hinv : LegInv l) (hkept : LegKept l event) :
    LegInv (legSystem.step l event) := by
  cases event with
  | encoder => exact legInv_encoder hinv hkept
  | tick => exact legInv_tick hinv hkept
  | plantSoft data size =>
      exact ⟨carSystem_inMode.step l.car (.plantSoft data size) hinv.inMode, hinv.driven1,
        hinv.driven2, hinv.short⟩
  | maixcam data size =>
      exact ⟨carSystem_inMode.step l.car (.maixcam data size) hinv.inMode, hinv.driven1,
        hinv.driven2, hinv.short⟩
  | distance | yaw => exact ⟨hinv.inMode, hinv.driven1, hinv.driven2, hinv.short⟩

/-- In a run that clears no odometer in an unfinished leg and goes on with every
leg that grows too long, state 12 always compares the mean way of the leg, and a
leg is at most 350 and the way of one tick long. -/
theorem legMeasured_of_kept (events : List (CarEvent ℚ)) (hkept : legSystem.Along LegKept events) :
    legSystem.Along LegMeasured events := by
  apply System.along_of_kept LegInv ?_ ?_ hkept
  · have hstart : (Car.init : Car ℚ).modestate ≠ 12 := by decide
    exact ⟨.inr rfl, fun hstate => absurd hstate hstart, fun hstate => absurd hstate hstart,
      fun hstate => absurd hstate hstart⟩
  · intro l event hinv hkept
    refine ⟨?_, legInv_step hinv hkept⟩
    rintro rfl h12
    rw [(tick_of_12 hinv.inMode h12).1, hinv.driven1 h12.2.1, hinv.driven2 h12.2.1]
    exact ⟨rfl, hinv.short h12.2.1⟩

/-- The tasks of one scheduler tick, with the count of both encoders. -/
def scheduled (counter : UInt16) : List (CarEvent ℚ) :=
  [.encoder counter counter counter counter, .tick]

def scheduledTimes (n : ℕ) : List (CarEvent ℚ) := (List.replicate n (scheduled 0)).flatten

/-- Mode 1 with an obstacle ahead: the car turns, waits, finds the way free and
begins a leg. -/
def legBegun : List (CarEvent ℚ) :=
  command [0xAA, 0x10, 0x01, 0x55] :: scheduledTimes 50 ++ .yaw 180 :: scheduledTimes 1 ++
    .distance 1000 :: scheduledTimes 101 ++ scheduled 100

/-- Two more ticks of that leg. -/
theorem legMeasured_of_kept_begun :
    legSystem.Along LegMeasured (legBegun ++ scheduled 100 ++ scheduled 100) :=
  legMeasured_of_kept (legBegun ++ scheduled 100 ++ scheduled 100) (by decide +kernel)

/-- During the leg the panel has the car search for light, which clears the
odometers, and then selects mode 1 again. -/
theorem leg_cut_by_search :
    ¬ legSystem.Along LegMeasured
      (legBegun ++ command [0xAA, 0x10, 0x02, 0x55] :: scheduledTimes 301 ++
        [command [0xAA, 0x10, 0x01, 0x55], .encoder 0 0 0 0] ++ [.tick]) := by
  intro halong
  have hmeasured := System.Along.last legSystem halong rfl (by decide +kernel)
  revert hmeasured
  decide +kernel

end PlantAssistant.Motion
