import PlantAssistant.Firmware.SportMode
import PlantAssistant.Firmware.Usart4
import PlantAssistant.Firmware.Usart5
import PlantAssistant.Transition.Run

/-! # Runs of the car

Between two calls of the sport mode the receive threads and the encoder task may
write their variables in any order. What each part of the sport mode leaves
alone is stated once here.
-/

namespace PlantAssistant.Motion

open Transition PlantAssistant.Firmware

/-- A call of one of the two packet handlers, a new distance or yaw, the encoder
task with the counters it reads, or a call of `MaixCam_Sport`. -/
inductive CarEvent (F : Type) where
  | plantSoft (data : Memory) (size : ℕ)
  | maixcam (data : Memory) (size : ℕ)
  | distance (distance : UInt16)
  | yaw (yaw : F)
  | encoder (counter1 counter1' counter2 counter2' : UInt16)
  | tick

variable {F : Type}

/-! ## What a part of the sport mode leaves alone -/

/-- The commands sent to the stepper that turns the arm. -/
def armCommands (s : Car F) : List StepperCommand :=
  s.steppers.filter fun command => command.addr = 1

theorem armCommands_append {s t : Car F} {command : StepperCommand} (hother : command.addr ≠ 1)
    (hsteppers : t.steppers = s.steppers ++ [command]) : armCommands t = armCommands s := by
  simp [armCommands, hsteppers, hother]

/-- The state machines of the wheels change neither the mode, the stop flag, the
start delay nor anything of the arm. -/
structure KeepsArm (s t : Car F) : Prop where
  maixModeFlag : t.maixModeFlag = s.maixModeFlag
  motorFlag : t.motorFlag = s.motorFlag
  starttimeCnt : t.starttimeCnt = s.starttimeCnt
  plantleafInsflag : t.plantleafInsflag = s.plantleafInsflag
  timeCnt : t.timeCnt = s.timeCnt
  armCommands : armCommands t = armCommands s

/-- `Finding_obs` writes none of the shared variables either. -/
structure KeepsGlobals (s t : Car F) : Prop where
  toGlobals : t.toGlobals = s.toGlobals
  timeCnt : t.timeCnt = s.timeCnt
  steppers : t.steppers = s.steppers

theorem KeepsGlobals.keepsArm {s t : Car F} (hkeeps : KeepsGlobals s t) : KeepsArm s t where
  maixModeFlag := by rw [hkeeps.toGlobals]
  motorFlag := by rw [hkeeps.toGlobals]
  starttimeCnt := by rw [hkeeps.toGlobals]
  plantleafInsflag := by rw [hkeeps.toGlobals]
  timeCnt := hkeeps.timeCnt
  armCommands := by rw [armCommands, hkeeps.steppers, armCommands]

/-- The arm's machine changes neither the mode, the stop flag, the search for
light nor anything of the wheels. -/
structure KeepsWheels (s t : Car F) : Prop where
  maixModeFlag : t.maixModeFlag = s.maixModeFlag
  motorFlag : t.motorFlag = s.motorFlag
  modestateLight : t.modestateLight = s.modestateLight
  motors : t.motors = s.motors
  modestate : t.modestate = s.modestate

/-- `call` runs `machine` while `Motor_flag` is one and brakes while it is zero. -/
def Guards (machine call : Car F → Car F) : Prop :=
  ∀ s, s.motorFlag = 1 ∧ call s = machine s ∨
    s.motorFlag = 0 ∧ call s = s.setCCR .motorFlagOff 0 0 ∨
    s.motorFlag ≠ 1 ∧ s.motorFlag ≠ 0 ∧ call s = s

theorem guards_of_keeps {machine : Car F → Car F}
    (hkeeps : ∀ s, (machine s).motorFlag = s.motorFlag) :
    Guards machine fun s =>
      let s := if s.motorFlag = 1 then machine s else s
      if s.motorFlag = 0 then s.setCCR .motorFlagOff 0 0 else s := by
  intro s
  by_cases hon : s.motorFlag = 1
  · exact .inl ⟨hon, by simp [hon, hkeeps]⟩
  · by_cases hoff : s.motorFlag = 0
    · exact .inr (.inl ⟨hoff, by simp [hoff]⟩)
    · exact .inr (.inr ⟨hon, hoff, by simp [hon, hoff]⟩)

theorem Guards.on {machine call : Car F → Car F} (hguards : Guards machine call) {s : Car F}
    (hon : s.motorFlag = 1) : call s = machine s := by
  obtain ⟨-, hcall⟩ | ⟨hoff, -⟩ | ⟨hother, -⟩ := hguards s
  · exact hcall
  · simp [hon] at hoff
  · exact absurd hon hother

theorem Guards.off {machine call : Car F → Car F} (hguards : Guards machine call) {s : Car F}
    (hoff : s.motorFlag = 0) : call s = s.setCCR .motorFlagOff 0 0 := by
  obtain ⟨hon, -⟩ | ⟨-, hcall⟩ | ⟨-, hother, -⟩ := hguards s
  · simp [hoff] at hon
  · exact hcall
  · exact absurd hoff hother

/-- The mode is always one of the two. -/
def InMode (s : Car F) : Prop := s.maixModeFlag = 1 ∨ s.maixModeFlag = 2

theorem InMode.congr {s t : Car F} (hmode : InMode s) (hsame : t.maixModeFlag = s.maixModeFlag) :
    InMode t := by
  rwa [InMode, hsame]

theorem keepsGlobals_obsStop (modestate : ℕ) {blocked : Car F → Car F}
    (hblocked : ∀ s, KeepsGlobals s (blocked s)) (s : Car F) :
    KeepsGlobals s (s.obsStop modestate blocked) := by
  unfold Car.obsStop
  dsimp only
  split_ifs
  · exact ⟨rfl, rfl, rfl⟩
  · obtain ⟨hglobals, htime, hsteppers⟩ := hblocked
      { s.setCCR (.findingObs modestate) 0 0 with timeCntobs := (s.timeCntobs + 1) % 2 ^ 16 }
    exact ⟨hglobals, htime, hsteppers⟩
  · exact ⟨rfl, rfl, rfl⟩

@[simp] theorem modestateLight_countStarttime (s : Car F) :
    s.countStarttime.modestateLight = s.modestateLight := rfl

/-- The record of the motors' writer starts anew with every call. -/
def cleared (s : Car F) : Car F := { s with motors := { s.motors with writer := none } }

variable [CFloat F]

/-! ## Steps -/

/-- One call of the sport mode. -/
def tick (s : Car F) : Car F := (cleared s).maixCamSport

def carStep (s : Car F) : CarEvent F → Car F
  | .plantSoft data size => { s with toGlobals := plantSoftDataProc data size s.toGlobals }
  | .maixcam data size => { s with toGlobals := maixcamDataProc data size s.toGlobals }
  | .distance distance => { s with distance := distance.toNat }
  | .yaw yaw => { s with yaw := yaw }
  | .encoder counter1 counter1' counter2 counter2' =>
      (s.getSpeedMilleage1 counter1 counter1').getSpeedMilleage2 counter2 counter2'
  | .tick => tick s

def carSystem (F : Type) [CFloat F] : System (Car F) (CarEvent F) where
  init := Car.init
  step := carStep

/-! ## What the state machines leave alone -/

theorem keepsArm_findingLightCase (s : Car F) : KeepsArm s s.findingLightCase := by
  unfold Car.findingLightCase
  split
  · exact ⟨rfl, rfl, rfl, rfl, rfl, rfl⟩
  · dsimp only
    split_ifs <;> exact ⟨rfl, rfl, rfl, rfl, rfl, by
      first | rfl | exact armCommands_append (by simp) rfl⟩
  · exact ⟨rfl, rfl, rfl, rfl, rfl, rfl⟩
  · exact ⟨rfl, rfl, rfl, rfl, rfl, armCommands_append (by simp) rfl⟩
  · exact ⟨rfl, rfl, rfl, rfl, rfl, rfl⟩

theorem findingLight_guards : Guards (F := F) Car.findingLightCase Car.findingLight :=
  guards_of_keeps fun s => (keepsArm_findingLightCase s).motorFlag

theorem keepsArm_findingLight (s : Car F) : KeepsArm s s.findingLight := by
  obtain ⟨-, hlight⟩ | ⟨-, hlight⟩ | ⟨-, -, hlight⟩ := findingLight_guards s <;> rw [hlight]
  · exact keepsArm_findingLightCase s
  · exact ⟨rfl, rfl, rfl, rfl, rfl, rfl⟩
  · exact ⟨rfl, rfl, rfl, rfl, rfl, rfl⟩

theorem keepsGlobals_obsTurn (modestate : ℕ) (heading : F) (s : Car F) :
    KeepsGlobals s (s.obsTurn modestate heading) := by
  unfold Car.obsTurn
  dsimp only
  split <;> exact ⟨rfl, rfl, rfl⟩

theorem keepsGlobals_findingObsCase (s : Car F) : KeepsGlobals s s.findingObsCase := by
  unfold Car.findingObsCase
  split
  case h_1 =>
    unfold Car.obsWatch
    dsimp only
    split_ifs <;> exact ⟨rfl, rfl, rfl⟩
  case h_13 =>
    unfold Car.obsLeg
    dsimp only
    split <;> exact ⟨rfl, rfl, rfl⟩
  case h_2 | h_4 | h_6 | h_8 | h_10 => exact keepsGlobals_obsTurn _ _ s
  case h_3 | h_5 | h_7 | h_9 | h_11 =>
    apply keepsGlobals_obsStop
    exact fun s => ⟨rfl, rfl, rfl⟩
  case h_12 | h_14 => exact ⟨rfl, rfl, rfl⟩

theorem findingObs_guards : Guards (F := F) Car.findingObsCase Car.findingObs :=
  guards_of_keeps fun s => (keepsGlobals_findingObsCase s).keepsArm.motorFlag

theorem keepsGlobals_findingObs (s : Car F) : KeepsGlobals s s.findingObs := by
  obtain ⟨-, hobs⟩ | ⟨-, hobs⟩ | ⟨-, -, hobs⟩ := findingObs_guards s <;> rw [hobs]
  · exact keepsGlobals_findingObsCase s
  · exact ⟨rfl, rfl, rfl⟩
  · exact ⟨rfl, rfl, rfl⟩

theorem keepsWheels_plantleafIns (s : Car F) : KeepsWheels s s.plantleafIns := by
  unfold Car.plantleafIns
  dsimp only
  split_ifs <;> exact ⟨rfl, rfl, rfl, rfl, rfl⟩

/-! ## A call by its mode -/

/-- What a call in mode 1 does before it turns to the obstacles. -/
def inspected (s : Car F) : Car F :=
  if 300 ≤ (s.starttimeCnt + 1) % 2 ^ 16 then s.countStarttime.plantleafIns else s.countStarttime

/-- What a call in mode 2 does before it turns to the obstacles. -/
def searched (s : Car F) : Car F :=
  if 300 ≤ (s.starttimeCnt + 1) % 2 ^ 16 then s.countStarttime.findingLight else s.countStarttime

theorem keepsWheels_inspected (s : Car F) : KeepsWheels s (inspected s) := by
  unfold inspected
  split
  · obtain ⟨hmode, hmotor, hlight, hmotors, hstate⟩ := keepsWheels_plantleafIns s.countStarttime
    exact ⟨hmode, hmotor, hlight, hmotors, hstate⟩
  · exact ⟨rfl, rfl, rfl, rfl, rfl⟩

theorem maixCamSport_mode1 {s : Car F} (hmode : s.maixModeFlag = 1) :
    s.maixCamSport = (inspected s).findingObs := by
  have hkept : (inspected s).findingObs.maixModeFlag = 1 := by
    rw [(keepsGlobals_findingObs _).toGlobals, (keepsWheels_inspected s).maixModeFlag, hmode]
  have hother : (inspected s).findingObs.maixModeFlag ≠ 2 := by
    rw [hkept]
    decide
  unfold Car.maixCamSport
  rw [if_pos hmode]
  exact if_neg hother

theorem maixCamSport_mode2 {s : Car F} (hmode : s.maixModeFlag = 2) :
    s.maixCamSport =
      if (searched s).modestateLight = 5 then (searched s).findingObs else searched s := by
  have hother : ¬ s.maixModeFlag = 1 := by
    rw [hmode]
    decide
  unfold Car.maixCamSport
  rw [if_neg hother]
  exact if_pos hmode

/-! ## The mode -/

theorem maixModeFlag_maixCamSport {s : Car F} (hmode : InMode s) :
    s.maixCamSport.maixModeFlag = s.maixModeFlag := by
  rcases hmode with hmode | hmode
  · rw [maixCamSport_mode1 hmode, (keepsGlobals_findingObs _).toGlobals,
      (keepsWheels_inspected s).maixModeFlag]
  · have hsearched : (searched s).maixModeFlag = s.maixModeFlag := by
      unfold searched
      split
      · exact (keepsArm_findingLight s.countStarttime).maixModeFlag
      · rfl
    rw [maixCamSport_mode2 hmode]
    split
    · rw [(keepsGlobals_findingObs _).toGlobals, hsearched]
    · exact hsearched

theorem carSystem_inMode : (carSystem F).Invariant InMode where
  init := .inr rfl
  step s event hmode := by
    cases event with
    | plantSoft data size =>
        refine plantSoftDataProc_induction (P := fun g => g.maixModeFlag = 1 ∨ g.maixModeFlag = 2)
          (fun g i hg => ?_) size hmode
        rcases plantSoftStep_modes data g i with hkeeps | ⟨hone, -⟩ | ⟨htwo, -⟩
        · rwa [hkeeps.1]
        · exact .inl hone
        · exact .inr htwo
    | maixcam data size =>
        exact hmode.congr (keepsModes_maixcamDataProc data size s.toGlobals).1
    | distance | yaw | encoder => exact hmode
    | tick =>
        exact hmode.congr (maixModeFlag_maixCamSport
          (s := cleared s) hmode)

end PlantAssistant.Motion
