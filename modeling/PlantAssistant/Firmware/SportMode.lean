import PlantAssistant.Firmware.CarTurn
import PlantAssistant.Firmware.Globals

/-! # The sport mode

Two state machines share the wheels: one searches for light, one avoids
obstacles. A third drives the camera arm. The ten millisecond task calls
`maixCamSport`, which runs them by the mode the panel has chosen.
-/

namespace PlantAssistant.Firmware

/-- The arguments of `Emm_V5_Pos_Control`. -/
structure StepperCommand where
  addr : ℕ
  dir : ℕ
  vel : ℕ
  acc : ℕ
  clk : ℕ
  raF : Bool
  snF : Bool
deriving DecidableEq, Repr

/-- Everything the sport mode reads and writes. `steppers` collects the commands
sent to the stepper motors. -/
structure Car (F : Type) extends Globals where
  distance : ℕ
  yaw : F
  encoderSpeed1 : ℤ
  encoderSpeed2 : ℤ
  milleage1 : F
  milleage2 : F
  milleage : F
  milleage1Flag : ℕ
  milleage2Flag : ℕ
  motors : Motors F
  steppers : List StepperCommand
  /-- `time_cnt` of `Plantleaf_ins`. -/
  timeCnt : ℕ
  /-- `Modestate` of `Finding_obs`, and the copy that is shown. -/
  modestate : ℕ
  mystate : ℕ
  timeCntobs : ℕ
  yawTemprary : F
  yawTemprary1 : F
  yawTemprary2 : F
deriving DecidableEq, Repr

namespace Car

variable {F : Type}

/-! ## Stepper motors -/

def emmV5PosControl (command : StepperCommand) (s : Car F) : Car F :=
  { s with steppers := s.steppers ++ [command] }

def buJinMotorCircle (addr dir speed circle : ℕ) (s : Car F) : Car F :=
  s.emmV5PosControl ⟨addr, dir, speed, 0, circle * 3200, false, false⟩

section Float

variable [CFloat F]

/-- `BuJinMotor_PitchView`, which addresses motor 2 whatever it is given. -/
def buJinMotorPitchView (_addr dir speed : ℕ) (pitch : F) (s : Car F) : Car F :=
  let clk := CFloat.toUInt16 (CFloat.lit 3200 * (pitch / CFloat.lit 360))
  s.emmV5PosControl ⟨2, dir, speed, 0, clk, true, false⟩

/-! ## Encoders -/

/-- The speed, the mileage and the mode flag after a call of
`GetSpeed_Milleage_1` or `_2`, which reads the counter twice. -/
def getSpeedMilleage (counter counter' : UInt16) (speed : ℤ) (milleage : F) (mode : ℕ) :
    ℤ × F × ℕ :=
  if mode = 0 then (speed, CFloat.lit 0, 1)
  else
    let speed := counter.toInt16.toInt
    let way := CFloat.lit counter'.toInt16.toInt * CFloat.lit 204.1 / CFloat.lit 60000
    (speed, if speed < 0 then milleage - way else milleage + way, mode)

def getSpeedMilleage1 (counter counter' : UInt16) (s : Car F) : Car F :=
  let out := getSpeedMilleage counter counter' s.encoderSpeed1 s.milleage1 s.milleage1Flag
  { s with encoderSpeed1 := out.1, milleage1 := out.2.1, milleage1Flag := out.2.2 }

def getSpeedMilleage2 (counter counter' : UInt16) (s : Car F) : Car F :=
  let out := getSpeedMilleage counter counter' s.encoderSpeed2 s.milleage2 s.milleage2Flag
  { s with encoderSpeed2 := out.1, milleage2 := out.2.1, milleage2Flag := out.2.2 }

/-! ## The camera arm -/

def plantleafIns (s : Car F) : Car F :=
  if s.plantleafInsflag = 1 then
    let s := { s with timeCnt := (s.timeCnt + 1) % 2 ^ 16 }
    if s.timeCnt = 1 then s.buJinMotorPitchView 2 1 100 (CFloat.lit 30)
    else if s.timeCnt = 200 then s.buJinMotorCircle 1 1 100 1
    else if s.timeCnt = 900 then { s.buJinMotorCircle 1 0 100 1 with plantleafInsflag := 0 }
    else s
  else { s with timeCnt := 0 }

/-! ## The light -/

def setCCR (branch : Branch) (motorCCR1 motorCCR2 : ℤ) (s : Car F) : Car F :=
  { s with motors := s.motors.motorSetCCR branch motorCCR1 motorCCR2 }

def pidTargetAcce (branch : Branch) (speed1 speed2 : F) (s : Car F) : Car F :=
  { s with
    motors := s.motors.motorPidTargetAcce branch speed1 speed2 s.encoderSpeed1 s.encoderSpeed2 }

/-- The switch of `Finding_light`. -/
def findingLightCase (s : Car F) : Car F :=
  match s.modestateLight with
  | 1 => { s with milleage1Flag := 0, milleage2Flag := 0, modestateLight := 2 }
  | 2 =>
      let s :=
        if s.findingFlag = 0 then
          if s.milleage1 ≤ CFloat.lit 575 then
            (s.buJinMotorPitchView 2 0 100 (CFloat.lit 0)).pidTargetAcce (.findingLight 2)
              (CFloat.lit 300) (CFloat.lit (-300))
          else if s.milleage1 ≤ CFloat.lit 1150 then
            (s.buJinMotorPitchView 2 0 100 (CFloat.lit 35)).pidTargetAcce (.findingLight 2)
              (CFloat.lit 300) (CFloat.lit (-300))
          else { s with modestateLight := 4 }
        else s
      if s.findingFlag = 1 then { s with modestateLight := 3 } else s
  | 3 => { s with modestateLight := 4 }
  | 4 =>
      let s := (s.buJinMotorPitchView 2 0 100 (CFloat.lit 0)).setCCR (.findingLight 4) 0 0
      { s with modestateLight := 5 }
  | _ => s

def findingLight (s : Car F) : Car F :=
  let s := if s.motorFlag = 1 then s.findingLightCase else s
  if s.motorFlag = 0 then s.setCCR .motorFlagOff 0 0 else s

/-! ## Obstacles -/

/-- Cases 1, 3, 5, 7 and 9: turning to a heading until it is reached. -/
def obsTurn (modestate : ℕ) (heading : F) (s : Car F) : Car F :=
  let s :=
    { s with
      motors := s.motors.yawChange (.findingObs modestate) heading s.yaw s.encoderSpeed1
        s.encoderSpeed2 }
  let s :=
    if CFloat.fabs (s.yaw - s.motors.pidTrun.target) < CFloat.lit 5 then
      { s with modestate := modestate + 1, mystate := modestate + 1 }
    else s
  { s with timeCntobs := 0 }

/-- Cases 2, 4, 6, 8 and 10: standing for a second, then driving off if the way
is free and else going on with `blocked`. -/
def obsStop (modestate : ℕ) (blocked : Car F → Car F) (s : Car F) : Car F :=
  let s := s.setCCR (.findingObs modestate) 0 0
  let s := { s with timeCntobs := (s.timeCntobs + 1) % 2 ^ 16 }
  if 100 ≤ s.timeCntobs then
    if 400 < s.distance then { s with modestate := 11, mystate := 11 } else blocked s
  else s

/-- Case 0: waiting for an obstacle that stays for half a second. -/
def obsWatch (s : Car F) : Car F :=
  let s := if 400 < s.distance then { s with timeCntobs := 0 } else s
  if s.distance ≤ 400 then
    let s := { s with timeCntobs := (s.timeCntobs + 1) % 2 ^ 16 }
    if 50 ≤ s.timeCntobs then
      { s with yawTemprary := s.yaw + CFloat.lit 180, modestate := 1, mystate := 1 }
    else s
  else s

/-- Case 12: driving straight on for a leg. -/
def obsLeg (s : Car F) : Car F :=
  let s := { s with milleage := (s.milleage1 + s.milleage2) / CFloat.lit 2 }
  if s.milleage ≤ CFloat.lit 350 then
    { s with
      motors := s.motors.carGoline (.findingObs 12) s.yawTemprary 600 s.yaw s.encoderSpeed1
        s.encoderSpeed2 }
  else
    { s.setCCR (.findingObs 12) 0 0 with timeCntobs := 0, modestate := 0, mystate := 0 }

/-- The switch of `Finding_obs`. -/
def findingObsCase (s : Car F) : Car F :=
  match s.modestate with
  | 0 => s.obsWatch
  | 1 => s.obsTurn 1 s.yawTemprary
  | 2 => s.obsStop 2 fun s =>
      { s with yawTemprary1 := s.yawTemprary + CFloat.lit 60, modestate := 3, mystate := 3 }
  | 3 => s.obsTurn 3 s.yawTemprary1
  | 4 => s.obsStop 4 fun s =>
      { s with yawTemprary2 := s.yawTemprary - CFloat.lit 60, modestate := 5, mystate := 5 }
  | 5 => s.obsTurn 5 s.yawTemprary2
  | 6 => s.obsStop 6 fun s =>
      { s with yawTemprary1 := s.yawTemprary + CFloat.lit 90, modestate := 7, mystate := 7 }
  | 7 => s.obsTurn 7 s.yawTemprary1
  | 8 => s.obsStop 8 fun s =>
      { s with yawTemprary2 := s.yawTemprary - CFloat.lit 90, modestate := 9, mystate := 9 }
  | 9 => s.obsTurn 9 s.yawTemprary2
  | 10 => s.obsStop 10 fun s =>
      { s with yawTemprary2 := s.yawTemprary - CFloat.lit 90, modestate := 0, mystate := 0 }
  | 11 =>
      { s with
        milleage1 := CFloat.lit 0
        milleage2 := CFloat.lit 0
        yawTemprary := s.yaw
        modestate := 12
        mystate := 12 }
  | 12 => s.obsLeg
  | _ => s

def findingObs (s : Car F) : Car F :=
  let s := if s.motorFlag = 1 then s.findingObsCase else s
  if s.motorFlag = 0 then s.setCCR .motorFlagOff 0 0 else s

/-! ## One call -/

def countStarttime (s : Car F) : Car F :=
  { s with starttimeCnt := (s.starttimeCnt + 1) % 2 ^ 16 }

/-- `MaixCam_Sport`. -/
def maixCamSport (s : Car F) : Car F :=
  let s :=
    if s.maixModeFlag = 1 then
      let s := s.countStarttime
      let s := if 300 ≤ s.starttimeCnt then s.plantleafIns else s
      s.findingObs
    else s
  if s.maixModeFlag = 2 then
    let s := s.countStarttime
    let s := if 300 ≤ s.starttimeCnt then s.findingLight else s
    if s.modestateLight = 5 then s.findingObs else s
  else s

/-- The variables after the initialisation in `main`. -/
def init : Car F where
  toGlobals := {}
  distance := 0
  yaw := CFloat.lit 0
  encoderSpeed1 := 0
  encoderSpeed2 := 0
  milleage1 := CFloat.lit 0
  milleage2 := CFloat.lit 0
  milleage := CFloat.lit 0
  milleage1Flag := 1
  milleage2Flag := 2
  motors := .init
  steppers := []
  timeCnt := 0
  modestate := 0
  mystate := 0
  timeCntobs := 0
  yawTemprary := CFloat.lit 0
  yawTemprary1 := CFloat.lit 0
  yawTemprary2 := CFloat.lit 0

end Float

end Car

end PlantAssistant.Firmware
