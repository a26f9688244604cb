import PlantAssistant.Firmware.CFloat

/-! # Wheel motors and their controllers

Every duty goes through `motorSetCCR`. It takes the branch of the sport mode
that calls for it as an additional argument and records it; nothing reads the
record.
-/

namespace PlantAssistant.Firmware

/-- A case of `Finding_light` or `Finding_obs`, or their stop while `Motor_flag`
is zero. -/
inductive Branch where
  | findingLight (modestate : ℕ)
  | findingObs (modestate : ℕ)
  | motorFlagOff
deriving DecidableEq, Repr

structure Mypid (F : Type) where
  target : F
  actual : F
  error0 : F
  error1 : F
  errorSum : F
  kp : F
  ki : F
  kd : F
  out : F
deriving DecidableEq, Repr

structure Motors (F : Type) where
  /-- The compare values of the two channels of TIM12. -/
  ccr1 : ℕ
  ccr2 : ℕ
  ain : Bool
  bin : Bool
  writer : Option Branch
  pidMotor1Speed : Mypid F
  pidMotor2Speed : Mypid F
  pidTrun : Mypid F
  turnOut : F
  yawRead : F
  turnEndTargetLeft : F
  turnEndTargetRight : F
deriving DecidableEq, Repr

section Pid

variable {F : Type} [CFloat F]

/-- A controller as `PID_Init` leaves it. -/
def Mypid.init (kp ki kd : F) : Mypid F where
  target := CFloat.lit 0
  actual := CFloat.lit 0
  error0 := CFloat.lit 0
  error1 := CFloat.lit 0
  errorSum := CFloat.lit 0
  kp := kp
  ki := ki
  kd := kd
  out := CFloat.lit 0

/-- `PID_pOut`. The output is left in `out`, as by the next two. -/
def Mypid.pOut (actual : F) (pid : Mypid F) : Mypid F :=
  let error0 := pid.target - actual
  let errorSum := pid.errorSum + error0
  { pid with
    actual := actual
    error0 := error0
    errorSum := errorSum
    out := pid.kp * error0 + pid.ki * errorSum + pid.kd * (error0 - pid.error1)
    error1 := error0 }

/-- `PID_pOut_Max`. It limits the output of the call before. -/
def Mypid.pOutMax (actual max : F) (pid : Mypid F) : Mypid F :=
  let error0 := pid.target - actual
  let errorSum := pid.errorSum + error0
  let pid := if max < pid.out then { pid with out := max } else pid
  let pid := if pid.out < -max then { pid with out := -max } else pid
  { pid with
    actual := actual
    error0 := error0
    errorSum := errorSum
    out := pid.kp * error0 + pid.ki * errorSum + pid.kd * (error0 - pid.error1)
    error1 := error0 }

/-- `PID_iOut_Max`. -/
def Mypid.iOutMax (actual max : F) (pid : Mypid F) : Mypid F :=
  let error0 := pid.target - actual
  let out := pid.out + (pid.kp * (error0 - pid.error1) + pid.ki * error0)
  { pid with
    actual := actual
    error0 := error0
    out := if max < out then max else if out < -max then -max else out
    error1 := error0 }

/-- The limited output is computed anew right after it was limited. -/
theorem Mypid.pOutMax_eq_pOut (actual max : F) (pid : Mypid F) :
    pid.pOutMax actual max = pid.pOut actual := by
  unfold Mypid.pOutMax Mypid.pOut
  dsimp only
  split_ifs <;> rfl

end Pid

namespace Motors

variable {F : Type}

/-- The direction pin and the compare value for a signed duty. -/
def channel (motorCCR : ℤ) : Bool × ℕ :=
  let motorCCR' := if 0 ≤ motorCCR then motorCCR else -motorCCR
  (0 ≤ motorCCR, (if 4199 < motorCCR' then 4199 else motorCCR').toNat)

def motorSetCCR (branch : Branch) (motorCCR1 motorCCR2 : ℤ) (m : Motors F) : Motors F :=
  { m with
    ain := (channel motorCCR1).1
    bin := (channel motorCCR2).1
    ccr1 := (channel motorCCR1).2
    ccr2 := (channel motorCCR2).2
    writer := some branch }

variable [CFloat F]

/-- The motors after `PWM_Init` and `PID_Init`. -/
def init : Motors F where
  ccr1 := 0
  ccr2 := 0
  ain := true
  bin := true
  writer := none
  pidMotor1Speed := .init (CFloat.lit 0.17) (CFloat.lit 0.060) (CFloat.lit 0.08)
  pidMotor2Speed := .init (CFloat.lit 0.20) (CFloat.lit 0.042) (CFloat.lit 0.012)
  pidTrun := .init (CFloat.lit 5) (CFloat.lit 0) (CFloat.lit 0)
  turnOut := CFloat.lit 0
  yawRead := CFloat.lit 0
  turnEndTargetLeft := CFloat.lit 0
  turnEndTargetRight := CFloat.lit 0

/-- One call of both speed controllers, whose outputs become the duties. -/
def driveTargets (branch : Branch) (encoderSpeed1 encoderSpeed2 : ℤ) (m : Motors F) : Motors F :=
  let pid1 := m.pidMotor1Speed.iOutMax (CFloat.lit encoderSpeed1) (CFloat.lit 4199)
  let pid2 := m.pidMotor2Speed.iOutMax (CFloat.lit encoderSpeed2) (CFloat.lit 4199)
  motorSetCCR branch (CFloat.toInt pid1.out) (CFloat.toInt pid2.out)
    { m with pidMotor1Speed := pid1, pidMotor2Speed := pid2 }

def motorPidTarget (branch : Branch) (speed1 speed2 : F) (encoderSpeed1 encoderSpeed2 : ℤ)
    (m : Motors F) : Motors F :=
  driveTargets branch encoderSpeed1 encoderSpeed2
    { m with
      pidMotor1Speed := { m.pidMotor1Speed with target := speed1 }
      pidMotor2Speed := { m.pidMotor2Speed with target := speed2 } }

/-- The target of one wheel, brought nearer to `speed` by `Acce`. -/
def accelerate (speed target : F) : F :=
  let acce : F := CFloat.lit 40
  let target :=
    if CFloat.lit 0 ≤ speed then
      let target := if target < speed then target + acce else target
      if speed ≤ target then speed else target
    else target
  if speed < CFloat.lit 0 then
    let target := if speed < target then target - acce else target
    if target ≤ speed then speed else target
  else target

def motorPidTargetAcce (branch : Branch) (speed1 speed2 : F) (encoderSpeed1 encoderSpeed2 : ℤ)
    (m : Motors F) : Motors F :=
  driveTargets branch encoderSpeed1 encoderSpeed2
    { m with
      pidMotor1Speed :=
        { m.pidMotor1Speed with target := accelerate speed1 m.pidMotor1Speed.target }
      pidMotor2Speed :=
        { m.pidMotor2Speed with target := accelerate speed2 m.pidMotor2Speed.target } }

end Motors

end PlantAssistant.Firmware
