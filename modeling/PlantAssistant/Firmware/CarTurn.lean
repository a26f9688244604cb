import PlantAssistant.Firmware.TB6612

/-! # Driving and turning to a heading -/

namespace PlantAssistant.Firmware.Motors

variable {F : Type} [CFloat F]

/-- The yaw, taken to the same side of the circle as the target. -/
def readYaw (targetYaw yaw : F) : F :=
  if yaw < targetYaw - CFloat.lit 180 then yaw + CFloat.lit 360
  else if targetYaw + CFloat.lit 180 < yaw then yaw - CFloat.lit 360
  else yaw

/-- The wheel targets for a turn that `turnOut` corrects. -/
def steer (branch : Branch) (turnSpeed : ℤ) (encoderSpeed1 encoderSpeed2 : ℤ) (m : Motors F) :
    Motors F :=
  let m :=
    { m with
      turnOut := m.pidTrun.out
      turnEndTargetLeft := CFloat.lit turnSpeed - m.pidTrun.out
      turnEndTargetRight := CFloat.lit turnSpeed + m.pidTrun.out }
  m.motorPidTarget branch m.turnEndTargetLeft m.turnEndTargetRight encoderSpeed1 encoderSpeed2

def carGoline (branch : Branch) (targetYaw : F) (turnSpeed : ℤ) (yaw : F)
    (encoderSpeed1 encoderSpeed2 : ℤ) (m : Motors F) : Motors F :=
  let yawRead := readYaw targetYaw yaw
  let pidTrun := { m.pidTrun with target := targetYaw }
  steer branch turnSpeed encoderSpeed1 encoderSpeed2
    { m with yawRead := yawRead, pidTrun := pidTrun.pOut yawRead }

def carTurn (branch : Branch) (targetYaw yaw : F) (encoderSpeed1 encoderSpeed2 : ℤ)
    (m : Motors F) : Motors F :=
  let yawRead := readYaw targetYaw yaw
  let pidTrun := { m.pidTrun with target := targetYaw }
  steer branch 0 encoderSpeed1 encoderSpeed2
    { m with yawRead := yawRead, pidTrun := pidTrun.pOutMax yawRead (CFloat.lit 200) }

def yawChange (branch : Branch) (changeRange yaw : F) (encoderSpeed1 encoderSpeed2 : ℤ)
    (m : Motors F) : Motors F :=
  let changeRange :=
    if CFloat.lit 180 < changeRange then changeRange - CFloat.lit 360 else changeRange
  let changeRange :=
    if ¬ CFloat.lit (-180) < changeRange then changeRange + CFloat.lit 360 else changeRange
  carTurn branch changeRange yaw encoderSpeed1 encoderSpeed2 m

end PlantAssistant.Firmware.Motors
