import PlantAssistant.Framing.Codec

/-! # The stepper motors

Every command of the closed-loop steppers is a string of bytes on the third
serial port. The functions here give the bytes that the functions of the same
name hand to `usart_SendCmd`, once the port is open.
-/

namespace PlantAssistant.Firmware

/-- `SysParams_t`. -/
inductive SysParams where
  | ver | rl | pid | vbus | cpha | encl | tpos | vel | cpos | perr | flag | conf | state | org
deriving DecidableEq, Repr

namespace EmmV5

/-! ## Commands -/

def resetCurPosToZero (addr : UInt8) : List UInt8 := [addr, 0x0A, 0x6D, 0x6B]

def resetClogPro (addr : UInt8) : List UInt8 := [addr, 0x0E, 0x52, 0x6B]

/-- The switch of `Emm_V5_Read_Sys_Params`. -/
def sysParamsCode : SysParams → List UInt8
  | .ver => [0x1F]
  | .rl => [0x20]
  | .pid => [0x21]
  | .vbus => [0x24]
  | .cpha => [0x27]
  | .encl => [0x31]
  | .tpos => [0x33]
  | .vel => [0x35]
  | .cpos => [0x36]
  | .perr => [0x37]
  | .flag => [0x3A]
  | .org => [0x3B]
  | .conf => [0x42, 0x6C]
  | .state => [0x43, 0x7A]

def readSysParams (addr : UInt8) (s : SysParams) : List UInt8 :=
  [addr] ++ sysParamsCode s ++ [0x6B]

def modifyCtrlMode (addr : UInt8) (svF : Bool) (ctrlMode : UInt8) : List UInt8 :=
  [addr, 0x46, 0x69, svF.toUInt8, ctrlMode, 0x6B]

def enControl (addr : UInt8) (state snF : Bool) : List UInt8 :=
  [addr, 0xF3, 0xAB, state.toUInt8, snF.toUInt8, 0x6B]

def velControl (addr dir : UInt8) (vel : UInt16) (acc : UInt8) (snF : Bool) : List UInt8 :=
  [addr, 0xF6, dir, (vel >>> 8).toUInt8, (vel >>> 0).toUInt8, acc, snF.toUInt8, 0x6B]

def posControl (addr dir : UInt8) (vel : UInt16) (acc : UInt8) (clk : UInt32) (raF snF : Bool) :
    List UInt8 :=
  [addr, 0xFD, dir, (vel >>> 8).toUInt8, (vel >>> 0).toUInt8, acc, (clk >>> 24).toUInt8,
    (clk >>> 16).toUInt8, (clk >>> 8).toUInt8, (clk >>> 0).toUInt8, raF.toUInt8, snF.toUInt8, 0x6B]

def stopNow (addr : UInt8) (snF : Bool) : List UInt8 := [addr, 0xFE, 0x98, snF.toUInt8, 0x6B]

def synchronousMotion (addr : UInt8) : List UInt8 := [addr, 0xFF, 0x66, 0x6B]

def originSetO (addr : UInt8) (svF : Bool) : List UInt8 := [addr, 0x93, 0x88, svF.toUInt8, 0x6B]

/-- The parameters of `Emm_V5_Origin_Modify_Params`. -/
structure OriginParams where
  svF : Bool
  oMode : UInt8
  oDir : UInt8
  oVel : UInt16
  oTm : UInt32
  slVel : UInt16
  slMa : UInt16
  slMs : UInt16
  potF : Bool
deriving DecidableEq, Repr

def originModifyParams (addr : UInt8) (p : OriginParams) : List UInt8 :=
  [addr, 0x4C, 0xAE, p.svF.toUInt8, p.oMode, p.oDir, (p.oVel >>> 8).toUInt8,
    (p.oVel >>> 0).toUInt8, (p.oTm >>> 24).toUInt8, (p.oTm >>> 16).toUInt8, (p.oTm >>> 8).toUInt8,
    (p.oTm >>> 0).toUInt8, (p.slVel >>> 8).toUInt8, (p.slVel >>> 0).toUInt8,
    (p.slMa >>> 8).toUInt8, (p.slMa >>> 0).toUInt8, (p.slMs >>> 8).toUInt8,
    (p.slMs >>> 0).toUInt8, p.potF.toUInt8, 0x6B]

def originTriggerReturn (addr oMode : UInt8) (snF : Bool) : List UInt8 :=
  [addr, 0x9A, oMode, snF.toUInt8, 0x6B]

def originInterrupt (addr : UInt8) : List UInt8 := [addr, 0x9C, 0x48, 0x6B]

/-- A call of one of these functions, without the address of the motor. -/
inductive Call where
  | resetCurPosToZero
  | resetClogPro
  | readSysParams (s : SysParams)
  | modifyCtrlMode (svF : Bool) (ctrlMode : UInt8)
  | enControl (state snF : Bool)
  | velControl (dir : UInt8) (vel : UInt16) (acc : UInt8) (snF : Bool)
  | posControl (dir : UInt8) (vel : UInt16) (acc : UInt8) (clk : UInt32) (raF snF : Bool)
  | stopNow (snF : Bool)
  | synchronousMotion
  | originSetO (svF : Bool)
  | originModifyParams (params : OriginParams)
  | originTriggerReturn (oMode : UInt8) (snF : Bool)
  | originInterrupt
deriving DecidableEq, Repr

/-- What the call of one of these functions sends. -/
def Call.bytes (addr : UInt8) : Call → List UInt8
  | .resetCurPosToZero => EmmV5.resetCurPosToZero addr
  | .resetClogPro => EmmV5.resetClogPro addr
  | .readSysParams s => EmmV5.readSysParams addr s
  | .modifyCtrlMode svF ctrlMode => EmmV5.modifyCtrlMode addr svF ctrlMode
  | .enControl state snF => EmmV5.enControl addr state snF
  | .velControl dir vel acc snF => EmmV5.velControl addr dir vel acc snF
  | .posControl dir vel acc clk raF snF => EmmV5.posControl addr dir vel acc clk raF snF
  | .stopNow snF => EmmV5.stopNow addr snF
  | .synchronousMotion => EmmV5.synchronousMotion addr
  | .originSetO svF => EmmV5.originSetO addr svF
  | .originModifyParams params => EmmV5.originModifyParams addr params
  | .originTriggerReturn oMode snF => EmmV5.originTriggerReturn addr oMode snF
  | .originInterrupt => EmmV5.originInterrupt addr

end EmmV5

/-! ## Speeds -/

/-- `Speed`, `Dir` of `BuJinMotor_X_Speed` and `BuJinMotor_Y_Speed`, which differ in
a delay behind the command only. -/
def speedCall (speed : Int8) : EmmV5.Call :=
  if speed < 0 then .velControl 0 (UInt16.ofInt (-speed).toInt) 0 false
  else .velControl 1 (UInt16.ofInt speed.toInt) 0 false

/-- The motor is told the size of the speed, save for the lowest, whose size has no
`int8_t`. -/
theorem speedCall_eq_iff (speed : Int8) :
    speedCall speed =
        .velControl (if speed < 0 then 0 else 1) (UInt16.ofNat speed.toInt.natAbs) 0 false ↔
      speed ≠ -128 := by
  have hall : ∀ n : Fin 256,
      speedCall (Int8.ofBitVec (BitVec.ofFin n)) =
          .velControl (if Int8.ofBitVec (BitVec.ofFin n) < 0 then 0 else 1)
            (UInt16.ofNat (Int8.ofBitVec (BitVec.ofFin n)).toInt.natAbs) 0 false ↔
        Int8.ofBitVec (BitVec.ofFin n) ≠ -128 := by
    decide +kernel
  exact hall speed.toBitVec.toFin

example : speedCall (-128) = .velControl 0 65408 0 false := by decide

def buJinMotorXSpeed (addr : UInt8) (speed : Int8) : List UInt8 := (speedCall speed).bytes addr

def buJinMotorYSpeed (addr : UInt8) (speed : Int8) : List UInt8 := (speedCall speed).bytes addr

end PlantAssistant.Firmware
