import Mathlib.Tactic.NormNum
import Mathlib.Tactic.Positivity
import PlantAssistant.Firmware.CFloat

/-! # The temperature and humidity sensor

The sensor answers a request with forty bits, each coded in the time its line
stays high. An interrupt on every edge of the line captures the bits; a task
called every ten milliseconds makes requests, publishes frames and gives up on
missing ones. What is set on the pins themselves is left out.
-/

namespace PlantAssistant.Firmware

inductive Dht11State where
  | powerupWait
  | idle
  | startLow
  | waitFrame
deriving DecidableEq, Repr

inductive Dht11CaptureState where
  | waitRespFall
  | waitRespRise
  | waitFirstDataFall
  | waitBitRise
  | waitBitFall
deriving DecidableEq, Repr

abbrev dht11PowerupWaitTicks : ℕ := 100
abbrev dht11StartLowTicks : ℕ := 2
abbrev dht11SampleIntervalTicks : ℕ := 100
abbrev dht11FrameTimeoutTicks : ℕ := 2
abbrev dht11BitHighThresholdUs : UInt32 := 50

/-- `DHT11_GPIO_PIN`. -/
abbrev dht11GpioPin : UInt16 := 0x0020

structure Dht11 (F : Type) where
  dht11State : Dht11State
  captureState : Dht11CaptureState
  stateTicks : ℕ
  frameBytes : List UInt8
  bitIndex : ℕ
  frameDone : Bool
  frameError : Bool
  transactionActive : Bool
  highStartCycle : UInt32
  cyclesPerUs : UInt32
  temperatureC : F
  humidityRh : F
  hasValidData : Bool
deriving DecidableEq, Repr

namespace Dht11

variable {F : Type}

/-- The statics before `DHT11_Init`. -/
def statics [CFloat F] : Dht11 F where
  dht11State := .powerupWait
  captureState := .waitRespFall
  stateTicks := dht11PowerupWaitTicks
  frameBytes := [0, 0, 0, 0, 0]
  bitIndex := 0
  frameDone := false
  frameError := false
  transactionActive := false
  highStartCycle := 0
  cyclesPerUs := 0
  temperatureC := CFloat.lit 0
  humidityRh := CFloat.lit 0
  hasValidData := false

/-- `DHT11_DWT_Init`, with the core clock in Hz. -/
def dwtInit (systemCoreClock : UInt32) (s : Dht11 F) : Dht11 F :=
  let cyclesPerUs := systemCoreClock / 1000000
  { s with cyclesPerUs := if cyclesPerUs = 0 then 1 else cyclesPerUs }

def elapsedUs (s : Dht11 F) (startCycle endCycle : UInt32) : UInt32 :=
  (endCycle - startCycle) / s.cyclesPerUs

def resetCapture (s : Dht11 F) : Dht11 F :=
  { s with
    frameBytes := [0, 0, 0, 0, 0]
    bitIndex := 0
    frameDone := false
    frameError := false
    captureState := .waitRespFall
    highStartCycle := 0 }

def enterIdle (waitTicks : ℕ) (s : Dht11 F) : Dht11 F :=
  { s with
    transactionActive := false
    dht11State := .idle
    stateTicks := waitTicks }

def startRequest (s : Dht11 F) : Dht11 F :=
  { s.resetCapture with
    dht11State := .startLow
    stateTicks := dht11StartLowTicks }

def releaseAndListen (s : Dht11 F) : Dht11 F :=
  { s.resetCapture with
    transactionActive := true
    dht11State := .waitFrame
    stateTicks := dht11FrameTimeoutTicks }

/-- `s_frame_bytes[k]`. -/
def frameByte (s : Dht11 F) (k : ℕ) : UInt8 := s.frameBytes.getD k 0

/-- The sum that the fifth byte has to repeat. -/
def checksum (s : Dht11 F) : UInt8 :=
  s.frameByte 0 + s.frameByte 1 + s.frameByte 2 + s.frameByte 3

def processFrame [CFloat F] (s : Dht11 F) : Dht11 F :=
  let s :=
    if s.checksum = s.frameByte 4 then
      { s with
        humidityRh := CFloat.lit (s.frameByte 0).toNat +
          CFloat.lit (s.frameByte 1).toNat * CFloat.lit (1 / 10)
        temperatureC := CFloat.lit (s.frameByte 2).toNat +
          CFloat.lit (s.frameByte 3).toNat * CFloat.lit (1 / 10)
        hasValidData := true }
    else s
  s.enterIdle dht11SampleIntervalTicks

def handleFailedFrame (s : Dht11 F) : Dht11 F :=
  s.enterIdle dht11SampleIntervalTicks

/-- `DHT11_Init`. -/
def init [CFloat F] (systemCoreClock : UInt32) (s : Dht11 F) : Dht11 F :=
  { s.dwtInit systemCoreClock with
    temperatureC := CFloat.lit 0
    humidityRh := CFloat.lit 0
    hasValidData := false
    dht11State := .powerupWait
    stateTicks := dht11PowerupWaitTicks
    transactionActive := false
    frameDone := false
    frameError := false }

/-- `DHT11_Task10ms`. -/
def task10ms [CFloat F] (s : Dht11 F) : Dht11 F :=
  if s.frameDone then processFrame { s with frameDone := false }
  else if s.frameError then handleFailedFrame { s with frameError := false }
  else
    match s.dht11State with
    | .powerupWait | .idle =>
        if 0 < s.stateTicks then { s with stateTicks := s.stateTicks - 1 } else s.startRequest
    | .startLow =>
        let s := if 0 < s.stateTicks then { s with stateTicks := s.stateTicks - 1 } else s
        if s.stateTicks = 0 then s.releaseAndListen else s
    | .waitFrame =>
        if 0 < s.stateTicks then { s with stateTicks := s.stateTicks - 1 }
        else s.handleFailedFrame

/-- The end of a high pulse: the bit it codes is shifted into the frame. -/
def storeBit (nowCycle : UInt32) (s : Dht11 F) : Dht11 F :=
  let highUs := s.elapsedUs s.highStartCycle nowCycle
  let bitValue : UInt8 := if highUs > dht11BitHighThresholdUs then 1 else 0
  let byteIndex := s.bitIndex >>> 3
  let s :=
    { s with
      frameBytes := s.frameBytes.modify byteIndex fun byte => (byte <<< 1) ||| bitValue
      bitIndex := (s.bitIndex + 1) % 2 ^ 8 }
  if 40 ≤ s.bitIndex then { s with transactionActive := false, frameDone := true }
  else { s with captureState := .waitBitRise }

/-- An edge the capture does not expect. -/
def captureError (s : Dht11 F) : Dht11 F :=
  { s with transactionActive := false, frameError := true }

/-- `DHT11_EXTI_Callback`, with the level of the line and the cycle counter it
reads. -/
def extiCallback (gpioPin : UInt16) (level : Bool) (nowCycle : UInt32) (s : Dht11 F) : Dht11 F :=
  if gpioPin ≠ dht11GpioPin then s
  else if s.transactionActive = false then s
  else if level = false then
    match s.captureState with
    | .waitRespFall => { s with captureState := .waitRespRise }
    | .waitFirstDataFall => { s with captureState := .waitBitRise }
    | .waitBitFall => s.storeBit nowCycle
    | _ => s.captureError
  else
    match s.captureState with
    | .waitRespRise => { s with captureState := .waitFirstDataFall }
    | .waitBitRise => { s with highStartCycle := nowCycle, captureState := .waitBitFall }
    | _ => s.captureError

end Dht11

/-- What two bytes of a frame can stand for. -/
theorem bytesAndTenths_range (whole part : UInt8) :
    0 ≤ (whole.toNat : ℚ) + part.toNat * (1 / 10) ∧
      (whole.toNat : ℚ) + part.toNat * (1 / 10) ≤ 280.5 := by
  have hwhole : (whole.toNat : ℚ) ≤ 255 := by exact_mod_cast Nat.le_of_lt_succ whole.toNat_lt
  have hpart : (part.toNat : ℚ) ≤ 255 := by exact_mod_cast Nat.le_of_lt_succ part.toNat_lt
  constructor
  · positivity
  · norm_num
    linarith

end PlantAssistant.Firmware
