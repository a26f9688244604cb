import PlantAssistant.Firmware.DH11
import PlantAssistant.Firmware.Gas
import PlantAssistant.Firmware.MainOled
import PlantAssistant.Firmware.Outputs
import PlantAssistant.Firmware.PWM
import PlantAssistant.Firmware.Soil
import PlantAssistant.Firmware.Usart6
import PlantAssistant.Firmware.UsartFrames
import PlantAssistant.Motion.Sport

/-! # The ten millisecond task among the other threads

The task calls its parts in a fixed order, over and over. Receive threads, the
capture interrupt and the buzzer thread come in between any two of its calls.
-/

namespace PlantAssistant.Control

open Transition PlantAssistant.Firmware

/-- The calls of `rt_schedule_entry`. The two encoders and the refreshing of the
sensor values are one call each; nothing that comes in between them could matter. -/
inductive Call where
  | getSpeedMilleage
  | sendDataToPlantSoft
  | maixcamSetMode
  | lightContral
  | waterAuto
  | checkVioce
  | maixCamSport
  | dht11Task10ms
  | refresh
deriving DecidableEq, Repr

def Call.next : Call → Call
  | .getSpeedMilleage => .sendDataToPlantSoft
  | .sendDataToPlantSoft => .maixcamSetMode
  | .maixcamSetMode => .lightContral
  | .lightContral => .waterAuto
  | .waterAuto => .checkVioce
  | .checkVioce => .maixCamSport
  | .maixCamSport => .dht11Task10ms
  | .dht11Task10ms => .refresh
  | .refresh => .getSpeedMilleage

/-- What the hardware answers in one call: the encoder counters, each read twice,
and the conversions of the three analogue sensors. -/
structure Reads where
  counter1 : UInt16
  counter1' : UInt16
  counter2 : UInt16
  counter2' : UInt16
  soil : Fin 10 → ℕ
  mq2 : Fin 10 → ℕ
  mq135 : Fin 10 → ℕ

inductive ControlEvent where
  | plantSoft (data : Memory) (size : ℕ)
  | maixcam (data : Memory) (size : ℕ)
  | hwt101 (data : Memory)
  | vl53 (data : Memory) (size : ℕ)
  | exti (gpioPin : UInt16) (level : Bool) (nowCycle : UInt32)
  | buzzer
  | call (reads : Reads)

/-- The variables of the firmware, what it has sent on its ports, the pin of the
relay and the writes to the pin of the buzzer. `Yaw` and `Distance` are in `car`,
`Obspack` in `telemetry`. -/
structure Controller (F : Type) where
  car : Car F
  roll : F
  pitch : F
  ranging : Ranging
  telemetry : Telemetry
  modeCnt : ℕ
  lamp : Lamp
  waterPin : Bool
  voice : VoiceAlarms
  dht11 : Dht11 F
  soil : Soil F
  mq2ppm : F
  ppm135 : F
  mq2AlarmFlag : ℕ
  mq135AlarmFlag : ℕ
  dht11AlarmFlag : ℕ
  oled : OledValues F
  uart4Sent : List UInt8
  uart5Sent : List (List UInt8)
  usart6Sent : List UInt8
  beePin : List Bool
  next : Call

namespace Controller

variable {F : Type} [CFloat F] (powf : F → F → F)

def telemetryInput (s : Controller F) : TelemetryInput F where
  oledSoilPercent := s.oled.oledSoilPercent
  myTemp := s.oled.myTemp
  myHumi := s.oled.myHumi
  oledMQ135ppm := s.oled.oledMQ135ppm
  distance := s.car.distance
  bladeState := s.car.bladeState
  soilPlantType := s.car.soilPlantType

def voiceInput (s : Controller F) : VoiceInput F where
  distance := s.car.distance
  oledMQ135ppm := s.oled.oledMQ135ppm
  soilAlarmFlag := s.soil.soilAlarmFlag
  myHumi := s.oled.myHumi

/-- The end of a pass: the sensors are read and their alarm flags renewed.
`DH11_UpdateAlarmFlag` only ever clears its flag. -/
def refresh (reads : Reads) (s : Controller F) : Controller F :=
  let percentSoil := soilGetDataPercent reads.soil
  let mq2ppm := mq2GetDataPPM powf reads.mq2
  let ppm135 := mq135GetDataPPM powf reads.mq135
  { s with
    soil := soilUpdateAlarmFlag s.car.soilPlantType { s.soil with percentSoil := percentSoil }
    mq2ppm := mq2ppm
    mq2AlarmFlag := mq2UpdateAlarmFlag mq2ppm
    ppm135 := ppm135
    mq135AlarmFlag := mq135UpdateAlarmFlag ppm135
    dht11AlarmFlag := 0
    oled := {
      oledSoilPercent := percentSoil
      oledMQ2ppm := mq2ppm
      oledMQ135ppm := ppm135
      myTemp := s.dht11.temperatureC
      myHumi := s.dht11.humidityRh } }

/-- One of the calls. -/
def perform (reads : Reads) (s : Controller F) : Call → Controller F
  | .getSpeedMilleage =>
      { s with
        car := (s.car.getSpeedMilleage1 reads.counter1 reads.counter1').getSpeedMilleage2
          reads.counter2 reads.counter2' }
  | .sendDataToPlantSoft =>
      let out := sendDataToPlantSoft s.telemetryInput s.telemetry
      { s with telemetry := out.1, uart5Sent := s.uart5Sent ++ out.2 }
  | .maixcamSetMode =>
      let out := maixcamSetMode s.car.maixModeFlag s.modeCnt
      { s with modeCnt := out.1, uart4Sent := s.uart4Sent ++ out.2 }
  | .lightContral =>
      { s with lamp := s.lamp.lightContral s.car.lightOnOffFlag s.car.soilPlantType }
  | .waterAuto =>
      { s with waterPin := waterAuto s.soil.soilAlarmFlag s.car.waterFlag s.waterPin }
  | .checkVioce =>
      let out := s.voice.checkVioce s.voiceInput
      { s with voice := out.1, usart6Sent := s.usart6Sent ++ out.2.flatMap asrVoice }
  | .maixCamSport => { s with car := Motion.tick s.car }
  | .dht11Task10ms => { s with dht11 := s.dht11.task10ms }
  | .refresh => s.refresh powf reads

/-- What `HWT101_DataProc` works on. -/
def attitude (s : Controller F) : Attitude F where
  roll := s.roll
  pitch := s.pitch
  yaw := s.car.yaw
  obspack := .ofFn fun k => s.telemetry.obspack.getD k 0

def step (s : Controller F) : ControlEvent → Controller F
  | .plantSoft data size =>
      { s with car := { s.car with toGlobals := plantSoftDataProc data size s.car.toGlobals } }
  | .maixcam data size =>
      { s with car := { s.car with toGlobals := maixcamDataProc data size s.car.toGlobals } }
  | .hwt101 data =>
      let a := hwt101DataProc data hwt101FrameLen s.attitude
      { s with
        roll := a.roll
        pitch := a.pitch
        car := { s.car with yaw := a.yaw }
        telemetry := { s.telemetry with obspack := a.obspack.toList } }
  | .vl53 data size =>
      let ranging := vl53DataProc data size s.ranging
      { s with ranging := ranging, car := { s.car with distance := ranging.distance } }
  | .exti gpioPin level nowCycle => { s with dht11 := s.dht11.extiCallback gpioPin level nowCycle }
  | .buzzer =>
      { s with
        beePin := s.beePin ++ buzzerOpen s.mq2AlarmFlag s.mq135AlarmFlag s.soil.soilAlarmFlag
          s.dht11AlarmFlag }
  | .call reads => { s.perform powf reads s.next with next := s.next.next }

/-- The variables behind the initialisation in `main`. -/
def init (systemCoreClock : UInt32) : Controller F where
  car := .init
  roll := CFloat.lit 0
  pitch := CFloat.lit 0
  ranging := {}
  telemetry := {}
  modeCnt := 0
  lamp := {}
  waterPin := false
  voice := {}
  dht11 := Dht11.statics.init systemCoreClock
  soil := .statics
  mq2ppm := CFloat.lit 0
  ppm135 := CFloat.lit 0
  mq2AlarmFlag := 0
  mq135AlarmFlag := 0
  dht11AlarmFlag := 0
  oled := {
    oledMQ2ppm := CFloat.lit 0
    oledMQ135ppm := CFloat.lit 0
    oledSoilPercent := CFloat.lit 0
    myTemp := CFloat.lit 0
    myHumi := CFloat.lit 0 }
  uart4Sent := []
  uart5Sent := []
  usart6Sent := []
  beePin := [true]
  next := .getSpeedMilleage

end Controller

def controlSystem (F : Type) [CFloat F] (powf : F → F → F) (systemCoreClock : UInt32) :
    System (Controller F) ControlEvent where
  init := .init systemCoreClock
  step := Controller.step powf

end PlantAssistant.Control
