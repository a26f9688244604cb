import Mathlib.Data.Rat.Floor
import PlantAssistant.Panel.SerialPanel
import PlantAssistant.Transition.Run

/-! # The dashboard

`DashboardPage` and the serial panel on it, as one record. Each handler is a
function on it, and the payloads handed to `send_payload` are kept with what it
returned. The port decides that from the number of the call.
-/

namespace PlantAssistant.Panel

/-- Whether the n-th payload can be written. -/
abbrev SerialPort := ℕ → Bool

/-- The types of packets in `_received_sensor_types`. -/
inductive SensorType where
  | reading (type : Reading)
  | obstacle
deriving DecidableEq, Repr

structure Dashboard where
  currentMoisture : ℚ := 0
  currentAirPpm : ℤ := 36
  currentTemperature : ℚ := 26
  currentHumidity : ℚ := 58
  currentObstacleAngle : Option ℚ := none
  currentObstacleDistance : Option ℚ := none
  currentLeafStatus : String := "未识别到植物"
  currentPlantType : String := "常规"
  currentPlantTypeCode : UInt8 := 0x02
  pumpEnabled : Bool := false
  pumpManualOverride : Bool := false
  moistureHistory : List ℚ := List.replicate 6 0
  receivedSensorTypes : List SensorType := []
  /-- `guard_combo.currentIndex()`. -/
  guardIndex : Fin 3 := 0
  autoSeekMode : ℕ := 0
  /-- The checked buttons. -/
  smartPump : Bool := false
  fillLight : Bool := false
  emergency : Bool := false
  sent : List (Text × Bool) := []
deriving DecidableEq, Repr

/-- The dashboard as it starts. -/
def Dashboard.initial : Dashboard := {}

/-- Python's `round`, which takes the even neighbour of a half. -/
def roundHalfEven (q : ℚ) : ℤ :=
  if q - ⌊q⌋ < 1 / 2 then ⌊q⌋
  else if 1 / 2 < q - ⌊q⌋ then ⌊q⌋ + 1
  else if ⌊q⌋ % 2 = 0 then ⌊q⌋
  else ⌊q⌋ + 1

namespace Dashboard

variable (port : SerialPort)

/-! ## Sending -/

/-- `send_payload`. -/
def sendPayload (payload : Text) (d : Dashboard) : Dashboard :=
  { d with sent := d.sent ++ [(payload, port d.sent.length)] }

@[simp] theorem smartPump_sendPayload (payload : Text) (d : Dashboard) :
    (d.sendPayload port payload).smartPump = d.smartPump := rfl

@[simp] theorem pumpEnabled_sendPayload (payload : Text) (d : Dashboard) :
    (d.sendPayload port payload).pumpEnabled = d.pumpEnabled := rfl

/-- `_sync_actuator_state_from_payload`. -/
def syncActuatorStateFromPayload (payload : Text) (d : Dashboard) : Dashboard :=
  match fromHex (strip payload) with
  | none => d
  | some data =>
      if data.length ≠ 4 ∨ data.getD 0 0 ≠ 0xAA ∨ data.getD 3 0 ≠ 0x55 then d
      else if data.getD 1 0 = 0x20 then { d with pumpEnabled := data.getD 2 0 = 0x01 }
      else d

/-- `_handle_send_command`, which is also `_send_hex`. -/
def handleSendCommand (payload : Text) (d : Dashboard) : Dashboard :=
  (d.sendPayload port payload).syncActuatorStateFromPayload payload

/-! ## The pump -/

/-- `set_pump_state` with `send=True`. -/
def setPumpState (enabled : Bool) (d : Dashboard) : Dashboard :=
  { d with smartPump := enabled }.handleSendCommand port
    (frame 0x20 (if enabled then 0x01 else 0x00))

def moistureThreshold (d : Dashboard) : ℚ :=
  if d.currentPlantTypeCode = 0x01 then 5
  else if d.currentPlantTypeCode = 0x02 then 25
  else if d.currentPlantTypeCode = 0x03 then 40
  else 25

/-- `should_enable` of `_update_pump_automation`. -/
def shouldEnable (d : Dashboard) : Bool := d.currentMoisture < d.moistureThreshold

def updatePumpAutomation (d : Dashboard) : Dashboard :=
  if d.pumpManualOverride then d
  else if .reading .soilMoisture ∉ d.receivedSensorTypes then d
  else if d.shouldEnable = d.pumpEnabled then d
  else { d with pumpEnabled := d.shouldEnable }.setPumpState port d.shouldEnable

def handleManualPumpChanged (enabled : Bool) (d : Dashboard) : Dashboard :=
  { d with pumpManualOverride := true, pumpEnabled := enabled }

/-- `_handle_manual_pump_toggle`. -/
def handleManualPumpToggle (checked : Bool) (d : Dashboard) : Dashboard :=
  (d.handleManualPumpChanged checked).setPumpState port checked

def clearManualPumpOverride (d : Dashboard) : Dashboard :=
  if d.pumpManualOverride then { d with pumpManualOverride := false }.updatePumpAutomation port
  else d

/-! ## Sensor packets -/

/-- `_keep_last_valid_float` for a packet that carries a value. -/
def keepLastValidFloat (value : ℚ) (last : Option ℚ) (sensorType : SensorType) (allowZero : Bool)
    (d : Dashboard) : ℚ × Dashboard :=
  match allowZero, last with
  | false, some last =>
      if sensorType ∈ d.receivedSensorTypes ∧ value = 0 ∧ last ≠ 0 then (last, d)
      else (value, { d with receivedSensorTypes := d.receivedSensorTypes.insert sensorType })
  | _, _ => (value, { d with receivedSensorTypes := d.receivedSensorTypes.insert sensorType })

def pushMoistureHistory (value : ℚ) (d : Dashboard) : Dashboard :=
  let history := d.moistureHistory ++ [value]
  { d with moistureHistory := history.drop (history.length - 6) }

/-- `_sync_plant_type_ui`, which blocks the signals of the combo box. -/
def syncPlantTypeUi (code : UInt8) (d : Dashboard) : Dashboard :=
  if code = 0x01 then { d with guardIndex := 0 }
  else if code = 0x02 then { d with guardIndex := 1 }
  else if code = 0x03 then { d with guardIndex := 2 }
  else d

/-- `_handle_sensor_packet` up to the call of `_update_pump_automation`. -/
def readSensorPacket (packet : Packet) (d : Dashboard) : Dashboard :=
  match packet with
  | .reading .soilMoisture value _ =>
      let out := d.keepLastValidFloat value (some d.currentMoisture) (.reading .soilMoisture) true
      { out.2 with currentMoisture := out.1 }.pushMoistureHistory out.1
  | .reading .temperature value _ =>
      let out := d.keepLastValidFloat value (some d.currentTemperature) (.reading .temperature)
        false
      { out.2 with currentTemperature := out.1 }
  | .reading .airHumidity value _ =>
      let out := d.keepLastValidFloat value (some d.currentHumidity) (.reading .airHumidity) false
      { out.2 with currentHumidity := out.1 }
  | .reading .airQuality value _ =>
      let out := d.keepLastValidFloat value (some d.currentAirPpm) (.reading .airQuality) false
      { out.2 with currentAirPpm := roundHalfEven out.1 }
  | .obstacle angle distance _ =>
      let out := { d with currentObstacleAngle := some angle }.keepLastValidFloat distance
        d.currentObstacleDistance .obstacle false
      { out.2 with currentObstacleDistance := some out.1 }
  | .leafStatus _ text _ =>
      { d with currentLeafStatus := if text = "" then d.currentLeafStatus else text }
  | .plantType code text _ =>
      let d :=
        { d with
          currentPlantType := if text = "" then d.currentPlantType else text
          currentPlantTypeCode := if code = 0 then d.currentPlantTypeCode else code }
      d.syncPlantTypeUi d.currentPlantTypeCode

def handleSensorPacket (packet : Packet) (d : Dashboard) : Dashboard :=
  (d.readSensorPacket packet).updatePumpAutomation port

/-! ## The other controls -/

def handlePlantTypeChanged (code : UInt8) (text : String) (d : Dashboard) : Dashboard :=
  { d with currentPlantTypeCode := code, currentPlantType := text }.updatePumpAutomation port

/-- `_send_selected_plant_type`. -/
def sendSelectedPlantType (index : Fin 3) (d : Dashboard) : Dashboard :=
  let option := plantTypeOptions.get index
  (d.handleSendCommand port (frame 0x70 option.1)).handlePlantTypeChanged port option.1 option.2

/-- A choice in the combo box, whose signal is sent only when the index changes. -/
def selectGuard (index : Fin 3) (d : Dashboard) : Dashboard :=
  if index = d.guardIndex then d
  else { d with guardIndex := index }.sendSelectedPlantType port index

/-- `AiCommandPanel._send_manual_text`. -/
def sendManualText (text : Text) (d : Dashboard) : Dashboard :=
  if strip text = [] then d else d.handleSendCommand port (strip text)

def cycleAutoSeekButton (d : Dashboard) : Dashboard :=
  let mode := if d.autoSeekMode ≠ 1 then 1 else 2
  { d with autoSeekMode := mode }.handleSendCommand port
    (frame 0x10 (if mode = 1 then 0x02 else 0x01))

def setFillLightState (enabled : Bool) (d : Dashboard) : Dashboard :=
  { d with fillLight := enabled }.handleSendCommand port
    (frame 0x30 (if enabled then 0x01 else 0x00))

def setEmergencyState (enabled : Bool) (d : Dashboard) : Dashboard :=
  { d with emergency := enabled }.handleSendCommand port
    (frame 0x40 (if enabled then 0x01 else 0x00))

/-- `_sync_device_state_after_connect`. -/
def syncDeviceStateAfterConnect (d : Dashboard) : Dashboard :=
  ((((d.sendPayload port (frame 0x70 (plantTypeOptions.get d.guardIndex).1)).sendPayload port
    (frame 0x10 (if d.autoSeekMode = 1 then 0x02 else 0x01))).sendPayload port
    (frame 0x20 (if d.smartPump then 0x01 else 0x00))).sendPayload port
    (frame 0x30 (if d.fillLight then 0x01 else 0x00))).sendPayload port
    (frame 0x40 (if d.emergency then 0x01 else 0x00))

end Dashboard

/-- What happens on the dashboard: the pump button is pressed, a command is
typed, a packet arrives, a plant type is chosen, the manual override ends, or
one of the other controls is used. -/
inductive PanelEvent where
  | pumpToggled
  | typed (text : Text)
  | sensorPacket (packet : Packet)
  | guardSelected (index : Fin 3)
  | overrideExpired
  | autoSeekClicked
  | fillLightToggled
  | emergencyToggled
  | timestamp (now : DateTime)
  | connected

namespace Dashboard

def step (port : SerialPort) (d : Dashboard) : PanelEvent → Dashboard
  | .pumpToggled => d.handleManualPumpToggle port (!d.smartPump)
  | .typed text => d.sendManualText port text
  | .sensorPacket packet => d.handleSensorPacket port packet
  | .guardSelected index => d.selectGuard port index
  | .overrideExpired => d.clearManualPumpOverride port
  | .autoSeekClicked => d.cycleAutoSeekButton port
  | .fillLightToggled => d.setFillLightState port (!d.fillLight)
  | .emergencyToggled => d.setEmergencyState port (!d.emergency)
  | .timestamp now => d.sendPayload port (hexText (timestampFrame now))
  | .connected => d.syncDeviceStateAfterConnect port

end Dashboard

open Transition in
def dashboardSystem (port : SerialPort) : System Dashboard PanelEvent where
  init := Dashboard.initial
  step := Dashboard.step port

end PlantAssistant.Panel
