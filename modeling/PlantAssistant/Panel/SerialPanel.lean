import Mathlib.Data.Rat.Defs
import PlantAssistant.Panel.Hex

/-! # The panel's serial protocol

Commands leave the panel as hexadecimal text. What arrives is collected in a
buffer, from which sensor packets are parsed after every read. Measured values
are exact.
-/

namespace PlantAssistant.Panel

/-! ## Commands -/

/-- `f"AA {command:02X} {value:02X} 55"`. -/
def frame (command value : UInt8) : Text :=
  "AA ".toList ++ hex02 command ++ " ".toList ++ hex02 value ++ " 55".toList

theorem frame_eq_hexText (command value : UInt8) :
    frame command value = hexText [0xAA, command, value, 0x55] := by
  have hhead : hex02 0xAA = "AA".toList := by decide
  have htail : hex02 0x55 = "55".toList := by decide
  delta frame
  simp only [hexText, hhead, htail, List.append_assoc]
  rfl

/-- `_plant_type_options`. -/
def plantTypeOptions : List (UInt8 × String) :=
  [(0x01, "耐旱"), (0x02, "常规"), (0x03, "喜湿/水培")]

def daysInMonth (year month : ℕ) : ℕ :=
  if month = 2 then
    if year % 4 = 0 ∧ (year % 100 ≠ 0 ∨ year % 400 = 0) then 29 else 28
  else if month ∈ [4, 6, 9, 11] then 30
  else 31

/-- A date and time of the calendar, as `QDateTime` gives it. -/
structure DateTime where
  year : ℕ
  month : ℕ
  day : ℕ
  hour : ℕ
  minute : ℕ
  second : ℕ
  month_mem : 1 ≤ month ∧ month ≤ 12
  day_mem : 1 ≤ day ∧ day ≤ daysInMonth year month
  hour_lt : hour < 24
  minute_lt : minute < 60
  second_lt : second < 60

/-- The frame `send_timestamp` builds. -/
def timestampFrame (now : DateTime) : List UInt8 :=
  [0xAA, 0x60, UInt8.ofNat (now.year % 100), UInt8.ofNat now.month, UInt8.ofNat now.day,
    UInt8.ofNat now.hour, UInt8.ofNat now.minute, UInt8.ofNat now.second, 0x55]

/-- Everything the panel sends. -/
inductive Command where
  | autoSeek (enabled : Bool)
  | pump (enabled : Bool)
  | fillLight (enabled : Bool)
  | emergency (enabled : Bool)
  | plantType (index : Fin 3)
  | timestamp (now : DateTime)

/-- The text handed to `send_payload`. -/
def Command.payload : Command → Text
  | .autoSeek enabled => frame 0x10 (if enabled then 0x02 else 0x01)
  | .pump enabled => frame 0x20 (if enabled then 0x01 else 0x00)
  | .fillLight enabled => frame 0x30 (if enabled then 0x01 else 0x00)
  | .emergency enabled => frame 0x40 (if enabled then 0x01 else 0x00)
  | .plantType index => frame 0x70 (plantTypeOptions.get index).1
  | .timestamp now => hexText (timestampFrame now)

/-- The bytes written to the port. -/
def Command.bytes (command : Command) : List UInt8 :=
  payloadBytes command.payload

theorem bytes_frame (command value : UInt8) :
    payloadBytes (frame command value) = [0xAA, command, value, 0x55] := by
  rw [frame_eq_hexText, payloadBytes_hexText]

/-! ## Received packets -/

inductive Reading where
  | soilMoisture
  | temperature
  | airHumidity
  | airQuality
deriving DecidableEq, Repr

/-- The payloads of `sensor_data_received`. Each carries its frame as text. -/
inductive Packet where
  | reading (type : Reading) (value : ℚ) (frame : Text)
  | obstacle (angle : ℚ) (distance : ℕ) (frame : Text)
  | leafStatus (code : UInt8) (text : String) (frame : Text)
  | plantType (code : UInt8) (text : String) (frame : Text)
deriving DecidableEq, Repr

/-- `frame[i] << 8 | frame[i + 1]`. -/
def rawWord (frame : List UInt8) (i : ℕ) : ℕ :=
  ((frame.getD i 0).toNat <<< 8) ||| (frame.getD (i + 1) 0).toNat

def handleSensorFrame (frame : List UInt8) : List Packet :=
  let subType := frame.getD 2 0
  let rawValue := rawWord frame 3
  if subType = 0x10 then [.reading .soilMoisture (rawValue / 10) (hexText frame)]
  else if subType = 0x11 then [.reading .temperature (rawValue / 10) (hexText frame)]
  else if subType = 0x12 then [.reading .airHumidity (rawValue / 10) (hexText frame)]
  else if subType = 0x13 then [.reading .airQuality rawValue (hexText frame)]
  else []

def handleObstacleFrame (frame : List UInt8) : List Packet :=
  let yawRaw := rawWord frame 2
  let distance := rawWord frame 4
  [.obstacle (yawRaw / 32768 * 180) distance (hexText frame)]

def leafStatusText (code : UInt8) : String :=
  if code = 0x00 then "健康"
  else if code = 0x01 then "黄叶"
  else if code = 0x02 then "腐烂"
  else "未识别"

def plantTypeText (code : UInt8) : String :=
  if code = 0x01 then "耐旱"
  else if code = 0x02 then "常规"
  else if code = 0x03 then "喜湿/水培"
  else "未知"

def handleStatusFrame (frame : List UInt8) : List Packet :=
  let frameType := frame.getD 1 0
  let code := frame.getD 2 0
  if frameType = 0x30 then [.leafStatus code (leafStatusText code) (hexText frame)]
  else if frameType = 0x70 then [.plantType code (plantTypeText code) (hexText frame)]
  else []

/-- The packets emitted for a complete frame. -/
def handleFrame (frame : List UInt8) : List Packet :=
  let frameType := frame.getD 1 0
  if frameType = 0x10 then handleSensorFrame frame
  else if frameType = 0x20 then handleObstacleFrame frame
  else handleStatusFrame frame

def expectedFrameLength (buffer : List UInt8) : Option ℕ :=
  if buffer.length < 2 ∨ buffer.getD 0 0 ≠ 0xAA then none
  else
    let frameType := buffer.getD 1 0
    if frameType = 0x10 then
      if buffer.length < 3 then none
      else if buffer.getD 2 0 ∈ [0x10, 0x11, 0x12, 0x13] then some 6
      else none
    else if frameType = 0x20 then some 7
    else if frameType ∈ [0x30, 0x70] then some 4
    else none

theorem expectedFrameLength_mem {buffer : List UInt8} {frameLength : ℕ}
    (hlength : expectedFrameLength buffer = some frameLength) : frameLength ∈ [4, 6, 7] := by
  unfold expectedFrameLength at hlength
  dsimp only at hlength
  split_ifs at hlength <;> cases hlength <;> decide

/-- `_parse_receive_buffer`: the packets emitted and the buffer kept. -/
def parseReceiveBuffer (buffer : List UInt8) : List Packet × List UInt8 :=
  if buffer.length < 4 then ([], buffer)
  else
    match buffer.findIdx? (· = 0xAA) with
    | none => ([], [])
    | some headerIndex =>
        let buffer' := buffer.drop headerIndex
        if buffer'.length < 4 then ([], buffer')
        else
          match _hlength : expectedFrameLength buffer' with
          | none => parseReceiveBuffer (buffer'.drop 1)
          | some frameLength =>
              if buffer'.length < frameLength then ([], buffer')
              else if buffer'.getD (frameLength - 1) 0 ≠ 0x55 then
                parseReceiveBuffer (buffer'.drop 1)
              else
                let rest := parseReceiveBuffer (buffer'.drop frameLength)
                (handleFrame (buffer'.take frameLength) ++ rest.1, rest.2)
termination_by buffer.length
decreasing_by
  · simp only [List.length_drop]; omega
  · simp only [List.length_drop]; omega
  · have hmem := expectedFrameLength_mem _hlength
    simp only [List.mem_cons, List.not_mem_nil, or_false] at hmem
    simp only [List.length_drop]
    omega

end PlantAssistant.Panel
