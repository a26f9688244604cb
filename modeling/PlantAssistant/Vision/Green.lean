import PlantAssistant.Firmware.CFloat

/-! # The vision script's packets

What `green.py` writes to the serial port for the light it looks for, the state
of the leaves and the type of the plant.
-/

namespace PlantAssistant.Vision

open PlantAssistant.Firmware

def lightPacketHeader : List UInt8 := [0xA3, 0xB1]
def statePacketHeader : List UInt8 := [0xA3, 0xB2]
def plantPacketHeader : List UInt8 := [0xA3, 0xB3]
def txPacketTail : List UInt8 := [0xC3]

/-- `PLANT_SHADE`, `PLANT_HALF_SUN` and `PLANT_FULL_SUN`. -/
inductive PlantCode where
  | shade
  | halfSun
  | fullSun
deriving DecidableEq, Repr

def PlantCode.code : PlantCode → ℤ
  | .shade => 0x04
  | .halfSun => 0x05
  | .fullSun => 0x06

/-- `struct.pack("B", int(value) & 0xFF)`. -/
def packByte (value : ℤ) : UInt8 := UInt8.ofNat (value % 256).toNat

/-- `max(0, min(65535, int(value)))`. -/
def clampWord (value : ℤ) : ℕ := (max 0 (min 65535 value)).toNat

/-- `struct.pack(">HH", x, y)`. -/
def packWords (x y : ℕ) : List UInt8 := [hiByte x, loByte x, hiByte y, loByte y]

/-- The bytes `send_packet` writes when the port is open. -/
def sendPacket (header payload : List UInt8) (tail : Option (List UInt8)) : List UInt8 :=
  header ++ payload ++ tail.getD []

def sendStatePacket (stateId : ℤ) : List UInt8 :=
  sendPacket statePacketHeader [packByte stateId] (some txPacketTail)

def sendPlantTypePacket (plantCode : ℤ) : List UInt8 :=
  sendPacket plantPacketHeader [packByte plantCode] (some txPacketTail)

def sendLightCenterPacket (x y : ℤ) : List UInt8 :=
  sendPacket lightPacketHeader (packWords (clampWord x) (clampWord y)) (some txPacketTail)

def sendLightNotFoundPacket : List UInt8 :=
  sendPacket [0xA3, 0xB4] [] (some txPacketTail)

/-- Everything the script sends. -/
inductive Packet where
  | lightCenter (x y : ℤ)
  | lightNotFound
  | state (stateId : ℤ)
  | plantType (code : PlantCode)
deriving DecidableEq, Repr

def Packet.bytes : Packet → List UInt8
  | .lightCenter x y => sendLightCenterPacket x y
  | .lightNotFound => sendLightNotFoundPacket
  | .state stateId => sendStatePacket stateId
  | .plantType code => sendPlantTypePacket code.code

theorem clampWord_lt (value : ℤ) : clampWord value < 2 ^ 16 := by
  unfold clampWord
  omega

theorem length_bytes_le (packet : Packet) : packet.bytes.length ≤ 7 := by
  cases packet <;> exact Nat.le_of_ble_eq_true rfl

end PlantAssistant.Vision
