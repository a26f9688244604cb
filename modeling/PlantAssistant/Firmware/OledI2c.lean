import PlantAssistant.Bits.TwoWire
import PlantAssistant.Firmware.MainOled

/-! # The wires to the display

The display hangs on two pins that are switched one by one. Every switch, and
every look at the data line, leaves the levels of both lines in a trace.
-/

namespace PlantAssistant.Firmware

open TwoWire

/-- The levels the display leaves the data line at while it is asked to answer: when
the clock rises, and then poll by poll. It may change its mind at any poll. -/
structure Answer where
  rising : Bool
  level : ℕ → Bool

def Answer.ack : Answer := ⟨false, fun _ => false⟩

/-- The answers to the three bytes of a call. -/
structure OledAnswers where
  address : Answer
  control : Answer
  value : Answer

/-- The pins. The data pin has a latch, and drives the line while it is an output;
`display` is the level it has otherwise. -/
structure IicBus where
  scl : Bool
  latch : Bool
  output : Bool
  display : Bool
  trace : List Levels
deriving DecidableEq, Repr

namespace IicBus

/-- The level of the data line. -/
def sda (s : IicBus) : Bool := if s.output then s.latch else s.display

def traced (s : IicBus) : IicBus := { s with trace := s.trace ++ [⟨s.scl, s.sda⟩] }

/-- `SDA_OUT`. -/
def sdaOut (s : IicBus) : IicBus := { s with output := true }.traced

/-- `SDA_IN`. -/
def sdaIn (display : Bool) (s : IicBus) : IicBus :=
  { s with output := false, display := display }.traced

/-- `OLED_IIC_SDA_High` and `OLED_IIC_SDA_Low`. -/
def writeSda (level : Bool) (s : IicBus) : IicBus := { s with latch := level }.traced

/-- `OLED_IIC_SCL_High` and `OLED_IIC_SCL_Low`. -/
def writeScl (level : Bool) (s : IicBus) : IicBus := { s with scl := level }.traced

/-- `OLED_READ_SDA`, where the display has this level now. -/
def readSda (display : Bool) (s : IicBus) : Bool × IicBus :=
  let s := { s with display := display }.traced
  (s.sda, s)

/-- The pins after `IIC_Init`, which switches both on. -/
def init : IicBus := ⟨true, true, true, true, []⟩

def iicStart (s : IicBus) : IicBus :=
  ((((s.sdaOut).writeSda true).writeScl true).writeSda false).writeScl false

def iicStop (s : IicBus) : IicBus :=
  ((((s.sdaOut).writeScl false).writeSda false).writeScl true).writeSda true

/-- The loop of `IIC_Wait_Ack` with some polls left: whether one of them finds the
line low. -/
def waitLow (answer : Answer) : ℕ → ℕ → IicBus → Bool × IicBus
  | 0, _, s => (false, s)
  | left + 1, poll, s =>
      let out := s.readSda (answer.level poll)
      if out.1 then waitLow answer left (poll + 1) out.2 else (true, out.2)

/-- `IIC_Wait_Ack`, which is 0 if an answer came. It counts up to 250, so that it
looks 251 times. -/
def iicWaitAck (answer : Answer) (s : IicBus) : ℕ × IicBus :=
  let s := ((s.sdaIn answer.rising).writeSda true).writeScl true
  let out := waitLow answer 251 0 s
  if out.1 then (0, out.2.writeScl false) else (1, out.2.iicStop)

/-- The loop of `IIC_Send_Byte`. -/
def sendBits : ℕ → UInt8 → IicBus → IicBus
  | 0, _, s => s
  | left + 1, txd, s =>
      let s := s.writeSda ((txd &&& 0x80) >>> 7 == 1)
      sendBits left (txd <<< 1) ((s.writeScl true).writeScl false)

def iicSendByte (txd : UInt8) (s : IicBus) : IicBus :=
  sendBits 8 txd ((s.sdaOut).writeScl false)

/-- A byte and its answer; the call returns 1 without one, after a second stop. -/
def oledByte (txd : UInt8) (answer : Answer) (rest : IicBus → ℕ × IicBus) (s : IicBus) :
    ℕ × IicBus :=
  let out := (s.iicSendByte txd).iicWaitAck answer
  if out.1 ≠ 0 then (1, out.2.iicStop) else rest out.2

/-- `OLED_Command` and `OLED_Data`, which differ in the second byte. -/
def oledWrite (control value : UInt8) (answers : OledAnswers) (s : IicBus) : ℕ × IicBus :=
  oledByte 0x78 answers.address
    (oledByte control answers.control
      (oledByte value answers.value fun s => (0, s.iicStop)))
    s.iicStart

def oledCommand (command : UInt8) : OledAnswers → IicBus → ℕ × IicBus := oledWrite 0x00 command

def oledData (data : UInt8) : OledAnswers → IicBus → ℕ × IicBus := oledWrite 0x40 data

end IicBus

/-! ## Pictures -/

/-- A call of `OLED_Command` or of `OLED_Data`. -/
inductive OledCall where
  | command (value : UInt8)
  | data (value : UInt8)
deriving DecidableEq, Repr

def OledCall.run : OledCall → OledAnswers → IicBus → ℕ × IicBus
  | .command value => IicBus.oledCommand value
  | .data value => IicBus.oledData value

/-- `OLED_SetPos`. -/
def oledSetPos (x y : UInt8) : List OledCall :=
  [.command (0xb0 + y), .command (((x &&& 0xf0) >>> 4) ||| 0x10),
    .command ((x &&& 0x0f) ||| 0x01)]

section Font

variable (f8x16 : ℕ → UInt8)

/-- The index of the first byte of a character in the font. -/
def fontIndex (ch : Char) : ℕ := (UInt8.ofNat ch.toNat - 32).toNat * 16

/-- One character of `OLED_ShowStr` with `TextSize` 2. -/
def oledShowChar (x y : UInt8) (ch : Char) : List OledCall :=
  oledSetPos x y ++ (List.range 8).map (fun i => .data (f8x16 (fontIndex ch + i))) ++
    (oledSetPos x (y + 1) ++ (List.range 8).map (fun i => .data (f8x16 (fontIndex ch + i + 8))))

/-- `OLED_ShowStr` with `TextSize` 2. -/
def oledShowStr : UInt8 → UInt8 → List Char → List OledCall
  | _, _, [] => []
  | x, y, ch :: rest =>
      if 120 < x then oledShowChar f8x16 0 (y + 1) ch ++ oledShowStr (0 + 8) (y + 1) rest
      else oledShowChar f8x16 x y ch ++ oledShowStr (x + 8) y rest

/-- The calls of one `main_show_oled_data`, unless a text and its terminator leave the
array `line`. -/
def mainShowOledCalls {F : Type} [CFloat F] (values : OledValues F) : Option (List OledCall) :=
  if ∀ line ∈ values.texts, line.2.length < oledLineSize then
    some (values.mainShowOledData.flatMap fun line =>
      oledShowStr f8x16 0 (UInt8.ofNat line.1) line.2)
  else none

end Font

/-- Some calls, one after the other, each with the answers it gets. -/
def runOledCalls (calls : List (OledCall × OledAnswers)) (s : IicBus) : IicBus :=
  calls.foldl (fun s call => (call.1.run call.2 s).2) s

end PlantAssistant.Firmware
