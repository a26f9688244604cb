import PlantAssistant.Control.Parts
import PlantAssistant.Vision.Script

/-! # The firmware and the vision script on one line

Each side works at its own pace, and reads what has arrived whenever it gets to
it. The bytes in between are those sent and not yet read.
-/

namespace PlantAssistant.Boards

open Transition PlantAssistant.Control PlantAssistant.Firmware PlantAssistant.Vision

/-- `RX_MODE_BUFFER` and `RX_MODE_QUEUE` are in `rx`, the buffer of
`uart4_rx_entry` is `uart4`. -/
structure TwoBoards (F : Type) where
  firmware : Controller F
  script : Script
  rx : ModeRx
  uart4 : RxBuffer
  toFirmware : List UInt8
  toScript : List UInt8

/-- `control` is anything the firmware does apart from the vision module's port. A
read and a poll say how many bytes they get, if so many have arrived. -/
inductive BoardEvent (width height : ℕ) where
  | control (event : ControlEvent)
  | uart4Read (size : ℕ)
  | touch (tp : Option Touch) (nowMs nowMs' : ℤ) (sendOk : Bool)
  | poll (sizes : List ℕ)
  | frame (view : View width height)

/-- `recv_mode_packet` on what has arrived. -/
def recvNext (ser : (ModeRx × List UInt8) × List ℕ) :
    Option Mode × (ModeRx × List UInt8) × List ℕ :=
  match ser.1.1.rxModeQueue with
  | _ :: _ =>
      let out := recvModePacket [] ser.1.1
      (out.1, (out.2, ser.1.2), ser.2.tail)
  | [] =>
      let size := ser.2.headD 0
      let out := recvModePacket (ser.1.2.take size) ser.1.1
      (out.1, (out.2, ser.1.2.drop size), ser.2.tail)

/-- The bytes of the reports behind the first `sent`. -/
def reportBytes (s : Script) (sent : ℕ) : List UInt8 :=
  ((s.sent.drop sent).map fun report => report.packet.bytes).flatten

namespace TwoBoards

variable {F : Type} [CFloat F] (powf : F → F → F) {width height : ℕ}

/-- The firmware does something else than read the vision module's port. -/
def control (event : ControlEvent) (s : TwoBoards F) : TwoBoards F :=
  let firmware := s.firmware.step powf event
  { s with
    firmware := firmware
    toScript := s.toScript ++ firmware.uart4Sent.drop s.firmware.uart4Sent.length }

/-- `Maixcam_DataProc`, called by `uart4_rx_entry`. -/
def maixcam (data : Memory) (size : ℕ) (firmware : Controller F) : Controller F :=
  firmware.step powf (.maixcam data size)

/-- `uart4_rx_entry` reads what has arrived, but no more than `size` bytes. -/
def read (size : ℕ) (s : TwoBoards F) : TwoBoards F :=
  let out := uart4Port.rxEntry (maixcam powf) (s.uart4, s.firmware) (s.toFirmware.take size)
  { s with uart4 := out.1, firmware := out.2, toFirmware := s.toFirmware.drop size }

/-- The script does something, which may be to send a packet. -/
def act (event : ScriptEvent width height) (s : TwoBoards F) : TwoBoards F :=
  let script := s.script.step event
  { s with
    script := script
    toFirmware := s.toFirmware ++ reportBytes script s.script.sent.length }

def step (s : TwoBoards F) : BoardEvent width height → TwoBoards F
  | .control (.maixcam _ _) => s
  | .control event => s.control powf event
  | .uart4Read size => s.read powf size
  | .touch tp nowMs nowMs' sendOk =>
      s.act (.touch tp nowMs nowMs' sendOk : ScriptEvent width height)
  | .poll sizes =>
      match s.script.phase with
      | .running loop point =>
          if point = .reporting then s
          else
            let out := recvModeSwitch recvNext loop.mode ((s.rx, s.toScript), sizes)
            let s := s.act (.poll out.1 : ScriptEvent width height)
            { s with rx := out.2.1.1, toScript := out.2.1.2 }
      | .selecting _ => s
  | .frame view => s.act (.frame view)

end TwoBoards

def boardsSystem (F : Type) [CFloat F] (powf : F → F → F) (systemCoreClock : UInt32)
    (width height : ℕ) : System (TwoBoards F) (BoardEvent width height) where
  init := {
    firmware := .init systemCoreClock
    script := {}
    rx := {}
    uart4 := ⟨fun _ => 0, 0⟩
    toFirmware := []
    toScript := [] }
  step := TwoBoards.step powf

end PlantAssistant.Boards
