import PlantAssistant.Vision.ModeSwitch
import PlantAssistant.Iteration.Loops

/-! # The mode queue as the script has it

`_parse_mode_buffer` as a loop over two global variables, of which the queue
holds bytes, and `recv_mode_packet` with everything it may find at the port.
-/

namespace PlantAssistant.Vision

open Iteration

/-- `RX_MODE_BUFFER` and `RX_MODE_QUEUE`. -/
structure ModeGlobals where
  rxModeBuffer : List UInt8 := []
  rxModeQueue : List UInt8 := []
deriving DecidableEq, Repr

/-- What `recv_mode_packet` finds: a port that is not open, or one whose read
raises or returns data. -/
inductive PortRead where
  | closed
  | raises
  | returns (data : List UInt8)
deriving DecidableEq, Repr

namespace ModeGlobals

/-- A pass of the loop of `_parse_mode_buffer`. -/
def parsePass (g : ModeGlobals) : Id (ModeGlobals ⊕ ModeGlobals) :=
  match find rxPacketHeader g.rxModeBuffer with
  | none =>
      .inr { g with
        rxModeBuffer :=
          if 1 < g.rxModeBuffer.length then g.rxModeBuffer.drop (g.rxModeBuffer.length - 1)
          else g.rxModeBuffer }
  | some start =>
      let buffer := if 0 < start then g.rxModeBuffer.drop start else g.rxModeBuffer
      match find rxPacketTail (buffer.drop rxPacketHeader.length) with
      | none => .inr { g with rxModeBuffer := buffer }
      | some offset =>
          let stop := offset + rxPacketHeader.length
          let packet := buffer.take (stop + 1)
          let payload := (packet.drop rxPacketHeader.length).dropLast
          .inl {
            rxModeBuffer := buffer.drop (stop + 1)
            rxModeQueue :=
              if payload.length = 1 ∧ payload.getD 0 0 ∈ [Mode.code .plant, Mode.code .light] then
                g.rxModeQueue ++ [payload.getD 0 0]
              else g.rxModeQueue }

def parseModeBuffer (fuel : ℕ) (g : ModeGlobals) : OptionT Id ModeGlobals :=
  loop parsePass fuel g

/-- `RX_MODE_QUEUE.pop(0)` where there is an entry. -/
def popMode (g : ModeGlobals) : Option UInt8 × ModeGlobals :=
  match g.rxModeQueue with
  | code :: queue => (some code, { g with rxModeQueue := queue })
  | [] => (none, g)

def recvModePacket (fuel : ℕ) (port : PortRead) (g : ModeGlobals) :
    OptionT Id (Option UInt8 × ModeGlobals) := do
  if port = .closed then return (none, g)
  if g.rxModeQueue ≠ [] then return g.popMode
  match port with
  | .returns data =>
      let buffer := extendModeBuffer g.rxModeBuffer data
      let g ← parseModeBuffer fuel { g with rxModeBuffer := buffer }
      return g.popMode
  | _ => return (none, g)

/-- The variables behind the calls of a run. -/
def calls (fuel : ℕ) (ports : List PortRead) (g : ModeGlobals) : OptionT Id ModeGlobals :=
  ports.foldlM (fun g port => Prod.snd <$> g.recvModePacket fuel port) g

end ModeGlobals

end PlantAssistant.Vision
