import Mathlib.Data.List.Basic
import Mathlib.Tactic.Common

/-! # The vision script's mode commands

Received bytes are collected in a buffer, from which mode packets are parsed
into a queue. The script polls the queue a few times in each call, and stops as
soon as it finds another mode than its own.
-/

namespace PlantAssistant.Vision

def rxPacketHeader : List UInt8 := [0xA4, 0xB4]
def rxPacketTail : List UInt8 := [0xC4]
def rxBufferMax : ℕ := 64
def modePollPacketsPerCall : ℕ := 8

/-- `MODE_PLANT` and `MODE_LIGHT`. -/
inductive Mode where
  | plant
  | light
deriving DecidableEq, Repr

def Mode.code : Mode → UInt8
  | .plant => 0x01
  | .light => 0x02

/-- `DEFAULT_MODE`. -/
abbrev defaultMode : Mode := .plant

/-- `bytes.find(sub)`. -/
def find (sub : List UInt8) : List UInt8 → Option ℕ
  | [] => if sub = [] then some 0 else none
  | byte :: rest => if sub.isPrefixOf (byte :: rest) then some 0 else (find sub rest).map (· + 1)

theorem lt_length_of_find_header {buffer : List UInt8} {start : ℕ}
    (hfind : find rxPacketHeader buffer = some start) : start < buffer.length := by
  induction buffer generalizing start with
  | nil => cases hfind
  | cons byte rest ih =>
      rw [find] at hfind
      split at hfind
      · cases hfind
        exact Nat.zero_lt_succ _
      · obtain ⟨index, hindex, rfl⟩ := Option.map_eq_some_iff.mp hfind
        exact Nat.succ_lt_succ (ih hindex)

/-- The mode a payload stands for, if it is one. -/
def payloadMode (payload : List UInt8) : Option Mode :=
  if payload.length = 1 then
    if payload.getD 0 0 = Mode.code .plant then some .plant
    else if payload.getD 0 0 = Mode.code .light then some .light
    else none
  else none

/-- `_parse_mode_buffer`: the buffer kept and the queue. -/
def parseModeBuffer (buffer : List UInt8) (queue : List Mode) : List UInt8 × List Mode :=
  match _hstart : find rxPacketHeader buffer with
  | none => (if 1 < buffer.length then buffer.drop (buffer.length - 1) else buffer, queue)
  | some start =>
      let buffer' := if 0 < start then buffer.drop start else buffer
      match find rxPacketTail (buffer'.drop rxPacketHeader.length) with
      | none => (buffer', queue)
      | some offset =>
          let stop := offset + rxPacketHeader.length
          let packet := buffer'.take (stop + 1)
          let payload := (packet.drop rxPacketHeader.length).dropLast
          parseModeBuffer (buffer'.drop (stop + 1)) (queue ++ (payloadMode payload).toList)
termination_by buffer.length
decreasing_by
  have hlt := lt_length_of_find_header _hstart
  split
  · simp only [List.length_drop]
    omega
  · simp only [List.length_drop]
    omega

/-- `RX_MODE_BUFFER` and `RX_MODE_QUEUE`. -/
structure ModeRx where
  rxModeBuffer : List UInt8 := []
  rxModeQueue : List Mode := []
deriving DecidableEq, Repr

/-- The buffer with what was read, limited to its last `RX_BUFFER_MAX` bytes. -/
def extendModeBuffer (buffer data : List UInt8) : List UInt8 :=
  let buffer := buffer ++ data
  if rxBufferMax < buffer.length then buffer.drop (buffer.length - rxBufferMax) else buffer

/-- `recv_mode_packet` on an open port. `data` is what the read returns, if there
is one. -/
def recvModePacket (data : List UInt8) (rx : ModeRx) : Option Mode × ModeRx :=
  match rx.rxModeQueue with
  | code :: queue => (some code, { rx with rxModeQueue := queue })
  | [] =>
      let parsed := parseModeBuffer (extendModeBuffer rx.rxModeBuffer data) []
      match parsed.2 with
      | code :: queue => (some code, ⟨parsed.1, queue⟩)
      | [] => (none, ⟨parsed.1, []⟩)

section Poll

variable {σ : Type} (recvModePacket : σ → Option Mode × σ) (currentMode : Mode)

/-- The loop of `recv_mode_switch`, with the number of polls left. -/
def pollMode : ℕ → σ → Option Mode × σ
  | 0, ser => (none, ser)
  | remaining + 1, ser =>
      match recvModePacket ser with
      | (none, ser) => (none, ser)
      | (some recvCode, ser) =>
          if recvCode ≠ currentMode then (some recvCode, ser) else pollMode remaining ser

def recvModeSwitch (ser : σ) : Option Mode × σ :=
  pollMode recvModePacket currentMode modePollPacketsPerCall ser

end Poll

end PlantAssistant.Vision
