import PlantAssistant.Firmware.RxLoop
import PlantAssistant.Iteration.Loops

/-! # The UART receive threads with their accesses checked

The same code as in the port's loop, with the tests, reads and copies in the
order in which the source makes them. A read at an index that is not below the
current length, or a copy past the end of `parse_buf`, is a fault.
-/

namespace PlantAssistant.Firmware

open Iteration

inductive Fault where
  | read (index length : ℕ)
  | copy (stop : ℕ)
deriving DecidableEq, Repr

namespace RxBuffer

/-- `buffer[index]`. -/
def read (b : RxBuffer) (index : ℕ) : Except Fault UInt8 :=
  if index < b.length then return b.bytes index else throw (.read index b.length)

/-- `buffer[index] == byte`. -/
def holds (b : RxBuffer) (index : ℕ) (byte : UInt8) : Except Fault Bool := do
  return (← b.read index) == byte

/-- `memcpy(parse_buf + parse_len, chunk, size)` after the overflow test, and the
new `parse_len`. -/
def copyIn (b : RxBuffer) (chunk : List UInt8) : Except Fault RxBuffer :=
  let start := if uartMaxLen < b.length + chunk.length then 0 else b.length
  if start + chunk.length ≤ uartMaxLen then
    return {
      bytes := fun k =>
        if start ≤ k ∧ k < start + chunk.length then chunk.getD (k - start) 0 else b.bytes k
      length := (start + chunk.length % 2 ^ 16) % 2 ^ 16 }
  else throw (.copy (start + chunk.length))

variable {b : RxBuffer} {index : ℕ}

theorem read_eq (hindex : index < b.length) : b.read index = pure (b.bytes index) :=
  if_pos hindex

example : (ofList [uart4FrameHead1]).read 1 = throw (.read 1 1) := rfl

theorem holds_eq (b : RxBuffer) (index : ℕ) (byte : UInt8) (hindex : index < b.length) :
    b.holds index byte = pure (decide (b.bytes index = byte)) := by
  rw [holds, read_eq hindex, pure_bind]
  rfl

/-- The overflow test leaves room for a read that is no longer than the buffer. -/
theorem copyIn_eq {chunk : List UInt8} (hchunk : chunk.length ≤ uartMaxLen) :
    b.copyIn chunk = pure (b.append chunk) ∧ (b.append chunk).length ≤ uartMaxLen := by
  have hfits : (if uartMaxLen < b.length + chunk.length then 0 else b.length) + chunk.length ≤
      uartMaxLen := by
    split <;> omega
  refine ⟨?_, hfits⟩
  have hword : uartMaxLen < 2 ^ 16 := by decide
  rw [copyIn, if_pos hfits, Nat.mod_eq_of_lt (hchunk.trans_lt hword),
    Nat.mod_eq_of_lt (hfits.trans_lt hword)]
  rfl

end RxBuffer

/-! ## Tests for a frame -/

/-- A conjunction reads its right side only where the left one holds. -/
theorem andM_eq {p q : Prop} [Decidable p] [Decidable q] {left right : Except Fault Bool}
    (hleft : left = pure (decide p)) (hright : p → right = pure (decide q)) :
    (left <&&> right) = pure (decide (p ∧ q)) := by
  rw [hleft]
  by_cases hp : p
  · rw [hright hp]
    simp [andM, hp, toBool]
  · simp [andM, hp, toBool]

theorem orM_eq {p q : Prop} [Decidable p] [Decidable q] {left right : Except Fault Bool}
    (hleft : left = pure (decide p)) (hright : ¬ p → right = pure (decide q)) :
    (left <||> right) = pure (decide (p ∨ q)) := by
  rw [hleft]
  by_cases hp : p
  · simp [orM, hp, toBool]
  · rw [hright hp]
    simp [orM, hp, toBool]

/-- A port whose test for a frame is also given as the reads it makes. -/
structure CheckedPort extends Port where
  findFrame : RxBuffer → ℕ → Except Fault (Option ℕ)
  findFrame_eq (b : RxBuffer) (i : ℕ) : findFrame b i = pure (frameSize b i)

/-- The tests of `uart5_try_parse` at a header. -/
def uart5FindFrame (b : RxBuffer) (i : ℕ) : Except Fault (Option ℕ) := do
  if ← pure (decide (i + 8 < b.length)) <&&> (b.holds (i + 1) plantSoftCmdTime <&&>
      b.holds (i + 8) plantSoftpackTail) then
    return some 9
  if ← pure (decide (i + 3 < b.length)) <&&> b.holds (i + 3) plantSoftpackTail then
    return some 4
  return none

theorem uart5FindFrame_eq (b : RxBuffer) (i : ℕ) :
    uart5FindFrame b i = pure (uart5Port.frameSize b i) := by
  have htime := andM_eq (p := i + 8 < b.length) rfl fun h8 =>
    andM_eq (b.holds_eq (i + 1) plantSoftCmdTime (by omega)) fun _ =>
      b.holds_eq (i + 8) plantSoftpackTail h8
  have hother := andM_eq (p := i + 3 < b.length) rfl fun h3 =>
    b.holds_eq (i + 3) plantSoftpackTail h3
  simp only [uart5FindFrame, uart5Port, htime, hother, pure_bind, decide_eq_true_eq]
  split
  · rfl
  · split <;> rfl

/-- The tests of `uart4_try_parse` at a header. -/
def uart4FindFrame (b : RxBuffer) (i : ℕ) : Except Fault (Option ℕ) := do
  if ← pure (decide (i + 6 < b.length)) <&&> (b.holds (i + 1) uart4FrameHead2Loc <&&>
      b.holds (i + 6) uart4FrameTail1) then
    return some 7
  if ← pure (decide (i + 3 < b.length)) <&&> ((b.holds (i + 1) uart4FrameHead2Sta <||>
      b.holds (i + 1) uart4FrameHead2Typ) <&&> b.holds (i + 3) uart4FrameTail1) then
    return some 4
  if ← pure (decide (i + 2 < b.length)) <&&> (b.holds (i + 1) uart4FrameHead2Led <&&>
      b.holds (i + 2) uart4FrameTail1) then
    return some 3
  return none

theorem uart4FindFrame_eq (b : RxBuffer) (i : ℕ) :
    uart4FindFrame b i = pure (uart4Port.frameSize b i) := by
  have hlocation := andM_eq (p := i + 6 < b.length) rfl fun h6 =>
    andM_eq (b.holds_eq (i + 1) uart4FrameHead2Loc (by omega)) fun _ =>
      b.holds_eq (i + 6) uart4FrameTail1 h6
  have hstate := andM_eq (p := i + 3 < b.length) rfl fun h3 =>
    andM_eq (orM_eq (b.holds_eq (i + 1) uart4FrameHead2Sta (by omega)) fun _ =>
      b.holds_eq (i + 1) uart4FrameHead2Typ (by omega)) fun _ =>
        b.holds_eq (i + 3) uart4FrameTail1 h3
  have hlight := andM_eq (p := i + 2 < b.length) rfl fun h2 =>
    andM_eq (b.holds_eq (i + 1) uart4FrameHead2Led (by omega)) fun _ =>
      b.holds_eq (i + 2) uart4FrameTail1 h2
  simp only [uart4FindFrame, uart4Port, hlocation, hstate, hlight, pure_bind, decide_eq_true_eq]
  split
  · rfl
  · split
    · rfl
    · split <;> rfl

def uart5CheckedPort : CheckedPort where
  toPort := uart5Port
  findFrame := uart5FindFrame
  findFrame_eq := uart5FindFrame_eq

def uart4CheckedPort : CheckedPort where
  toPort := uart4Port
  findFrame := uart4FindFrame
  findFrame_eq := uart4FindFrame_eq

namespace CheckedPort

variable (port : CheckedPort) {σ : Type} (dataProc : Memory → ℕ → σ → σ)

/-- A pass of the loop of `uart4_try_parse` and `uart5_try_parse` over the
buffer, the index, which is a `uint16_t`, and the handler's variables. -/
def tryParsePass :
    RxBuffer × ℕ × σ → Except Fault ((RxBuffer × ℕ × σ) ⊕ (RxBuffer × σ))
  | (b, i, s) => do
      if i < b.length then
        if (← b.read i) ≠ port.head then return .inl (b, (i + 1) % 2 ^ 16, s)
        match ← port.findFrame b i with
        | some size =>
            let s := dataProc (fun k => b.bytes (i + k)) size s
            return .inl (b.shiftLeft ((i + size) % 2 ^ 16), 0, s)
        | none => return .inr (if 0 < i then b.shiftLeft i else b, s)
      else if 1 < b.length then
        let last ← b.read (b.length - 1)
        return .inr ({ bytes := Function.update b.bytes 0 last, length := 1 }, s)
      else return .inr (b, s)

def checkedTryParse (fuel : ℕ) (b : RxBuffer) (s : σ) : OptionT (Except Fault) (RxBuffer × σ) :=
  loop (port.tryParsePass dataProc) fuel (b, 0, s)

/-- One pass of the receive thread's loop over a read of `chunk`. -/
def checkedRxEntry (fuel : ℕ) (state : RxBuffer × σ) (chunk : List UInt8) :
    OptionT (Except Fault) (RxBuffer × σ) := do
  if 0 < chunk.length then
    let b ← state.1.copyIn chunk
    port.checkedTryParse dataProc fuel b state.2
  else return state

end CheckedPort

end PlantAssistant.Firmware
