import Mathlib.Data.List.Basic
import Mathlib.Tactic.Common

/-! # Ring buffers

A ring buffer holds what stands between the index to read at and the index to
write at. Writing and reading are given separately from the tests around them,
so that rings that refuse, drop or overwrite can be built from them.
-/

namespace Queue

universe u

/-- The index after `index`, back at zero behind the last one. -/
def next (size index : ℕ) : ℕ := if size ≤ index + 1 then 0 else index + 1

/-- How many steps of `next` lead from one index to the other. -/
def span (size start stop : ℕ) : ℕ :=
  if start ≤ stop then stop - start else size - start + stop

/-- The index `count` steps on. -/
def ahead (size index count : ℕ) : ℕ :=
  if index + count < size then index + count else index + count - size

variable {size index start stop count : ℕ}

theorem next_lt (hindex : index < size) : next size index < size := by
  unfold next
  split <;> omega

theorem span_lt (hstart : start < size) (hstop : stop < size) : span size start stop < size := by
  unfold span
  split <;> omega

theorem ahead_zero (hindex : index < size) : ahead size index 0 = index := if_pos hindex

theorem ahead_span (hstart : start < size) (_ : stop < size) :
    ahead size start (span size start stop) = stop := by
  unfold ahead span
  split_ifs <;> omega

theorem ahead_next (hindex : index < size) (hcount : count + 1 < size) :
    ahead size (next size index) count = ahead size index (count + 1) := by
  unfold ahead next
  split_ifs <;> omega

theorem ahead_ne_stop (hstart : start < size) (_ : stop < size)
    (hcount : count < span size start stop) : ahead size start count ≠ stop := by
  unfold span at hcount
  unfold ahead
  split_ifs at * <;> omega

theorem span_eq_zero_iff (hstart : start < size) (_ : stop < size) :
    span size start stop = 0 ↔ start = stop := by
  unfold span
  split <;> omega

/-- A write moves the end away, unless it meets the start. -/
theorem span_next_stop (hstart : start < size) (hstop : stop < size)
    (hroom : next size stop ≠ start) :
    span size start (next size stop) = span size start stop + 1 := by
  unfold next at hroom ⊢
  unfold span
  split_ifs at * <;> omega

theorem span_of_full (hstart : start < size) (hstop : stop < size)
    (hfull : next size stop = start) : span size start stop = size - 1 := by
  unfold next at hfull
  unfold span
  split_ifs at * <;> omega

theorem span_next_start (hstart : start < size) (hstop : stop < size) (hne : start ≠ stop) :
    span size (next size start) stop + 1 = span size start stop := by
  unfold next span
  split_ifs <;> omega

/-- A ring of `size` places. -/
structure Ring (α : Type u) (size : ℕ) where
  buffer : ℕ → α
  putIndex : ℕ
  getIndex : ℕ
  putIndex_lt : putIndex < size
  getIndex_lt : getIndex < size

namespace Ring

variable {α : Type u} (ring : Ring α size)

/-- What is stored, from the oldest to the newest. -/
def content : List α :=
  (List.range (span size ring.getIndex ring.putIndex)).map fun k =>
    ring.buffer (ahead size ring.getIndex k)

/-- Writes a value, whatever stands there. -/
def write (value : α) : Ring α size where
  buffer := Function.update ring.buffer ring.putIndex value
  putIndex := next size ring.putIndex
  getIndex := ring.getIndex
  putIndex_lt := next_lt ring.putIndex_lt
  getIndex_lt := ring.getIndex_lt

def peek : α := ring.buffer ring.getIndex

/-- Gives up the oldest value. -/
def skip : Ring α size where
  buffer := ring.buffer
  putIndex := ring.putIndex
  getIndex := next size ring.getIndex
  putIndex_lt := ring.putIndex_lt
  getIndex_lt := next_lt ring.getIndex_lt

@[simp] theorem length_content :
    ring.content.length = span size ring.getIndex ring.putIndex := by
  simp [content]

theorem length_content_lt : ring.content.length < size := by
  rw [length_content]
  exact span_lt ring.getIndex_lt ring.putIndex_lt

theorem content_eq_nil_iff : ring.content = [] ↔ ring.getIndex = ring.putIndex := by
  rw [← List.length_eq_zero_iff, length_content,
    span_eq_zero_iff ring.getIndex_lt ring.putIndex_lt]

/-- There is no room for another value behind the last one. -/
def Full : Prop := next size ring.putIndex = ring.getIndex

instance : Decidable ring.Full := inferInstanceAs (Decidable (_ = _))

theorem full_iff : ring.Full ↔ ring.content.length + 1 = size := by
  have hput := ring.putIndex_lt
  have hget := ring.getIndex_lt
  rw [length_content]
  constructor
  · intro hfull
    rw [span_of_full hget hput hfull]
    omega
  · intro hlength
    by_contra hroom
    have hspan := span_next_stop hget hput hroom
    have hlt := span_lt hget (next_lt hput)
    omega

/-- A write with room leaves the stored values and appends the new one. -/
theorem content_write (value : α) (hroom : ¬ ring.Full) :
    (ring.write value).content = ring.content ++ [value] := by
  have hput := ring.putIndex_lt
  have hget := ring.getIndex_lt
  have hspan : span size ring.getIndex (next size ring.putIndex) =
      span size ring.getIndex ring.putIndex + 1 := span_next_stop hget hput hroom
  simp only [content, write, hspan, List.range_succ, List.map_append, List.map_singleton]
  congr 1
  · apply List.map_congr_left
    intro k hk
    exact Function.update_of_ne (ahead_ne_stop hget hput (List.mem_range.mp hk)) _ _
  · rw [ahead_span hget hput, Function.update_self]

theorem content_skip (hne : ring.getIndex ≠ ring.putIndex) :
    ring.content = ring.peek :: ring.skip.content := by
  have hput := ring.putIndex_lt
  have hget := ring.getIndex_lt
  have hspan := span_next_start hget hput hne
  have hlt := span_lt hget hput
  simp only [content, skip, ← hspan, List.range_succ_eq_map, List.map_cons, List.map_map]
  congr 1
  · rw [ahead_zero hget, peek]
  · apply List.map_congr_left
    intro k hk
    have hk := List.mem_range.mp hk
    rw [Function.comp_apply, ahead_next hget (by omega)]

/-- After a write a ring of more than one place is empty only if it was full. -/
theorem putIndex_write_eq_iff (value : α) :
    (ring.write value).putIndex = (ring.write value).getIndex ↔ ring.Full := Iff.rfl

/-- Writing into a full ring takes the place of the oldest value. -/
theorem content_write_skip (value : α) (hfull : ring.Full) (hsize : 1 < size) :
    (ring.write value).skip.content = ring.content.tail ++ [value] := by
  have hne : ring.getIndex ≠ ring.putIndex := by
    intro heq
    have hempty := (ring.full_iff).mp hfull
    rw [ring.content_eq_nil_iff.mpr heq, List.length_nil] at hempty
    omega
  have hcontent := ring.content_skip hne
  have hroom : ¬ ring.skip.Full := by
    intro hskip
    have hlong := (ring.full_iff).mp hfull
    have hshort := (ring.skip.full_iff).mp hskip
    rw [hcontent, List.length_cons] at hlong
    omega
  have hcommute : (ring.write value).skip = ring.skip.write value := rfl
  rw [hcommute, ring.skip.content_write value hroom, hcontent, List.tail_cons]

end Ring

end Queue
