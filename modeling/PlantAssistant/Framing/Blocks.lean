import Mathlib.Algebra.Order.Floor.Div
import Mathlib.Data.List.Basic

/-! # Streams of blocks of one size

A stream is cut into blocks of equal size. Stretches of it may be dropped, and
the blocks of which nothing was dropped are the intact ones.
-/

namespace Framing

variable {α β : Type*}

section Encoded

variable {encode : α → List β} {size : ℕ} (hsize : ∀ block, (encode block).length = size)

include hsize in
theorem length_flatMap_blocks (blocks : List α) :
    (blocks.flatMap encode).length = size * blocks.length := by
  induction blocks with
  | nil => simp
  | cons block blocks ih =>
      rw [List.flatMap_cons, List.length_append, hsize, ih, List.length_cons, Nat.mul_succ,
        Nat.add_comm]

include hsize in
theorem drop_flatMap_blocks (count : ℕ) (blocks : List α) :
    (blocks.flatMap encode).drop (size * count) = (blocks.drop count).flatMap encode := by
  induction count generalizing blocks with
  | zero => simp
  | succ count ih =>
      cases blocks with
      | nil => simp
      | cons block blocks =>
          rw [List.flatMap_cons, Nat.mul_succ, Nat.add_comm, ← List.drop_drop,
            List.drop_left' (hsize block), ih, List.drop_succ_cons]

include hsize in
theorem take_flatMap_blocks (count : ℕ) (blocks : List α) :
    (blocks.flatMap encode).take (size * count) = (blocks.take count).flatMap encode := by
  induction count generalizing blocks with
  | zero => simp
  | succ count ih =>
      cases blocks with
      | nil => simp
      | cons block blocks =>
          rw [List.flatMap_cons, Nat.mul_succ, Nat.add_comm, List.take_add,
            List.take_left' (hsize block), List.drop_left' (hsize block), ih,
            List.take_succ_cons, List.flatMap_cons]

end Encoded

/-! ## Dropped stretches -/

/-- Something of the block with this index was dropped. A stretch is given by
its first position and the one behind its last. -/
def Touched (size : ℕ) (dropped : List (ℕ × ℕ)) (index : ℕ) : Prop :=
  ∃ stretch ∈ dropped, stretch.1 < size * (index + 1) ∧ size * index < stretch.2

instance decidableTouched (size : ℕ) (dropped : List (ℕ × ℕ)) (index : ℕ) :
    Decidable (Touched size dropped index) :=
  inferInstanceAs (Decidable (∃ stretch ∈ dropped, _ ∧ _))

/-- The blocks of which nothing was dropped, where the first has this index. -/
def intactFrom (size : ℕ) (dropped : List (ℕ × ℕ)) : ℕ → List α → List α
  | _, [] => []
  | index, block :: blocks =>
      if Touched size dropped index then intactFrom size dropped (index + 1) blocks
      else block :: intactFrom size dropped (index + 1) blocks

def intact (size : ℕ) (dropped : List (ℕ × ℕ)) (blocks : List α) : List α :=
  intactFrom size dropped 0 blocks

variable {size : ℕ} {dropped : List (ℕ × ℕ)}

theorem intactFrom_append (index : ℕ) (first second : List α) :
    intactFrom size dropped index (first ++ second) =
      intactFrom size dropped index first ++
        intactFrom size dropped (index + first.length) second := by
  induction first generalizing index with
  | nil => rfl
  | cons block first ih =>
      have hindex : index + (block :: first).length = index + 1 + first.length := by
        rw [List.length_cons]
        omega
      rw [List.cons_append, intactFrom, intactFrom, ih, hindex]
      split
      · rfl
      · rfl

/-- Nothing was dropped from `index` on. -/
theorem not_touched_of_past {index : ℕ} (hpast : ∀ stretch ∈ dropped, stretch.2 ≤ size * index)
    {later : ℕ} (hlater : index ≤ later) : ¬ Touched size dropped later := by
  rintro ⟨stretch, hmem, -, hinside⟩
  have hle := Nat.mul_le_mul_left size hlater
  have hend := hpast stretch hmem
  omega

/-- A stretch that begins with the block `index`. -/
theorem touched_append_iff {index : ℕ} (hsize : 0 < size)
    (hpast : ∀ stretch ∈ dropped, stretch.2 ≤ size * index) (offset count : ℕ) :
    Touched size (dropped ++ [(size * index, size * index + count)]) (index + offset) ↔
      offset < count ⌈/⌉ size := by
  rw [← not_le, ceilDiv_le_iff_le_mul hsize, not_le]
  have hbegin : size * index < size * (index + offset + 1) :=
    Nat.mul_lt_mul_of_pos_left (by omega) hsize
  constructor
  · rintro ⟨stretch, hmem, hfirst, hinside⟩
    rcases List.mem_append.mp hmem with hold | hnew
    · exact absurd ⟨stretch, hold, hfirst, hinside⟩
        (not_touched_of_past hpast (Nat.le_add_right index offset))
    · rw [List.mem_singleton.mp hnew, Nat.mul_add] at hinside
      exact Nat.add_lt_add_iff_left.mp hinside
  · intro hlt
    refine ⟨_, List.mem_append_right _ (List.mem_singleton_self _), hbegin, ?_⟩
    rw [Nat.mul_add]
    exact Nat.add_lt_add_left hlt _

theorem intactFrom_dropped {index : ℕ} (hsize : 0 < size)
    (hpast : ∀ stretch ∈ dropped, stretch.2 ≤ size * index) (count offset : ℕ)
    (blocks : List α) :
    intactFrom size (dropped ++ [(size * index, size * index + count)]) (index + offset) blocks =
      blocks.drop (count ⌈/⌉ size - offset) := by
  induction blocks generalizing offset with
  | nil => simp [intactFrom]
  | cons block blocks ih =>
      have hrest := ih (offset + 1)
      rw [← Nat.add_assoc] at hrest
      rw [intactFrom, hrest]
      by_cases htouched : offset < count ⌈/⌉ size
      · rw [if_pos ((touched_append_iff hsize hpast offset count).mpr htouched)]
        have hcount : count ⌈/⌉ size - offset = count ⌈/⌉ size - (offset + 1) + 1 := by omega
        rw [hcount, List.drop_succ_cons]
      · have hzero : count ⌈/⌉ size - offset = 0 := by omega
        have hzero' : count ⌈/⌉ size - (offset + 1) = 0 := by omega
        rw [if_neg (mt (touched_append_iff hsize hpast offset count).mp htouched), hzero, hzero']
        rfl

/-- A stretch behind these blocks leaves them as they are. -/
theorem intactFrom_before {index : ℕ} {blocks : List α} {stretch : ℕ × ℕ}
    (hbehind : size * (index + blocks.length) ≤ stretch.1) :
    intactFrom size (dropped ++ [stretch]) index blocks = intactFrom size dropped index blocks := by
  induction blocks generalizing index with
  | nil => rfl
  | cons block blocks ih =>
      rw [List.length_cons] at hbehind
      have hrest : size * (index + 1 + blocks.length) ≤ stretch.1 := by
        rwa [Nat.add_assoc, Nat.add_comm 1]
      have hfirst : size * (index + 1) ≤ stretch.1 :=
        (Nat.mul_le_mul_left size (by omega)).trans hbehind
      have htouched : Touched size (dropped ++ [stretch]) index ↔ Touched size dropped index := by
        unfold Touched
        simp only [List.mem_append, List.mem_singleton, or_and_right, exists_or, exists_eq_left]
        rw [or_iff_left]
        intro hinside
        omega
      rw [intactFrom, intactFrom, ih hrest]
      simp only [htouched]

/-- Blocks behind everything dropped are intact. -/
theorem intact_append {old : List α} (hpast : ∀ stretch ∈ dropped, stretch.2 ≤ size * old.length)
    (fresh : List α) : intact size dropped (old ++ fresh) = intact size dropped old ++ fresh := by
  have hfresh : ∀ later, old.length ≤ later → intactFrom size dropped later fresh = fresh := by
    induction fresh with
    | nil =>
        intro later _
        rfl
    | cons block fresh ih =>
        intro later hlater
        rw [intactFrom, if_neg (not_touched_of_past hpast hlater), ih _ (Nat.le_succ_of_le hlater)]
  rw [intact, intact, intactFrom_append, Nat.zero_add, hfresh _ (le_refl _)]

/-- Of the blocks behind everything dropped, a stretch takes the first ones,
and the one it ends in. -/
theorem intact_append_dropped (hsize : 0 < size) {old : List α}
    (hpast : ∀ stretch ∈ dropped, stretch.2 ≤ size * old.length) (count : ℕ) (fresh : List α) :
    intact size (dropped ++ [(size * old.length, size * old.length + count)]) (old ++ fresh) =
      intact size dropped old ++ fresh.drop (count ⌈/⌉ size) := by
  have hfresh := intactFrom_dropped hsize hpast count 0 fresh
  rw [Nat.add_zero, Nat.sub_zero] at hfresh
  rw [intact, intact, intactFrom_append, Nat.zero_add, hfresh,
    intactFrom_before (by rw [Nat.zero_add])]

end Framing
