import Mathlib.Data.List.Basic
import Mathlib.Data.List.Pairwise

/-! # Readings of a changing value

A value changes now and then. Readings of it carry the time they were taken at,
and travel through a channel that keeps their order.
-/

namespace Transition

universe u

variable {α : Type u}

structure Stamped (α : Type u) where
  value : α
  takenAt : ℕ
deriving DecidableEq, Repr

/-- The readings under way: in order, from the past, and showing the value as it
is if they were taken since it last changed. -/
structure Underway (source : α) (changedAt now : ℕ) (channel : List (Stamped α)) : Prop where
  ordered : channel.Pairwise fun first second => first.takenAt ≤ second.takenAt
  past : ∀ reading ∈ channel, reading.takenAt < now
  current : ∀ reading ∈ channel, changedAt < reading.takenAt → reading.value = source

namespace Underway

variable {source : α} {changedAt now : ℕ} {channel : List (Stamped α)}

theorem nil : Underway source changedAt now [] := by
  constructor <;> simp

/-- The value stays, or its change is noted. -/
theorem step (hunderway : Underway source changedAt now channel) {source' : α} {changedAt' : ℕ}
    (hstep : source' = source ∧ changedAt ≤ changedAt' ∨ now ≤ changedAt') :
    Underway source' changedAt' (now + 1) channel where
  ordered := hunderway.ordered
  past := by
    intro reading hmem
    have hpast := hunderway.past reading hmem
    omega
  current := by
    intro reading hmem hnewer
    have hpast := hunderway.past reading hmem
    rcases hstep with ⟨rfl, hlater⟩ | hchanged
    · exact hunderway.current reading hmem (by omega)
    · omega

/-- A reading is taken. -/
theorem append (hunderway : Underway source changedAt now channel) :
    Underway source changedAt (now + 1) (channel ++ [⟨source, now⟩]) where
  ordered := by
    rw [List.pairwise_append]
    refine ⟨hunderway.ordered, List.pairwise_singleton _ _, ?_⟩
    intro first hfirst second hsecond
    rw [List.mem_singleton.mp hsecond]
    exact Nat.le_of_lt (hunderway.past first hfirst)
  past := by
    intro reading hmem
    rcases List.mem_append.mp hmem with hold | hnew
    · have hpast := hunderway.past reading hold
      omega
    · rw [List.mem_singleton.mp hnew]
      exact Nat.lt_succ_self now
  current := by
    intro reading hmem hnewer
    rcases List.mem_append.mp hmem with hold | hnew
    · exact hunderway.current reading hold hnewer
    · rw [List.mem_singleton.mp hnew]

/-- The first reading arrives. -/
theorem tail {reading : Stamped α}
    (hunderway : Underway source changedAt now (reading :: channel)) :
    Underway source changedAt now channel where
  ordered := hunderway.ordered.of_cons
  past := by
    intro later hmem
    exact hunderway.past later (List.mem_cons_of_mem reading hmem)
  current := by
    intro later hmem
    exact hunderway.current later (List.mem_cons_of_mem reading hmem)

/-- Those that arrive later were taken later. -/
theorem head_le {reading later : Stamped α}
    (hunderway : Underway source changedAt now (reading :: channel)) (hmem : later ∈ channel) :
    reading.takenAt ≤ later.takenAt :=
  List.rel_of_pairwise_cons hunderway.ordered hmem

end Underway

end Transition
