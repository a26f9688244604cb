import Mathlib.Data.List.Basic
import Mathlib.Data.List.Infix
import Mathlib.Tactic.Common

/-! # What stands anywhere in a stream

A reader says what it finds at the beginning of a list. Its occurrences in a
stream are what it finds at the positions of the stream, in order, also where they
overlap or where a scan would have passed them.
-/

namespace Framing

variable {α β : Type*}

/-- What the reader finds at all positions. -/
def occurrences (read : List α → Option β) : List α → List β
  | [] => []
  | a :: rest => (read (a :: rest)).toList ++ occurrences read rest

variable {read : List α → Option β}

@[simp] theorem occurrences_nil : occurrences read [] = [] := rfl

theorem occurrences_cons (a : α) (rest : List α) :
    occurrences read (a :: rest) = (read (a :: rest)).toList ++ occurrences read rest := rfl

/-- Positions at which nothing begins can be left out. -/
theorem occurrences_append_of_none {front back : List α}
    (hnone : ∀ part, part <:+ front → part ≠ [] → read (part ++ back) = none) :
    occurrences read (front ++ back) = occurrences read back := by
  induction front with
  | nil => rfl
  | cons a front ih =>
      have hfirst := hnone (a :: front) (List.suffix_refl _) (List.cons_ne_nil _ _)
      have hrest := ih fun part hpart =>
        hnone part (hpart.trans (List.suffix_cons a front))
      rw [List.cons_append, occurrences_cons, ← List.cons_append, hfirst, hrest]
      rfl

theorem exists_of_mem_occurrences {stream : List α} {item : β}
    (hmem : item ∈ occurrences read stream) : ∃ part, part <:+ stream ∧ read part = some item := by
  induction stream with
  | nil => cases hmem
  | cons a rest ih =>
      rcases List.mem_append.mp hmem with hfirst | hlater
      · exact ⟨a :: rest, List.suffix_refl _, Option.mem_toList.mp hfirst⟩
      · obtain ⟨part, hpart, hitem⟩ := ih hlater
        exact ⟨part, hpart.trans (List.suffix_cons a rest), hitem⟩

theorem occurrences_eq_nil {stream : List α}
    (hnone : ∀ part, part <:+ stream → part ≠ [] → read part = none) :
    occurrences read stream = [] := by
  have happend : occurrences read (stream ++ []) = occurrences read [] :=
    occurrences_append_of_none (by simpa using hnone)
  rwa [List.append_nil] at happend

/-! ## The first delimiter -/

/-- What reaches into the stretch up to the first delimiter, or begins behind it. -/
theorem append_eq_append_cons {delimiter : α} {front before more rest : List α}
    (happend : before ++ more = front ++ delimiter :: rest) :
    (∃ part, front = before ++ part ∧ more = part ++ delimiter :: rest) ∨
      ∃ part, before = front ++ delimiter :: part ∧ rest = part ++ more := by
  rcases List.append_eq_append_iff.mp happend with ⟨part, hpart, hmore⟩ | ⟨part, rfl, hmore⟩
  · exact .inl ⟨part, hpart, hmore⟩
  · cases part with
    | nil => exact .inl ⟨[], by simp, hmore.symm⟩
    | cons first part =>
        obtain ⟨rfl, hrest⟩ := List.cons.inj hmore
        exact .inr ⟨part, rfl, hrest⟩

/-- A list is cut at its first delimiter in one way. -/
theorem append_cons_unique {delimiter : α} {front front' rest rest' : List α}
    (hfront : delimiter ∉ front) (hfront' : delimiter ∉ front')
    (happend : front ++ delimiter :: rest = front' ++ delimiter :: rest') :
    front = front' ∧ rest = rest' := by
  rcases append_eq_append_cons happend with ⟨part, rfl, hmore⟩ | ⟨part, rfl, -⟩
  · cases part with
    | nil =>
        rw [List.append_nil]
        exact ⟨rfl, (List.cons.inj hmore).2⟩
    | cons first part =>
        obtain ⟨rfl, -⟩ := List.cons.inj hmore
        exact absurd (List.mem_append_right _ List.mem_cons_self) hfront'
  · exact absurd (List.mem_append_right _ List.mem_cons_self) hfront

end Framing
