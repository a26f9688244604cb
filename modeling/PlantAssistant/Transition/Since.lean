import Mathlib.Data.List.Induction
import PlantAssistant.Transition.Run

/-! # What has held since an event

Some state predicates say no more than what the last decisive event was.
-/

namespace Transition.System

universe u v

variable {State : Type u} {Event : Type v} (system : System State Event)

/-- An event of the run `opens`, and all events after it `keep`. -/
def Since (opens keeps : State → Event → Prop) (events : List Event) : Prop :=
  ∃ before event after, events = before ++ event :: after ∧ opens (system.run before) event ∧
    system.AlongFrom keeps (system.run (before ++ [event])) after

variable {system} {opens keeps : State → Event → Prop}

theorem not_since_nil : ¬ system.Since opens keeps [] := by
  rintro ⟨before, event, after, hevents, -⟩
  cases before <;> cases hevents

theorem since_concat (events : List Event) (event : Event) :
    system.Since opens keeps (events ++ [event]) ↔
      opens (system.run events) event ∨
        system.Since opens keeps events ∧ keeps (system.run events) event := by
  constructor
  · rintro ⟨before, opening, after, hevents, hopens, hkept⟩
    rcases List.eq_nil_or_concat after with rfl | ⟨after, last, rfl⟩
    · obtain ⟨rfl, hsame⟩ := List.append_inj' hevents rfl
      cases hsame
      exact .inl hopens
    · rw [List.concat_eq_append, ← List.cons_append, ← List.append_assoc] at hevents
      obtain ⟨rfl, hsame⟩ := List.append_inj' hevents rfl
      cases hsame
      rw [List.concat_eq_append, System.alongFrom_append, ← System.run_append,
        List.append_assoc] at hkept
      exact .inr ⟨⟨before, opening, after, rfl, hopens, hkept.1⟩, hkept.2.1⟩
  · rintro (hopens | ⟨⟨before, opening, after, rfl, hopens, hkept⟩, hkeeps⟩)
    · exact ⟨events, event, [], rfl, hopens, trivial⟩
    · refine ⟨before, opening, after ++ [event], by simp, hopens, ?_⟩
      rw [System.alongFrom_append, ← System.run_append, List.append_assoc]
      exact ⟨hkept, hkeeps, trivial⟩

/-- A predicate that holds after a step exactly if the step opened it, or if it
held and the step kept it, holds since it was opened last. -/
theorem Invariant.since_iff {inv : State → Prop} (hinv : system.Invariant inv)
    (property : State → Prop) (hinit : ¬ property system.init)
    (hstep : ∀ state event, inv state →
      (property (system.step state event) ↔ opens state event ∨ property state ∧ keeps state event))
    (events : List Event) : property (system.run events) ↔ system.Since opens keeps events := by
  induction events using List.reverseRecOn with
  | nil => exact iff_of_false hinit not_since_nil
  | append_singleton events event ih =>
      rw [System.run_concat, hstep _ _ (hinv.run events), since_concat, ih]

end Transition.System
