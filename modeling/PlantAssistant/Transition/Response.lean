import PlantAssistant.Transition.Run

/-! # Bounded response

Some of the events bring a system nearer to a goal that nothing takes away from
it. So many of them as it is away, and it is there, whatever came in between.
-/

namespace Transition

universe u v

variable {State : Type u} {Event : Type v} {system : System State Event}

/-- Steps under `condition` keep `goal`, and each that `counts` brings a state
outside nearer to it. -/
structure Approaches (system : System State Event) (condition : State → Event → Prop)
    (goal : State → Prop) (counts : Event → Bool) (distance : State → ℕ) : Prop where
  kept (state : State) (event : Event) : condition state event → goal state →
    goal (system.step state event)
  away (state : State) : ¬ goal state → 0 < distance state
  nearer (state : State) (event : Event) : condition state event → ¬ goal state →
    ¬ goal (system.step state event) →
      distance (system.step state event) + (if counts event then 1 else 0) ≤ distance state

theorem Approaches.reached {condition : State → Event → Prop} {goal : State → Prop}
    {counts : Event → Bool} {distance : State → ℕ}
    (happroaches : Approaches system condition goal counts distance) {state : State}
    {events : List Event} (halong : system.AlongFrom condition state events)
    (hcount : goal state ∨ distance state ≤ events.countP counts) :
    goal (system.runFrom state events) := by
  induction events generalizing state with
  | nil =>
      refine hcount.elim id fun hnone => ?_
      by_contra houtside
      exact absurd hnone (Nat.not_le.mpr (happroaches.away state houtside))
  | cons event events ih =>
      obtain ⟨hcondition, hrest⟩ := halong
      refine ih hrest ?_
      by_cases hgoal : goal state
      · exact .inl (happroaches.kept state event hcondition hgoal)
      by_cases hnext : goal (system.step state event)
      · exact .inl hnext
      right
      have hnear := happroaches.nearer state event hcondition hgoal hnext
      have hlong := hcount.resolve_left hgoal
      rw [List.countP_cons] at hlong
      omega

end Transition
