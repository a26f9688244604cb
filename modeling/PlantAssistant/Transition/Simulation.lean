import PlantAssistant.Transition.Run

/-! # Parts of a system

A system that is put together from others does in one step what a part does in
none, one or several. What holds in every run of the part then holds of the
states of the whole that are related to it.
-/

namespace Transition

universe u v u' v'

/-- `part` follows `whole`: `related` says how their states belong together,
`events` what an event of the whole is for the part. -/
structure Simulation {State : Type u} {Event : Type v} {State' : Type u'} {Event' : Type v'}
    (whole : System State Event) (part : System State' Event') where
  related : State → State' → Prop
  events : State → Event → List Event'
  init : related whole.init part.init
  step (state : State) (state' : State') (event : Event) : related state state' →
    related (whole.step state event) (part.runFrom state' (events state event))

namespace Simulation

variable {State : Type u} {Event : Type v} {State' : Type u'} {Event' : Type v'}
variable {whole : System State Event} {part : System State' Event'}
variable (simulation : Simulation whole part)

/-- The run of the part that goes with a run of the whole. -/
def traceFrom : State → List Event → List Event'
  | _, [] => []
  | state, event :: events =>
      simulation.events state event ++ traceFrom (whole.step state event) events

def trace (events : List Event) : List Event' := simulation.traceFrom whole.init events

theorem runFrom {state : State} {state' : State'} (hrelated : simulation.related state state')
    (events : List Event) :
    simulation.related (whole.runFrom state events)
      (part.runFrom state' (simulation.traceFrom state events)) := by
  induction events generalizing state state' with
  | nil => exact hrelated
  | cons event events ih =>
      rw [traceFrom, System.runFrom_cons, System.runFrom_append]
      exact ih (simulation.step state state' event hrelated)

theorem run (events : List Event) :
    simulation.related (whole.run events) (part.run (simulation.trace events)) :=
  simulation.runFrom simulation.init events

/-- An invariant of the part, seen from the whole. -/
theorem lift {inv : State' → Prop} (hinv : part.Invariant inv) :
    whole.Invariant fun state => ∃ state', simulation.related state state' ∧ inv state' where
  init := ⟨part.init, simulation.init, hinv.init⟩
  step state event hstate := by
    obtain ⟨state', hrelated, hinv'⟩ := hstate
    exact ⟨_, simulation.step state state' event hrelated, hinv.runFrom hinv' _⟩

theorem invariant {inv : State' → Prop} (hinv : part.Invariant inv) (events : List Event) :
    ∃ state', simulation.related (whole.run events) state' ∧ inv state' :=
  (simulation.lift hinv).run events

end Simulation

end Transition
