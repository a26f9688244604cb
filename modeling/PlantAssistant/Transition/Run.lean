import Mathlib.Data.List.Basic
import Mathlib.Tactic.Common

/-! # Runs of a deterministic system driven by events

Events arrive in any order; a run is the list of those that did. Invariants are
carried along runs, and properties of single steps are collected over them.
-/

namespace Transition

universe u v

variable {State : Type u} {Event : Type v}

/-- A start state and the effect of one event. -/
structure System (State : Type u) (Event : Type v) where
  init : State
  step : State → Event → State

namespace System

variable (system : System State Event)

/-- The state after the given events, in order. -/
def runFrom (state : State) (events : List Event) : State :=
  events.foldl system.step state

def run (events : List Event) : State :=
  system.runFrom system.init events

@[simp] theorem runFrom_nil (state : State) : system.runFrom state [] = state := rfl

@[simp] theorem runFrom_cons (state : State) (event : Event) (events : List Event) :
    system.runFrom state (event :: events) = system.runFrom (system.step state event) events := rfl

theorem runFrom_append (state : State) (first second : List Event) :
    system.runFrom state (first ++ second) = system.runFrom (system.runFrom state first) second :=
  List.foldl_append

theorem run_append (first second : List Event) :
    system.run (first ++ second) = system.runFrom (system.run first) second :=
  List.foldl_append

theorem run_concat (events : List Event) (event : Event) :
    system.run (events ++ [event]) = system.step (system.run events) event := by
  rw [run_append, runFrom_cons, runFrom_nil]

/-- A predicate that holds at the start and that every event preserves. -/
structure Invariant (inv : State → Prop) : Prop where
  init : inv system.init
  step (state : State) (event : Event) : inv state → inv (system.step state event)

variable {system}

theorem Invariant.runFrom {inv : State → Prop} (hinv : system.Invariant inv) {state : State}
    (hstate : inv state) (events : List Event) : inv (system.runFrom state events) := by
  induction events generalizing state with
  | nil => exact hstate
  | cons event events ih => exact ih (hinv.step state event hstate)

theorem Invariant.run {inv : State → Prop} (hinv : system.Invariant inv) (events : List Event) :
    inv (system.run events) :=
  hinv.runFrom hinv.init events

variable (system)

/-- `property` holds of every step of the run: of each event together with the
state it meets. -/
def AlongFrom (property : State → Event → Prop) : State → List Event → Prop
  | _, [] => True
  | state, event :: events =>
      property state event ∧ AlongFrom property (system.step state event) events

def Along (property : State → Event → Prop) (events : List Event) : Prop :=
  system.AlongFrom property system.init events

instance decidableAlongFrom (property : State → Event → Prop)
    [∀ state event, Decidable (property state event)] :
    ∀ state events, Decidable (system.AlongFrom property state events)
  | _, [] => isTrue trivial
  | state, event :: events =>
      let _ := decidableAlongFrom property (system.step state event) events
      inferInstanceAs (Decidable (property state event ∧ system.AlongFrom property _ events))

instance (property : State → Event → Prop) [∀ state event, Decidable (property state event)]
    (events : List Event) : Decidable (system.Along property events) :=
  inferInstanceAs (Decidable (system.AlongFrom property _ events))

theorem alongFrom_append (property : State → Event → Prop) (state : State)
    (first second : List Event) :
    system.AlongFrom property state (first ++ second) ↔
      system.AlongFrom property state first ∧
        system.AlongFrom property (system.runFrom state first) second := by
  induction first generalizing state with
  | nil => simp [AlongFrom]
  | cons event first ih => simp [AlongFrom, ih, and_assoc]

/-- The last step of a run that has the property throughout has it. -/
theorem Along.last {property : State → Event → Prop} {events : List Event} {event : Event}
    (halong : system.Along property (events ++ [event])) :
    property (system.run events) event :=
  ((system.alongFrom_append property system.init events [event]).mp halong).2.1

variable {system}

/-- The same system, driven by events of one kind only. -/
def restrict (system : System State Event) (allowed : Event → Prop) :
    System State {event // allowed event} where
  init := system.init
  step state event := system.step state event.1

theorem Invariant.restrict {inv : State → Prop} (hinv : system.Invariant inv)
    (allowed : Event → Prop) : (system.restrict allowed).Invariant inv where
  init := hinv.init
  step state event := hinv.step state event.1

/-- A property of every step that starts in a state of an invariant. -/
theorem Invariant.along {inv : State → Prop} (hinv : system.Invariant inv)
    {property : State → Event → Prop}
    (hholds : ∀ state event, inv state → property state event) (events : List Event) :
    system.Along property events := by
  unfold Along
  have hinit := hinv.init
  generalize system.init = state at hinit
  induction events generalizing state with
  | nil => trivial
  | cons event events ih =>
      exact ⟨hholds state event hinit, ih _ (hinv.step state event hinit)⟩

/-- An invariant along what follows a run. -/
theorem Invariant.alongFrom_run {inv : State → Prop} (hinv : system.Invariant inv)
    (before later : List Event) :
    system.AlongFrom (fun state _ => inv state) (system.run before) later := by
  have hwhole : system.Along (fun state _ => inv state) (before ++ later) :=
    hinv.along (fun _ _ hstate => hstate) _
  exact ((system.alongFrom_append _ _ before later).mp hwhole).2

/-- Two step properties that agree in the states of an invariant agree along
whole runs. -/
theorem Invariant.along_congr {inv : State → Prop} (hinv : system.Invariant inv)
    {first second : State → Event → Prop}
    (hagree : ∀ state event, inv state → (first state event ↔ second state event))
    (events : List Event) : system.Along first events ↔ system.Along second events := by
  unfold Along
  have hinit := hinv.init
  generalize system.init = state at hinit
  induction events generalizing state with
  | nil => simp [AlongFrom]
  | cons event events ih =>
      exact and_congr (hagree state event hinit) (ih _ (hinv.step state event hinit))

/-- A run whose steps meet `condition` has the property throughout, when a state
predicate gives the property and is kept under that condition. -/
theorem along_of_kept (inv : State → Prop) {condition property : State → Event → Prop}
    (hinit : inv system.init)
    (hstep : ∀ state event, inv state → condition state event →
      property state event ∧ inv (system.step state event))
    {events : List Event} (halong : system.Along condition events) :
    system.Along property events := by
  unfold Along at *
  generalize system.init = state at hinit halong
  induction events generalizing state with
  | nil => trivial
  | cons event events ih =>
      obtain ⟨hcondition, hrest⟩ := halong
      obtain ⟨hproperty, hkept⟩ := hstep state event hinit hcondition
      exact ⟨hproperty, ih _ hkept hrest⟩

/-- Two step properties agree along whole runs when they agree in the states of
a predicate that steps with the property keep. -/
theorem along_congr_of_kept (inv : State → Prop) {first second : State → Event → Prop}
    (hinit : inv system.init)
    (hagree : ∀ state event, inv state → (first state event ↔ second state event))
    (hkept : ∀ state event, inv state → first state event → inv (system.step state event))
    (events : List Event) : system.Along first events ↔ system.Along second events := by
  unfold Along
  generalize system.init = state at hinit
  induction events generalizing state with
  | nil => exact Iff.rfl
  | cons event events ih =>
      rw [AlongFrom, AlongFrom, ← hagree state event hinit]
      apply and_congr_right
      intro hfirst
      exact ih _ (hkept state event hinit hfirst)

theorem AlongFrom.imp {first second : State → Event → Prop}
    (himp : ∀ state event, first state event → second state event) {state : State}
    {events : List Event} (halong : system.AlongFrom first state events) :
    system.AlongFrom second state events := by
  induction events generalizing state with
  | nil => trivial
  | cons event events ih => exact ⟨himp state event halong.1, ih halong.2⟩

theorem AlongFrom.and {first second : State → Event → Prop} {state : State} {events : List Event}
    (hfirst : system.AlongFrom first state events)
    (hsecond : system.AlongFrom second state events) :
    system.AlongFrom (fun state event => first state event ∧ second state event) state events := by
  induction events generalizing state with
  | nil => trivial
  | cons event events ih => exact ⟨⟨hfirst.1, hsecond.1⟩, ih hfirst.2 hsecond.2⟩

/-- What steps under a condition keep holds at the end of a run of such steps. -/
theorem AlongFrom.kept (inv : State → Prop) {condition : State → Event → Prop}
    (hstep : ∀ state event, inv state → condition state event → inv (system.step state event))
    {state : State} (hstate : inv state) {events : List Event}
    (halong : system.AlongFrom condition state events) : inv (system.runFrom state events) := by
  induction events generalizing state with
  | nil => exact hstate
  | cons event events ih => exact ih (hstep state event hstate halong.1) halong.2

/-! ## Two systems in step -/

section Follows

variable {State' : Type*} {system' : System State' Event} {f : State → State'}

/-- `system'` does to the images what `system` does to the states. -/
def Follows (system : System State Event) (system' : System State' Event) (f : State → State') :
    Prop :=
  ∀ state event, f (system.step state event) = system'.step (f state) event

theorem Follows.runFrom (hfollows : system.Follows system' f) (state : State)
    (events : List Event) :
    f (system.runFrom state events) = system'.runFrom (f state) events := by
  induction events generalizing state with
  | nil => rfl
  | cons event events ih => rw [runFrom_cons, runFrom_cons, ih, hfollows]

theorem Follows.alongFrom (hfollows : system.Follows system' f)
    (property : State' → Event → Prop) (state : State) (events : List Event) :
    system'.AlongFrom property (f state) events ↔
      system.AlongFrom (fun state event => property (f state) event) state events := by
  induction events generalizing state with
  | nil => exact Iff.rfl
  | cons event events ih => rw [AlongFrom, AlongFrom, ← hfollows, ih]

end Follows

end System

end Transition
