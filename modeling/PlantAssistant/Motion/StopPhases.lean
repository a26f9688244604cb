import PlantAssistant.Motion.Obstacles

/-! # The stop phases

The states 2, 4, 6, 8 and 10 stand still for a hundred executions of the switch.
The turn before each of them has left the shared counter at zero, however often
stops and other modes suspended it.
-/

namespace PlantAssistant.Motion

open Transition PlantAssistant.Firmware

variable {F : Type}

/-- The car, and how often the switch was executed since its state was last
entered. -/
structure Visit (F : Type) where
  car : Car F
  stood : ℕ

theorem motors_obsStop (modestate : ℕ) {blocked : Car F → Car F}
    (hblocked : ∀ t, (blocked t).motors = t.motors) (s : Car F) :
    (s.obsStop modestate blocked).motors =
      s.motors.motorSetCCR (.findingObs modestate) 0 0 := by
  unfold Car.obsStop
  dsimp only
  split_ifs
  · rfl
  · exact hblocked _
  · rfl

/-- In a stop state the counter is the number of executions so far. -/
structure VisitInv (v : Visit F) : Prop where
  inMode : InMode v.car
  shown : v.car.mystate = v.car.modestate
  counts : v.car.modestate ∈ stopStates → v.car.timeCntobs = v.stood ∧ v.stood < 100

theorem counted_of_stop {v : Visit F} (hinv : VisitInv v) (hstop : v.car.modestate ∈ stopStates) :
    (avoidance v.car).counted.timeCntobs = v.stood + 1 := by
  obtain ⟨hcount, hshort⟩ := hinv.counts hstop
  change (v.car.timeCntobs + 1) % 2 ^ 16 = v.stood + 1
  omega

variable [CFloat F]

def visitStep (v : Visit F) (event : CarEvent F) : Visit F where
  car := carStep v.car event
  stood :=
    if Executed v.car event then
      if (carStep v.car event).modestate = v.car.modestate then v.stood + 1 else 0
    else v.stood

def visitSystem (F : Type) [CFloat F] : System (Visit F) (CarEvent F) where
  init := ⟨Car.init, 0⟩
  step := visitStep

/-- An execution in a stop state commands both motors to zero, and is the last of
the visit exactly if it is the hundredth. Without an execution the machine
stands still, and its state is shown after every event. -/
structure StopPhase (v : Visit F) (event : CarEvent F) : Prop where
  commands : Executed v.car event → v.car.modestate ∈ stopStates →
    ∃ t : Car F, (carStep v.car event).motors =
      t.motors.motorSetCCR (.findingObs v.car.modestate) 0 0
  dwell : v.car.modestate ∈ stopStates →
    ((carStep v.car event).modestate ≠ v.car.modestate ↔
      Executed v.car event ∧ v.stood + 1 = 100)
  suspended : ¬ Executed v.car event → avoidance (carStep v.car event) = avoidance v.car
  shown : (carStep v.car event).mystate = (carStep v.car event).modestate

/-! ## One execution -/

theorem ObsStep.shown {a b : Avoidance F} {distance : ℕ} {yaw : F}
    (hstep : ObsStep a distance yaw b) (hshown : a.mystate = a.modestate) :
    b.mystate = b.modestate := by
  cases hstep with
  | clear | watch | turning | standing | driving | other => exact hshown
  | found | turned | free | depart | arrived => rfl
  | blocked _ hnext =>
      obtain ⟨-, rfl⟩ | ⟨-, rfl⟩ | ⟨-, rfl⟩ | ⟨-, rfl⟩ | ⟨-, rfl⟩ := blocked_cases hnext <;> rfl

/-- An execution in a stop state counts, and leaves it from the hundredth on. -/
theorem ObsStep.of_stop {a b : Avoidance F} {distance : ℕ} {yaw : F}
    (hstep : ObsStep a distance yaw b) (hstop : a.modestate ∈ stopStates) :
    b.timeCntobs = a.counted.timeCntobs ∧
      (b.modestate ≠ a.modestate ↔ 100 ≤ a.counted.timeCntobs) := by
  simp only [stopStates, List.mem_cons, List.not_mem_nil, or_false] at hstop
  cases hstep with
  | clear hstate | watch hstate | found hstate | depart hstate | driving hstate
  | arrived hstate | other hstate => omega
  | turning _ hheading | turned _ hheading =>
      have hstate := turnHeading_cases hheading
      omega
  | standing _ _ hshort =>
      refine ⟨rfl, ?_⟩
      have hsame : a.counted.modestate = a.modestate := rfl
      omega
  | free _ _ hlong =>
      refine ⟨rfl, ?_⟩
      change 11 ≠ a.modestate ↔ _
      omega
  | blocked _ hnext hlong =>
      have hsame : a.counted.modestate = a.modestate := rfl
      obtain ⟨hstate, rfl⟩ | ⟨hstate, rfl⟩ | ⟨hstate, rfl⟩ | ⟨hstate, rfl⟩ | ⟨hstate, rfl⟩ :=
        blocked_cases hnext
      all_goals
        refine ⟨rfl, ?_⟩
        dsimp only
        omega

/-- A stop state is entered with the counter at zero. -/
theorem ObsStep.to_stop {a b : Avoidance F} {distance : ℕ} {yaw : F}
    (hstep : ObsStep a distance yaw b) (hstop : b.modestate ∈ stopStates)
    (hentered : b.modestate ≠ a.modestate) : b.timeCntobs = 0 := by
  simp only [stopStates, List.mem_cons, List.not_mem_nil, or_false] at hstop
  cases hstep with
  | clear | watch | turning | standing | driving | other => exact absurd rfl hentered
  | turned => rfl
  | found | free | depart | arrived => simp at hstop
  | blocked _ hnext =>
      obtain ⟨-, rfl⟩ | ⟨-, rfl⟩ | ⟨-, rfl⟩ | ⟨-, rfl⟩ | ⟨-, rfl⟩ := blocked_cases hnext <;>
        simp at hstop

/-- The counter in a stop state. -/
theorem ObsStep.stop_lt {a b : Avoidance F} {distance : ℕ} {yaw : F}
    (hstep : ObsStep a distance yaw b) (hstop : b.modestate ∈ stopStates) :
    b.timeCntobs < 100 := by
  by_cases hstays : b.modestate = a.modestate
  · obtain ⟨hcount, hleaves⟩ := hstep.of_stop (hstays ▸ hstop)
    rw [hcount]
    by_contra hlong
    exact hleaves.mpr (not_lt.mp hlong) hstays
  · rw [hstep.to_stop hstop hstays]
    decide

theorem motors_of_stop {t : Car F} (hstop : t.modestate ∈ stopStates) :
    t.findingObsCase.motors = t.motors.motorSetCCR (.findingObs t.modestate) 0 0 := by
  simp only [stopStates, List.mem_cons, List.not_mem_nil, or_false] at hstop
  unfold Car.findingObsCase
  rcases hstop with hstate | hstate | hstate | hstate | hstate
  all_goals
    rw [hstate]
    apply motors_obsStop
    exact fun t => rfl

/-! ## Runs -/

theorem visitInv_step {v : Visit F} (hinv : VisitInv v) (event : CarEvent F) :
    VisitInv (visitStep v event) := by
  have hmode := carSystem_inMode.step v.car event hinv.inMode
  rcases carStep_obstacles hinv.inMode event with ⟨hexecuted, hstep⟩ | ⟨hnot, hsame⟩
  · refine ⟨hmode, hstep.shown hinv.shown, ?_⟩
    intro hstop
    simp only [visitStep, if_pos hexecuted]
    split
    next hstays =>
      -- the visit goes on
      have hstopped : v.car.modestate ∈ stopStates := hstays ▸ hstop
      have hcount : (carStep v.car event).timeCntobs = v.stood + 1 :=
        (hstep.of_stop hstopped).1.trans (counted_of_stop hinv hstopped)
      have hshort : (carStep v.car event).timeCntobs < 100 := hstep.stop_lt hstop
      exact ⟨hcount, hcount ▸ hshort⟩
    next hentered =>
      exact ⟨hstep.to_stop hstop hentered, Nat.zero_lt_succ _⟩
  · have hstate : (carStep v.car event).modestate = v.car.modestate :=
      congrArg Avoidance.modestate hsame
    have hshown : (carStep v.car event).mystate = v.car.mystate :=
      congrArg Avoidance.mystate hsame
    have hcount : (carStep v.car event).timeCntobs = v.car.timeCntobs :=
      congrArg Avoidance.timeCntobs hsame
    refine ⟨hmode, ?_, ?_⟩
    · exact hshown.trans (hinv.shown.trans hstate.symm)
    · simp only [visitStep, if_neg hnot, hstate, hcount]
      exact hinv.counts

theorem visitInv_invariant : (visitSystem F).Invariant VisitInv where
  init := by
    have hstart : (0 : ℕ) ∉ stopStates := by decide
    exact ⟨.inr rfl, rfl, fun hstop => absurd hstop hstart⟩
  step v event hinv := visitInv_step hinv event

theorem stopPhase_of_inv {v : Visit F} (hinv : VisitInv v) (event : CarEvent F) :
    StopPhase v event := by
  have hnext := (visitInv_step hinv event).shown
  rcases carStep_obstacles hinv.inMode event with ⟨hexecuted, hstep⟩ | ⟨hnot, hsame⟩
  · refine ⟨?_, ?_, fun hnot => absurd hexecuted hnot, hnext⟩
    · intro _ hstop
      obtain rfl := hexecuted.eq_tick
      obtain ⟨t, hkeeps, htick⟩ := tick_of_executing hinv.inMode hexecuted.2
      have hstate : t.modestate = v.car.modestate := congrArg Avoidance.modestate hkeeps.avoidance
      rw [← hstate] at hstop ⊢
      exact ⟨t, (congrArg Car.motors htick).trans (motors_of_stop hstop)⟩
    · intro hstop
      obtain ⟨-, hleaves⟩ := hstep.of_stop hstop
      rw [counted_of_stop hinv hstop] at hleaves
      have hshort := (hinv.counts hstop).2
      refine hleaves.trans ⟨fun hlong => ⟨hexecuted, by omega⟩, fun hlast => ?_⟩
      omega
  · have hstate : (carStep v.car event).modestate = v.car.modestate :=
      congrArg Avoidance.modestate hsame
    refine ⟨fun hexecuted => absurd hexecuted hnot, fun _ => ?_, fun _ => hsame, hnext⟩
    exact ⟨fun hleaves => absurd hstate hleaves, fun hlast => absurd hlast.1 hnot⟩

theorem stop_phases (events : List (CarEvent F)) : (visitSystem F).Along StopPhase events :=
  visitInv_invariant.along (fun _ event hinv => stopPhase_of_inv hinv event) events

end PlantAssistant.Motion
