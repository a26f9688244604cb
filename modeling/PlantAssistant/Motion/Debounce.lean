import PlantAssistant.Motion.StopPhases

/-! # How long an obstacle has to stay

State 0 shares its counter with the stop phases. The ways back into it clear the
counter, except the one at the end of state 10.
-/

namespace PlantAssistant.Motion

open Transition PlantAssistant.Firmware

variable {F : Type}

/-- The car, how many of the last executions were in state 0 with an obstacle
near, and the state of the last execution. -/
structure Watch (F : Type) where
  car : Car F
  watched : ℕ
  last : Option ℕ

/-- The counter of state 0 is the number of those executions, but for the hundred
of state 10. -/
structure WatchInv (w : Watch F) : Prop where
  inMode : InMode w.car
  stop : w.car.modestate ∈ stopStates → w.car.timeCntobs < 100
  fresh : w.last = some 10 → w.watched = 0
  watch : w.car.modestate = 0 →
    if w.last = some 10 then w.car.timeCntobs = 100
    else w.car.timeCntobs = w.watched ∧ w.watched < 50

theorem counted_of_watch {w : Watch F} (hinv : WatchInv w) (hstate : w.car.modestate = 0) :
    (avoidance w.car).counted.timeCntobs =
      if w.last = some 10 then 101 else w.watched + 1 := by
  have hwatch := hinv.watch hstate
  change (w.car.timeCntobs + 1) % 2 ^ 16 = _
  split at hwatch
  next hround =>
    rw [if_pos hround]
    omega
  next hround =>
    rw [if_neg hround]
    omega

variable [CFloat F]

def watchStep (w : Watch F) (event : CarEvent F) : Watch F where
  car := carStep w.car event
  watched :=
    if Executed w.car event then
      if w.car.modestate = 0 ∧ w.car.distance ≤ 400 then w.watched + 1 else 0
    else w.watched
  last := if Executed w.car event then some w.car.modestate else w.last

def watchSystem (F : Type) [CFloat F] : System (Watch F) (CarEvent F) where
  init := ⟨Car.init, 0, none⟩
  step := watchStep

/-- A step from state 0 to state 1 ends fifty executions in state 0 or more, all
with an obstacle near. -/
def Debounced (w : Watch F) (event : CarEvent F) : Prop :=
  w.car.modestate = 0 → (carStep w.car event).modestate = 1 →
    50 ≤ (watchStep w event).watched

/-- The first execution in state 0 after state 10 finds the way free. -/
def FreeAfterRound (w : Watch F) (event : CarEvent F) : Prop :=
  Executed w.car event → w.last = some 10 → w.car.modestate = 0 → 400 < w.car.distance

instance (w : Watch F) (event : CarEvent F) : Decidable (Debounced w event) :=
  inferInstanceAs (Decidable (_ → _ → _))

/-! ## One execution -/

/-- State 0 is left when an obstacle is near and the counter comes to fifty. -/
theorem ObsStep.of_watch {a b : Avoidance F} {distance : ℕ} {yaw : F}
    (hstep : ObsStep a distance yaw b) (hstate : a.modestate = 0) :
    b.modestate = 0 ∧ 400 < distance ∧ b.timeCntobs = 0 ∨
      b.modestate = 0 ∧ distance ≤ 400 ∧ b.timeCntobs = a.counted.timeCntobs ∧
        a.counted.timeCntobs < 50 ∨
      b.modestate = 1 ∧ distance ≤ 400 ∧ 50 ≤ a.counted.timeCntobs := by
  cases hstep with
  | clear _ hfar => exact .inl ⟨hstate, hfar, rfl⟩
  | watch _ hnear hshort => exact .inr (.inl ⟨hstate, hnear, rfl, hshort⟩)
  | found _ hnear hlong => exact .inr (.inr ⟨rfl, hnear, hlong⟩)
  | turning _ hheading | turned _ hheading =>
      have hturn := turnHeading_cases hheading
      omega
  | standing _ hnext | free _ hnext | blocked _ hnext =>
      have hstop := blocked_cases hnext
      have hsame : a.counted.modestate = a.modestate := rfl
      omega
  | depart hother | driving hother | arrived hother | other hother => omega

/-- State 0 is entered from state 10 with its counter, and from state 12 with the
counter at zero. -/
theorem ObsStep.to_watch {a b : Avoidance F} {distance : ℕ} {yaw : F}
    (hstep : ObsStep a distance yaw b) (hstate : b.modestate = 0)
    (hentered : a.modestate ≠ 0) :
    a.modestate = 10 ∧ 100 ≤ a.counted.timeCntobs ∧ b.timeCntobs = a.counted.timeCntobs ∨
      a.modestate = 12 ∧ b.timeCntobs = 0 := by
  cases hstep with
  | clear hother | watch hother | found hother => exact absurd hother hentered
  | turning | standing | driving | other => exact absurd hstate hentered
  | turned | free | depart => simp at hstate
  | arrived h12 => exact .inr ⟨h12, rfl⟩
  | blocked _ hnext hlong =>
      obtain ⟨-, rfl⟩ | ⟨-, rfl⟩ | ⟨-, rfl⟩ | ⟨-, rfl⟩ | ⟨h10, rfl⟩ := blocked_cases hnext
      · simp at hstate
      · simp at hstate
      · simp at hstate
      · simp at hstate
      · exact .inl ⟨h10, hlong, rfl⟩

/-! ## Runs -/

/-- Another execution in state 0 counts on with an obstacle near. -/
theorem WatchInv.again {w : Watch F} (hinv : WatchInv w) {b : Avoidance F}
    (hstep : ObsStep (avoidance w.car) w.car.distance w.car.yaw b)
    (hstate : w.car.modestate = 0) (hstays : b.modestate = 0) :
    b.timeCntobs = (if w.car.distance ≤ 400 then w.watched + 1 else 0) ∧ b.timeCntobs < 50 := by
  have hcounted := counted_of_watch hinv hstate
  rcases hstep.of_watch hstate with
    ⟨-, hfar, hcleared⟩ | ⟨-, hnear, hcount, hshort⟩ | ⟨hleft, -⟩
  · rw [if_neg (not_le.mpr hfar), hcleared]
    exact ⟨rfl, by decide⟩
  · rw [if_pos hnear, hcount]
    split at hcounted
    · omega
    · exact ⟨hcounted, hshort⟩
  · exact absurd (hstays.symm.trans hleft) (by decide)

/-- On the way back the counter is that of the stop of state 10, or zero. -/
theorem WatchInv.entered {w : Watch F} (hinv : WatchInv w) {b : Avoidance F}
    (hstep : ObsStep (avoidance w.car) w.car.distance w.car.yaw b)
    (hstate : w.car.modestate ≠ 0) (hentered : b.modestate = 0) :
    w.car.modestate = 10 ∧ b.timeCntobs = 100 ∨ w.car.modestate ≠ 10 ∧ b.timeCntobs = 0 := by
  rcases hstep.to_watch hentered hstate with ⟨h10, hlong, hcount⟩ | ⟨h12, hcleared⟩
  · replace h10 : w.car.modestate = 10 := h10
    have hshort : w.car.timeCntobs < 100 := by
      apply hinv.stop
      rw [h10]
      decide
    change 100 ≤ (w.car.timeCntobs + 1) % 2 ^ 16 at hlong
    change b.timeCntobs = (w.car.timeCntobs + 1) % 2 ^ 16 at hcount
    exact .inl ⟨h10, by omega⟩
  · replace h12 : w.car.modestate = 12 := h12
    exact .inr ⟨by omega, hcleared⟩

theorem watchInv_step {w : Watch F} (hinv : WatchInv w) (event : CarEvent F) :
    WatchInv (watchStep w event) := by
  have hmode := carSystem_inMode.step w.car event hinv.inMode
  rcases carStep_obstacles hinv.inMode event with ⟨hexecuted, hstep⟩ | ⟨hnot, hsame⟩
  · refine ⟨hmode, hstep.stop_lt, ?_, ?_⟩
    · intro hround
      simp only [watchStep, if_pos hexecuted, Option.some.injEq] at hround ⊢
      exact if_neg (by omega)
    · intro hwatching
      simp only [watchStep, if_pos hexecuted, Option.some.injEq]
      by_cases hstate : w.car.modestate = 0
      · have hround : w.car.modestate ≠ 10 := by omega
        obtain ⟨hcount, hshort⟩ := hinv.again hstep hstate hwatching
        rw [if_neg hround]
        simp only [hstate, true_and]
        exact ⟨hcount, hcount ▸ hshort⟩
      · have hwatched : ¬ (w.car.modestate = 0 ∧ w.car.distance ≤ 400) :=
          fun hwatched => hstate hwatched.1
        rw [if_neg hwatched]
        rcases hinv.entered hstep hstate hwatching with ⟨hround, hcount⟩ | ⟨hother, hcount⟩
        · rw [if_pos hround]
          exact hcount
        · rw [if_neg hother]
          exact ⟨hcount, by decide⟩
  · have hstate : (carStep w.car event).modestate = w.car.modestate :=
      congrArg Avoidance.modestate hsame
    have hcount : (carStep w.car event).timeCntobs = w.car.timeCntobs :=
      congrArg Avoidance.timeCntobs hsame
    have hkept : watchStep w event = { w with car := carStep w.car event } := by
      simp only [watchStep, if_neg hnot]
    rw [hkept]
    refine ⟨hmode, ?_, hinv.fresh, ?_⟩
    · simp only [hstate, hcount]
      exact hinv.stop
    · simp only [hstate, hcount]
      exact hinv.watch

theorem watchInv_invariant : (watchSystem F).Invariant WatchInv where
  init := by
    have hstart : (0 : ℕ) ∉ stopStates := by decide
    exact ⟨.inr rfl, fun hstop => absurd hstop hstart, fun _ => rfl,
      fun _ => ⟨rfl, Nat.zero_lt_succ _⟩⟩
  step w event hinv := watchInv_step hinv event

theorem debounced_iff_of_inv {w : Watch F} (hinv : WatchInv w) (event : CarEvent F) :
    Debounced w event ↔ FreeAfterRound w event := by
  rcases carStep_obstacles hinv.inMode event with ⟨hexecuted, hstep⟩ | ⟨hnot, hsame⟩
  · unfold Debounced FreeAfterRound
    by_cases hstate : w.car.modestate = 0
    · have hcounted := counted_of_watch hinv hstate
      have hfresh := hinv.fresh
      have hwatched : (watchStep w event).watched =
          if w.car.modestate = 0 ∧ w.car.distance ≤ 400 then w.watched + 1 else 0 :=
        if_pos hexecuted
      rw [hwatched]
      rcases hstep.of_watch hstate with
        ⟨hstays, hfar, -⟩ | ⟨hstays, hnear, -, hshort⟩ | ⟨hleft, hnear, hlong⟩
      · exact ⟨fun _ _ _ _ => hfar, fun _ _ hone => absurd (hstays.symm.trans hone) (by decide)⟩
      · refine ⟨fun _ _ hround _ => ?_, fun _ _ hone => absurd (hstays.symm.trans hone) (by decide)⟩
        rw [if_pos hround] at hcounted
        omega
      · rw [if_pos ⟨hstate, hnear⟩]
        constructor
        · intro hdebounced _ hround _
          have hmany := hdebounced hstate hleft
          rw [hfresh hround] at hmany
          omega
        · intro hfree _ _
          have hround : w.last ≠ some 10 := by
            intro hround
            exact absurd (hfree hexecuted hround hstate) (not_lt.mpr hnear)
          rw [if_neg hround] at hcounted
          omega
    · exact ⟨fun _ _ _ hzero => absurd hzero hstate, fun _ hzero => absurd hzero hstate⟩
  · have hstate : (carStep w.car event).modestate = w.car.modestate :=
      congrArg Avoidance.modestate hsame
    refine ⟨fun _ hexecuted => absurd hexecuted hnot, ?_⟩
    intro _ hzero hone
    omega

/-- An obstacle is debounced throughout a run exactly if every round through the
states finds the way free when it is back in state 0. -/
theorem debounced_iff_free_after_round (events : List (CarEvent F)) :
    (watchSystem F).Along Debounced events ↔ (watchSystem F).Along FreeAfterRound events :=
  watchInv_invariant.along_congr (fun _ event hinv => debounced_iff_of_inv hinv event) events

/-- Mode 1 with an obstacle that is there on every side: after a round of turns
and stops the car is back in state 0, for a single tick. -/
def blockedRound : List (CarEvent ℚ) :=
  command [0xAA, 0x10, 0x01, 0x55] :: List.replicate 50 .tick ++
    ([179, -120, 120, -90, 90] : List ℚ).flatMap
      (fun yaw => .yaw yaw :: List.replicate 101 .tick) ++
    [.tick]

theorem not_debounced_after_round : ¬ (watchSystem ℚ).Along Debounced blockedRound := by
  decide +kernel

end PlantAssistant.Motion
