import PlantAssistant.Motion.Sport

/-! # The emergency stop

A stop command clears `Motor_flag`, which both state machines answer with zero
duties. In mode 2 neither of them is called while the start delay runs, unless
the search for light is over, and every mode command starts the delay anew.
-/

namespace PlantAssistant.Motion

open Transition PlantAssistant.Firmware

variable {F : Type}

/-- Both compare values are zero. -/
def Stopped (s : Car F) : Prop := s.motors.ccr1 = 0 ∧ s.motors.ccr2 = 0

/-- The next call reaches neither state machine of the wheels. -/
def HeldOff (s : Car F) : Prop :=
  s.maixModeFlag = 2 ∧ (s.starttimeCnt + 1) % 2 ^ 16 < 300 ∧ s.modestateLight ≠ 5

instance (s : Car F) : Decidable (Stopped s) := inferInstanceAs (Decidable (_ ∧ _))

theorem stopped_congr {s t : Car F} (hccr1 : t.motors.ccr1 = s.motors.ccr1)
    (hccr2 : t.motors.ccr2 = s.motors.ccr2) : Stopped t ↔ Stopped s := by
  rw [Stopped, Stopped, hccr1, hccr2]

theorem stopped_setCCR (branch : Branch) (s : Car F) : Stopped (s.setCCR branch 0 0) :=
  ⟨rfl, rfl⟩

theorem Guards.stopped {machine call : Car F → Car F} (hguards : Guards machine call) {s : Car F}
    (hoff : s.motorFlag = 0) : Stopped (call s) := by
  rw [hguards.off hoff]
  exact stopped_setCCR _ s

variable [CFloat F]

theorem maixCamSport_heldOff {s : Car F} (hheld : HeldOff s) :
    s.maixCamSport = s.countStarttime := by
  obtain ⟨hmode, hdelay, hlight⟩ := hheld
  have hsearched : searched s = s.countStarttime := if_neg (by omega)
  rw [maixCamSport_mode2 hmode, hsearched]
  exact if_neg hlight

/-- Outside the start delay a call with `Motor_flag` zero stops the wheels. -/
theorem maixCamSport_off {s : Car F} (hmode : InMode s) (hoff : s.motorFlag = 0)
    (hheld : ¬ HeldOff s) : Stopped s.maixCamSport := by
  rcases hmode with hmode | hmode
  · rw [maixCamSport_mode1 hmode]
    exact findingObs_guards.stopped ((keepsWheels_inspected s).motorFlag.trans hoff)
  · rw [maixCamSport_mode2 hmode]
    unfold searched
    by_cases hdelay : 300 ≤ (s.starttimeCnt + 1) % 2 ^ 16
    · rw [if_pos hdelay]
      split
      · have hkeeps := keepsArm_findingLight s.countStarttime
        exact findingObs_guards.stopped (hkeeps.motorFlag.trans hoff)
      · exact findingLight_guards.stopped hoff
    · rw [if_neg hdelay]
      have hlight : s.countStarttime.modestateLight = 5 := by
        by_contra hlight
        exact hheld ⟨hmode, by omega, hlight⟩
      rw [if_pos hlight]
      exact findingObs_guards.stopped hoff

theorem stopped_tick_iff {s : Car F} (hmode : InMode s) (hoff : s.motorFlag = 0) :
    Stopped (tick s) ↔ ¬ HeldOff s ∨ Stopped s := by
  by_cases hheld : HeldOff s
  · have htick : tick s = (cleared s).countStarttime := maixCamSport_heldOff (s := cleared s) hheld
    rw [htick]
    simp only [hheld, not_true_eq_false, false_or]
    exact stopped_congr rfl rfl
  · have hstopped : Stopped (tick s) := maixCamSport_off (s := cleared s) hmode hoff hheld
    exact iff_of_true hstopped (.inl hheld)

/-- Every call with `Motor_flag` zero leaves the wheels stopped. -/
def StopObeyed (s : Car F) (event : CarEvent F) : Prop :=
  event = .tick → s.motorFlag = 0 → Stopped (carStep s event)

/-- Calls with `Motor_flag` zero are not held off, or find the wheels stopped. -/
def StopReached (s : Car F) (event : CarEvent F) : Prop :=
  event = .tick → s.motorFlag = 0 → ¬ HeldOff s ∨ Stopped s

/-- The emergency stop is obeyed throughout a run if and only if no call with
`Motor_flag` zero is held off by the start delay while the wheels turn. -/
theorem stop_obeyed_iff (events : List (CarEvent F)) :
    (carSystem F).Along StopObeyed events ↔ (carSystem F).Along StopReached events := by
  refine carSystem_inMode.along_congr (fun s event hmode => ?_) events
  refine forall_congr' fun htick => forall_congr' fun hoff => ?_
  rw [htick]
  exact stopped_tick_iff hmode hoff

/-- A frame in a buffer of its own, handed to the handler. -/
def command (frame : List UInt8) : CarEvent F :=
  .plantSoft (fun k => frame.getD k 0) frame.length

/-- Mode 1 with something in front of the car, until it turns away from it. -/
def turningAway : List (CarEvent ℚ) :=
  command [0xAA, 0x10, 0x01, 0x55] :: List.replicate 51 .tick

/-- While the car turns, the panel selects mode 2 and then stops it. -/
theorem stop_ignored_after_mode_command :
    ¬ (carSystem ℚ).Along StopObeyed
      (turningAway ++ [command [0xAA, 0x10, 0x02, 0x55], command [0xAA, 0x40, 0x01, 0x55]] ++
        [.tick]) := by
  intro halong
  have hstopped := System.Along.last (carSystem ℚ) halong rfl (by decide +kernel)
  revert hstopped
  decide +kernel

end PlantAssistant.Motion
