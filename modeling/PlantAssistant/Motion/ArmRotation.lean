import PlantAssistant.Motion.Sport

/-! # The camera arm never winds up

An inspection turns the arm forward at its 200th step and back at its 900th. It
can be interrupted and asked for anew at any step, and its counter may run past
900 and wrap. The parity of the turns commanded so far is tied to the counter.
-/

namespace PlantAssistant.Motion

open Transition PlantAssistant.Firmware

/-- `BuJinMotor_Circle(1, 1, 100, 1)` and `BuJinMotor_Circle(1, 0, 100, 1)`. -/
def forwardTurn : StepperCommand := ⟨1, 1, 100, 0, 3200, false, false⟩

def backwardTurn : StepperCommand := ⟨1, 0, 100, 0, 3200, false, false⟩

/-- The first `count` commands of the alternation that begins with a forward
turn. -/
def alternating (count : ℕ) : List StepperCommand :=
  (List.range count).map fun k => if k % 2 = 0 then forwardTurn else backwardTurn

/-- The pulses commanded so far, backward ones counted negative. -/
def netPulses (commands : List StepperCommand) : ℤ :=
  (commands.map fun command => if command.dir = 1 then (command.clk : ℤ) else -command.clk).sum

theorem alternating_succ (count : ℕ) :
    alternating (count + 1) =
      alternating count ++ [if count % 2 = 0 then forwardTurn else backwardTurn] := by
  simp [alternating, List.range_succ]

theorem netPulses_append (first second : List StepperCommand) :
    netPulses (first ++ second) = netPulses first + netPulses second := by
  simp [netPulses]

/-- An alternation winds the arm by one turn or not at all. -/
theorem netPulses_alternating (count : ℕ) :
    netPulses (alternating count) = if count % 2 = 0 then 0 else 3200 := by
  induction count with
  | zero => rfl
  | succ count ih =>
      rw [alternating_succ, netPulses_append, ih]
      rcases Nat.mod_two_eq_zero_or_one count with heven | hodd
      · simp [heven, Nat.add_mod, netPulses, forwardTurn]
      · simp [hodd, Nat.add_mod, netPulses, backwardTurn]

variable {F : Type}

/-- The arm is forward exactly between the two steps of an inspection, and an
inspection that is over has left the counter at its end or reset it. -/
structure ArmSound (s : Car F) : Prop where
  alternates : ∃ count, armCommands s = alternating count ∧
    (count % 2 = 1 ↔ 200 ≤ s.timeCnt ∧ s.timeCnt < 900)
  bounded : s.timeCnt < 2 ^ 16
  ended : s.plantleafInsflag = 1 ∨ s.timeCnt = 0 ∨ s.timeCnt = 900

theorem ArmSound.congr {s t : Car F} (hsound : ArmSound s) (hkeeps : KeepsArm s t) :
    ArmSound t where
  alternates := by
    rw [hkeeps.armCommands, hkeeps.timeCnt]
    exact hsound.alternates
  bounded := by
    rw [hkeeps.timeCnt]
    exact hsound.bounded
  ended := by
    rw [hkeeps.plantleafInsflag, hkeeps.timeCnt]
    exact hsound.ended

theorem ArmSound.countStarttime {s : Car F} (hsound : ArmSound s) : ArmSound s.countStarttime :=
  ⟨hsound.alternates, hsound.bounded, hsound.ended⟩

variable [CFloat F]

/-- One step of the inspection. -/
theorem ArmSound.plantleafIns {s : Car F} (hsound : ArmSound s) : ArmSound s.plantleafIns := by
  obtain ⟨⟨count, hcommands, hforward⟩, hbounded, hended⟩ := hsound
  unfold Car.plantleafIns
  dsimp only
  split_ifs with hflag hfirst hturn hback
  · -- the view is pitched
    refine ⟨⟨count, ?_, ?_⟩, Nat.mod_lt _ (by decide), .inl hflag⟩
    · exact (armCommands_append (by simp) rfl).trans hcommands
    · change _ ↔ 200 ≤ (s.timeCnt + 1) % 2 ^ 16 ∧ (s.timeCnt + 1) % 2 ^ 16 < 900
      omega
  · -- the arm was back, and turns forward
    have heven : count % 2 = 0 := by omega
    refine ⟨⟨count + 1, ?_, ?_⟩, Nat.mod_lt _ (by decide), .inl hflag⟩
    · rw [alternating_succ, if_pos heven, ← hcommands]
      simp [armCommands, Car.buJinMotorCircle, Car.emmV5PosControl, forwardTurn]
    · change _ ↔ 200 ≤ (s.timeCnt + 1) % 2 ^ 16 ∧ (s.timeCnt + 1) % 2 ^ 16 < 900
      omega
  · -- the arm was forward, and turns back
    have hodd : count % 2 = 1 := by omega
    refine ⟨⟨count + 1, ?_, ?_⟩, Nat.mod_lt _ (by decide), .inr (.inr hback)⟩
    · rw [alternating_succ, if_neg (by omega), ← hcommands]
      simp [armCommands, Car.buJinMotorCircle, Car.emmV5PosControl, backwardTurn]
    · change _ ↔ 200 ≤ (s.timeCnt + 1) % 2 ^ 16 ∧ (s.timeCnt + 1) % 2 ^ 16 < 900
      omega
  · refine ⟨⟨count, hcommands, ?_⟩, Nat.mod_lt _ (by decide), .inl hflag⟩
    change _ ↔ 200 ≤ (s.timeCnt + 1) % 2 ^ 16 ∧ (s.timeCnt + 1) % 2 ^ 16 < 900
    omega
  · have hback : s.timeCnt = 0 ∨ s.timeCnt = 900 := hended.resolve_left hflag
    refine ⟨⟨count, hcommands, ?_⟩, Nat.two_pow_pos 16, .inr (.inl rfl)⟩
    change _ ↔ 200 ≤ 0 ∧ 0 < 900
    omega

theorem ArmSound.maixCamSport {s : Car F} (hsound : ArmSound s) (hmode : InMode s) :
    ArmSound s.maixCamSport := by
  rcases hmode with hmode | hmode
  · have hinspected : ArmSound (inspected s) := by
      unfold inspected
      split
      · exact hsound.countStarttime.plantleafIns
      · exact hsound.countStarttime
    rw [maixCamSport_mode1 hmode]
    exact hinspected.congr (keepsGlobals_findingObs _).keepsArm
  · have hsearched : ArmSound (searched s) := by
      unfold searched
      split
      · exact hsound.countStarttime.congr (keepsArm_findingLight _)
      · exact hsound.countStarttime
    rw [maixCamSport_mode2 hmode]
    split
    · exact hsearched.congr (keepsGlobals_findingObs _).keepsArm
    · exact hsearched

theorem carSystem_armSound : (carSystem F).Invariant fun s => InMode s ∧ ArmSound s where
  init := ⟨.inr rfl, ⟨0, rfl, by simp [carSystem, Car.init]⟩, Nat.two_pow_pos 16, .inl rfl⟩
  step s event hinv := by
    obtain ⟨hmode, hsound⟩ := hinv
    refine ⟨carSystem_inMode.step s event hmode, ?_⟩
    obtain ⟨halternates, hbounded, hended⟩ := hsound
    cases event with
    | plantSoft data size =>
        -- a mode command can only ask for an inspection
        refine ⟨halternates, hbounded, ?_⟩
        refine plantSoftDataProc_induction
          (P := fun g => g.plantleafInsflag = 1 ∨ s.timeCnt = 0 ∨ s.timeCnt = 900)
          (fun g i hg => ?_) size hended
        rcases plantSoftStep_modes data g i with hkeeps | ⟨-, hone⟩ | ⟨-, hkept⟩
        · rwa [hkeeps.2]
        · exact .inl hone
        · rwa [hkept]
    | maixcam data size =>
        have hkept := (keepsModes_maixcamDataProc data size s.toGlobals).2
        exact ⟨halternates, hbounded, hended.imp_left hkept.trans⟩
    | distance | yaw | encoder => exact ⟨halternates, hbounded, hended⟩
    | tick =>
        exact ArmSound.maixCamSport (s := cleared s)
          ⟨halternates, hbounded, hended⟩ hmode

/-- In every run the commands to the arm's stepper alternate, beginning with a
forward turn, so the arm is commanded to its place or one turn forward of it. -/
theorem arm_alternates (events : List (CarEvent F)) :
    let commands := armCommands ((carSystem F).run events)
    commands = alternating commands.length ∧
      (netPulses commands = 0 ∨ netPulses commands = 3200) := by
  obtain ⟨count, hcommands, -⟩ := (carSystem_armSound.run events).2.alternates
  intro commands
  have hcommands' : commands = alternating count := hcommands
  have hlength : commands.length = count := by
    rw [hcommands']
    simp [alternating]
  rw [hlength]
  refine ⟨hcommands', ?_⟩
  rw [hcommands', netPulses_alternating]
  split
  · exact .inl rfl
  · exact .inr rfl

end PlantAssistant.Motion
