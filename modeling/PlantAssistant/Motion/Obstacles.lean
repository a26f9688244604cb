import PlantAssistant.Motion.StartDelay

/-! # The obstacle machine

What `Finding_obs` keeps between its calls, and all that one execution of its
switch can do to it. The rest of the sport mode leaves it alone.
-/

namespace PlantAssistant.Motion

open Transition PlantAssistant.Firmware

variable {F : Type}

/-- The static variables of `Finding_obs`, with the copy of its state that is
shown. -/
structure Avoidance (F : Type) where
  modestate : ℕ
  mystate : ℕ
  timeCntobs : ℕ
  yawTemprary : F
  yawTemprary1 : F
  yawTemprary2 : F
deriving DecidableEq, Repr

def avoidance (s : Car F) : Avoidance F where
  modestate := s.modestate
  mystate := s.mystate
  timeCntobs := s.timeCntobs
  yawTemprary := s.yawTemprary
  yawTemprary1 := s.yawTemprary1
  yawTemprary2 := s.yawTemprary2

/-- The arm and the search for light leave alone what `Finding_obs` reads, the
controllers of the wheels apart. -/
structure KeepsObstacles (s t : Car F) : Prop where
  avoidance : avoidance t = avoidance s
  motorFlag : t.motorFlag = s.motorFlag
  distance : t.distance = s.distance
  yaw : t.yaw = s.yaw
  milleage1 : t.milleage1 = s.milleage1
  milleage2 : t.milleage2 = s.milleage2
  pidTrun : t.motors.pidTrun = s.motors.pidTrun

theorem KeepsObstacles.trans {s t u : Car F} (hfirst : KeepsObstacles s t)
    (hsecond : KeepsObstacles t u) : KeepsObstacles s u :=
  ⟨hsecond.1.trans hfirst.1, hsecond.2.trans hfirst.2, hsecond.3.trans hfirst.3,
    hsecond.4.trans hfirst.4, hsecond.5.trans hfirst.5, hsecond.6.trans hfirst.6,
    hsecond.7.trans hfirst.7⟩

/-- The heading that the states 1, 3, 5, 7 and 9 turn to. -/
def Avoidance.turnHeading (a : Avoidance F) : Option F :=
  match a.modestate with
  | 1 => some a.yawTemprary
  | 3 => some a.yawTemprary1
  | 5 => some a.yawTemprary2
  | 7 => some a.yawTemprary1
  | 9 => some a.yawTemprary2
  | _ => none

theorem turnHeading_cases {a : Avoidance F} {heading : F}
    (hheading : a.turnHeading = some heading) :
    a.modestate = 1 ∧ heading = a.yawTemprary ∨ a.modestate = 3 ∧ heading = a.yawTemprary1 ∨
      a.modestate = 5 ∧ heading = a.yawTemprary2 ∨ a.modestate = 7 ∧ heading = a.yawTemprary1 ∨
      a.modestate = 9 ∧ heading = a.yawTemprary2 := by
  unfold Avoidance.turnHeading at hheading
  split at hheading <;> simp_all

variable [CFloat F]

/-- What the states 2, 4, 6, 8 and 10 go on with when the way stays blocked. -/
def Avoidance.blocked (a : Avoidance F) : Option (Avoidance F) :=
  match a.modestate with
  | 2 =>
      some
        { a with
          yawTemprary1 := a.yawTemprary + CFloat.lit 60
          modestate := 3
          mystate := 3 }
  | 4 =>
      some
        { a with
          yawTemprary2 := a.yawTemprary - CFloat.lit 60
          modestate := 5
          mystate := 5 }
  | 6 =>
      some
        { a with
          yawTemprary1 := a.yawTemprary + CFloat.lit 90
          modestate := 7
          mystate := 7 }
  | 8 =>
      some
        { a with
          yawTemprary2 := a.yawTemprary - CFloat.lit 90
          modestate := 9
          mystate := 9 }
  | 10 =>
      some
        { a with
          yawTemprary2 := a.yawTemprary - CFloat.lit 90
          modestate := 0
          mystate := 0 }
  | _ => none

/-- What `Yaw_change` makes of a heading. -/
def changeHeading (heading : F) : F :=
  let heading := if CFloat.lit 180 < heading then heading - CFloat.lit 360 else heading
  if ¬ CFloat.lit (-180) < heading then heading + CFloat.lit 360 else heading

/-- The test that ends a turn. -/
def Reached (yaw heading : F) : Prop :=
  CFloat.fabs (yaw - changeHeading heading) < CFloat.lit 5

/-- The counter after another call. -/
def Avoidance.counted (a : Avoidance F) : Avoidance F :=
  { a with timeCntobs := (a.timeCntobs + 1) % 2 ^ 16 }

/-- What one execution of the switch makes of the machine. -/
inductive ObsStep (a : Avoidance F) (distance : ℕ) (yaw : F) : Avoidance F → Prop where
  | clear : a.modestate = 0 → 400 < distance →
      ObsStep a distance yaw { a with timeCntobs := 0 }
  | watch : a.modestate = 0 → distance ≤ 400 → a.counted.timeCntobs < 50 →
      ObsStep a distance yaw a.counted
  | found : a.modestate = 0 → distance ≤ 400 → 50 ≤ a.counted.timeCntobs →
      ObsStep a distance yaw
        { a.counted with yawTemprary := yaw + CFloat.lit 180, modestate := 1, mystate := 1 }
  | turning (heading : F) : a.turnHeading = some heading → ¬ Reached yaw heading →
      ObsStep a distance yaw { a with timeCntobs := 0 }
  | turned (heading : F) : a.turnHeading = some heading → Reached yaw heading →
      ObsStep a distance yaw
        { a with timeCntobs := 0, modestate := a.modestate + 1, mystate := a.modestate + 1 }
  | standing (next : Avoidance F) : a.counted.blocked = some next →
      a.counted.timeCntobs < 100 → ObsStep a distance yaw a.counted
  | free (next : Avoidance F) : a.counted.blocked = some next → 100 ≤ a.counted.timeCntobs →
      400 < distance → ObsStep a distance yaw { a.counted with modestate := 11, mystate := 11 }
  | blocked (next : Avoidance F) : a.counted.blocked = some next →
      100 ≤ a.counted.timeCntobs → distance ≤ 400 → ObsStep a distance yaw next
  | depart : a.modestate = 11 →
      ObsStep a distance yaw { a with yawTemprary := yaw, modestate := 12, mystate := 12 }
  | driving : a.modestate = 12 → ObsStep a distance yaw a
  | arrived : a.modestate = 12 →
      ObsStep a distance yaw { a with timeCntobs := 0, modestate := 0, mystate := 0 }
  | other : 12 < a.modestate → ObsStep a distance yaw a

theorem blocked_cases {a next : Avoidance F} (hnext : a.blocked = some next) :
    a.modestate = 2 ∧ next =
        { a with yawTemprary1 := a.yawTemprary + CFloat.lit 60, modestate := 3, mystate := 3 } ∨
      a.modestate = 4 ∧ next =
        { a with yawTemprary2 := a.yawTemprary - CFloat.lit 60, modestate := 5, mystate := 5 } ∨
      a.modestate = 6 ∧ next =
        { a with yawTemprary1 := a.yawTemprary + CFloat.lit 90, modestate := 7, mystate := 7 } ∨
      a.modestate = 8 ∧ next =
        { a with yawTemprary2 := a.yawTemprary - CFloat.lit 90, modestate := 9, mystate := 9 } ∨
      a.modestate = 10 ∧ next =
        { a with yawTemprary2 := a.yawTemprary - CFloat.lit 90, modestate := 0, mystate := 0 } := by
  unfold Avoidance.blocked at hnext
  split at hnext <;> simp_all

/-- The stop states. -/
def stopStates : List ℕ := [2, 4, 6, 8, 10]

/-! ## The cases of the switch -/

theorem obsStep_obsWatch {s : Car F} (hstate : s.modestate = 0) :
    ObsStep (avoidance s) s.distance s.yaw (avoidance s.obsWatch) := by
  unfold Car.obsWatch
  by_cases hfar : 400 < s.distance
  · have hnear : ¬ s.distance ≤ 400 := by omega
    simp only [if_pos hfar, if_neg hnear]
    exact .clear hstate hfar
  · have hnear : s.distance ≤ 400 := by omega
    simp only [if_neg hfar, if_pos hnear]
    split
    next hlong => exact .found hstate hnear hlong
    next hshort => exact .watch hstate hnear (not_le.mp hshort)

theorem pidTrun_yawChange (branch : Branch) (heading yaw : F) (speed1 speed2 : ℤ)
    (m : Motors F) :
    (m.yawChange branch heading yaw speed1 speed2).pidTrun =
      { m.pidTrun with target := changeHeading heading }.pOut
        (Motors.readYaw (changeHeading heading) yaw) := by
  simp only [Motors.yawChange, Motors.carTurn, Mypid.pOutMax_eq_pOut]
  rfl

theorem motors_obsTurn (modestate : ℕ) (heading : F) (s : Car F) :
    (s.obsTurn modestate heading).motors =
      s.motors.yawChange (.findingObs modestate) heading s.yaw s.encoderSpeed1
        s.encoderSpeed2 := by
  unfold Car.obsTurn
  dsimp only
  split <;> rfl

/-- A turn is one call of `Yaw_change`. -/
theorem motors_of_turn {t : Car F} {heading : F}
    (hheading : (avoidance t).turnHeading = some heading) :
    t.findingObsCase.motors =
      t.motors.yawChange (.findingObs t.modestate) heading t.yaw t.encoderSpeed1
        t.encoderSpeed2 := by
  unfold Car.findingObsCase
  obtain ⟨hstate, rfl⟩ | ⟨hstate, rfl⟩ | ⟨hstate, rfl⟩ | ⟨hstate, rfl⟩ | ⟨hstate, rfl⟩ :=
    turnHeading_cases hheading
  all_goals
    change t.modestate = _ at hstate
    rw [hstate]
    exact motors_obsTurn _ _ t

theorem obsStep_obsTurn {s : Car F} {modestate : ℕ} {heading : F}
    (hstate : s.modestate = modestate) (hheading : (avoidance s).turnHeading = some heading) :
    ObsStep (avoidance s) s.distance s.yaw (avoidance (s.obsTurn modestate heading)) := by
  subst hstate
  unfold Car.obsTurn
  simp only [pidTrun_yawChange]
  split
  next hreached => exact .turned heading hheading hreached
  next hreached => exact .turning heading hheading hreached

theorem obsStep_obsStop {s : Car F} {modestate : ℕ} {blocked : Car F → Car F}
    (hstate : s.modestate = modestate)
    (hblocked : ∀ t : Car F, t.modestate = modestate →
      (avoidance t).blocked = some (avoidance (blocked t))) :
    ObsStep (avoidance s) s.distance s.yaw (avoidance (s.obsStop modestate blocked)) := by
  have hnext := hblocked
    { s.setCCR (.findingObs modestate) 0 0 with timeCntobs := (s.timeCntobs + 1) % 2 ^ 16 } hstate
  unfold Car.obsStop
  dsimp only
  split
  next hlong =>
    split
    next hfar => exact .free _ hnext hlong hfar
    next hnear => exact .blocked _ hnext hlong (not_lt.mp hnear)
  next hshort => exact .standing _ hnext (not_le.mp hshort)

theorem obsStep_obsLeg {s : Car F} (hstate : s.modestate = 12) :
    ObsStep (avoidance s) s.distance s.yaw (avoidance s.obsLeg) := by
  unfold Car.obsLeg
  dsimp only
  split
  · exact .driving hstate
  · exact .arrived hstate

theorem obsStep_findingObsCase (s : Car F) :
    ObsStep (avoidance s) s.distance s.yaw (avoidance s.findingObsCase) := by
  unfold Car.findingObsCase
  split
  case h_1 hstate => exact obsStep_obsWatch hstate
  case h_2 hstate | h_4 hstate | h_6 hstate | h_8 hstate | h_10 hstate =>
    apply obsStep_obsTurn hstate
    simp only [Avoidance.turnHeading, avoidance, hstate]
  case h_3 hstate | h_5 hstate | h_7 hstate | h_9 hstate | h_11 hstate =>
    apply obsStep_obsStop hstate
    intro t hstate
    simp only [Avoidance.blocked, avoidance, hstate]
  case h_12 hstate => exact .depart hstate
  case h_13 hstate => exact obsStep_obsLeg hstate
  case h_14 =>
    apply ObsStep.other
    change 12 < s.modestate
    grind

/-! ## A call comes to the switch, or leaves the machine alone -/

/-- The next call executes the switch. -/
def Executing (s : Car F) : Prop := s.motorFlag = 1 ∧ Call.findingObs ∈ calls s

instance (s : Car F) : Decidable (Executing s) := inferInstanceAs (Decidable (_ ∧ _))

theorem keepsObstacles_plantleafIns (s : Car F) : KeepsObstacles s s.plantleafIns := by
  unfold Car.plantleafIns
  dsimp only
  split_ifs <;> exact ⟨rfl, rfl, rfl, rfl, rfl, rfl, rfl⟩

theorem keepsObstacles_findingLight (s : Car F) : KeepsObstacles s s.findingLight := by
  have hcase : KeepsObstacles s s.findingLightCase := by
    unfold Car.findingLightCase
    dsimp only
    split <;> try split_ifs
    all_goals exact ⟨rfl, rfl, rfl, rfl, rfl, rfl, rfl⟩
  obtain ⟨-, hlight⟩ | ⟨-, hlight⟩ | ⟨-, -, hlight⟩ := findingLight_guards s <;> rw [hlight]
  · exact hcase
  · exact ⟨rfl, rfl, rfl, rfl, rfl, rfl, rfl⟩
  · exact ⟨rfl, rfl, rfl, rfl, rfl, rfl, rfl⟩

theorem tick_obstacles {s : Car F} (hmode : InMode s) :
    ∃ t, KeepsObstacles s t ∧
      tick s = if Call.findingObs ∈ calls s then t.findingObs else t :=
  tick_of_keeps KeepsObstacles KeepsObstacles.trans (fun _ => ⟨rfl, rfl, rfl, rfl, rfl, rfl, rfl⟩)
    keepsObstacles_plantleafIns keepsObstacles_findingLight hmode

theorem tick_of_executing {s : Car F} (hmode : InMode s) (hexecuting : Executing s) :
    ∃ t, KeepsObstacles s t ∧ tick s = t.findingObsCase := by
  obtain ⟨hon, hcall⟩ := hexecuting
  obtain ⟨t, hkeeps, htick⟩ := tick_obstacles hmode
  rw [if_pos hcall, findingObs_guards.on (hkeeps.motorFlag.trans hon)] at htick
  exact ⟨t, hkeeps, htick⟩

theorem obsStep_tick {s : Car F} (hmode : InMode s) (hexecuting : Executing s) :
    ObsStep (avoidance s) s.distance s.yaw (avoidance (tick s)) := by
  obtain ⟨t, hkeeps, htick⟩ := tick_of_executing hmode hexecuting
  rw [htick, ← hkeeps.avoidance, ← hkeeps.distance, ← hkeeps.yaw]
  exact obsStep_findingObsCase t

/-- The sensors are only read. -/
theorem yaw_findingObsCase (t : Car F) : t.findingObsCase.yaw = t.yaw := by
  have hstop : ∀ (modestate : ℕ) (blocked : Car F → Car F), (∀ t, (blocked t).yaw = t.yaw) →
      (t.obsStop modestate blocked).yaw = t.yaw := by
    intro modestate blocked hblocked
    unfold Car.obsStop
    dsimp only
    split_ifs
    · rfl
    · exact hblocked _
    · rfl
  unfold Car.findingObsCase
  split
  case h_1 =>
    unfold Car.obsWatch
    dsimp only
    split_ifs <;> rfl
  case h_2 | h_4 | h_6 | h_8 | h_10 =>
    unfold Car.obsTurn
    dsimp only
    split <;> rfl
  case h_3 | h_5 | h_7 | h_9 | h_11 =>
    apply hstop
    exact fun t => rfl
  case h_13 =>
    unfold Car.obsLeg
    dsimp only
    split <;> rfl
  case h_12 | h_14 => rfl

theorem yaw_tick {s : Car F} (hmode : InMode s) : (tick s).yaw = s.yaw := by
  obtain ⟨t, hkeeps, htick⟩ := tick_obstacles hmode
  rw [htick, ← hkeeps.yaw]
  split
  · obtain ⟨-, hobs⟩ | ⟨-, hobs⟩ | ⟨-, -, hobs⟩ := findingObs_guards t <;> rw [hobs]
    · exact yaw_findingObsCase t
    · rfl
  · rfl

/-- A call with the switch suspended. -/
theorem avoidance_tick {s : Car F} (hmode : InMode s) (hexecuting : ¬ Executing s) :
    avoidance (tick s) = avoidance s := by
  obtain ⟨t, hkeeps, htick⟩ := tick_obstacles hmode
  rw [htick, ← hkeeps.avoidance]
  split
  next hcall =>
    obtain ⟨hon, -⟩ | ⟨-, hobs⟩ | ⟨-, -, hobs⟩ := findingObs_guards t
    · exact absurd ⟨hkeeps.motorFlag ▸ hon, hcall⟩ hexecuting
    · rw [hobs]
      rfl
    · rw [hobs]
  next => rfl

/-- The event is a call that executes the switch. -/
def Executed (s : Car F) (event : CarEvent F) : Prop := isTick event = true ∧ Executing s

instance (s : Car F) (event : CarEvent F) : Decidable (Executed s event) :=
  inferInstanceAs (Decidable (_ ∧ _))

theorem Executed.eq_tick {s : Car F} {event : CarEvent F} (hexecuted : Executed s event) :
    event = .tick := by
  cases event with
  | tick => rfl
  | plantSoft | maixcam | distance | yaw | encoder => cases hexecuted.1

/-- An event that executes the switch moves the machine by one step; any other
leaves it alone. -/
theorem carStep_obstacles {s : Car F} (hmode : InMode s) (event : CarEvent F) :
    Executed s event ∧
        ObsStep (avoidance s) s.distance s.yaw (avoidance (carStep s event)) ∨
      ¬ Executed s event ∧ avoidance (carStep s event) = avoidance s := by
  cases event with
  | tick =>
      by_cases hexecuting : Executing s
      · exact .inl ⟨⟨rfl, hexecuting⟩, obsStep_tick hmode hexecuting⟩
      · exact .inr ⟨fun hexecuted => hexecuting hexecuted.2, avoidance_tick hmode hexecuting⟩
  | plantSoft | maixcam | distance | yaw | encoder => exact .inr ⟨nofun, rfl⟩

end PlantAssistant.Motion
