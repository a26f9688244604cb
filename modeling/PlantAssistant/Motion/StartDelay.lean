import PlantAssistant.Motion.EmergencyStop

/-! # The start delay

A call of the sport mode counts, and from 300 on also runs the arm or the search
for light. The counter is sixteen bits wide, so without a mode command the delay
is over for a while and then begins again.
-/

namespace PlantAssistant.Motion

open Transition PlantAssistant.Firmware

variable {F : Type}

/-! ## The functions a call invokes -/

inductive Call where
  | plantleafIns
  | findingLight
  | findingObs
deriving DecidableEq, Repr

/-- The mode and the counter that decide what a call invokes. -/
def delay (g : Globals) : ℕ × ℕ := (g.maixModeFlag, g.starttimeCnt)

/-- A mode command stands at offset `i` of a packet. -/
def ModeCommandAt (data : Memory) (i : ℕ) : Prop :=
  data i = plantSoftpackHead1 ∧ data (i + 1) = plantSoftCmdMaixMode ∧
    (data (i + 2) = 0x01 ∨ data (i + 2) = 0x02) ∧ data (i + 3) = plantSoftpackTail

instance (data : Memory) (i : ℕ) : Decidable (ModeCommandAt data i) :=
  inferInstanceAs (Decidable (_ ∧ _))

/-- The event brings no mode command. -/
def NoModeCommand : CarEvent F → Prop
  | .plantSoft data size => ∀ i < size - 1, ¬ ModeCommandAt data i
  | _ => True

def isTick : CarEvent F → Bool
  | .tick => true
  | _ => false

/-- The number of calls among the events. -/
def ticks (events : List (CarEvent F)) : ℕ := events.countP isTick

/-! ## What keeps the mode and the counter -/

/-- A view of what only mode commands set. -/
def OfModes {τ : Type} (view : Globals → τ) : Prop :=
  ∀ (g : Globals) (waterFlag lightOnOffFlag motorFlag soilPlantType : ℕ)
    (year month day hour minute second : UInt8),
    view
      { g with
        waterFlag := waterFlag
        lightOnOffFlag := lightOnOffFlag
        motorFlag := motorFlag
        soilPlantType := soilPlantType
        year := year
        month := month
        day := day
        hour := hour
        minute := minute
        second := second } = view g

theorem plantSoftMaixMode_other {value : UInt8} (hvalue : ¬ (value = 0x01 ∨ value = 0x02))
    (g : Globals) : plantSoftMaixMode value g = g := by
  rw [not_or] at hvalue
  simp [plantSoftMaixMode, hvalue]

/-- A frame at offset `i` with this command. -/
theorem OfModes.plantSoftStep {τ : Type} {view : Globals → τ} (hview : OfModes view)
    (data : Memory) (i : ℕ) (g : Globals) :
    view (plantSoftStep data g i) =
      view (if ModeCommandAt data i then plantSoftMaixMode (data (i + 2)) g else g) := by
  have htime : view (Firmware.plantSoftStep data g i) =
      view (if data i = plantSoftpackHead1 ∧ data (i + 3) = plantSoftpackTail then
        plantSoftCommand (data (i + 1)) (data (i + 2)) g else g) := by
    unfold Firmware.plantSoftStep
    dsimp only
    split
    · exact hview _ _ _ _ _ _ _ _ _ _ _
    · rfl
  have hcommand : ∀ cmd value, view (plantSoftCommand cmd value g) =
      view (if cmd = plantSoftCmdMaixMode then plantSoftMaixMode value g else g) := by
    intro cmd value
    apply view_plantSoftCommand
    intro g waterFlag lightOnOffFlag motorFlag soilPlantType
    exact hview g waterFlag lightOnOffFlag motorFlag soilPlantType g.year g.month g.day g.hour
      g.minute g.second
  rw [htime]
  by_cases hmode : ModeCommandAt data i
  · obtain ⟨hhead, hcmd, -, htail⟩ := id hmode
    rw [if_pos ⟨hhead, htail⟩, hcommand, if_pos hcmd, if_pos hmode]
  · rw [if_neg hmode]
    split
    next hframe =>
      rw [hcommand]
      split
      next hcmd =>
        rw [plantSoftMaixMode_other]
        exact fun hvalue => hmode ⟨hframe.1, hcmd, hvalue, hframe.2⟩
      next => rfl
    next => rfl

theorem OfModes.foldl_plantSoftStep {τ : Type} {view : Globals → τ} (hview : OfModes view)
    {data : Memory} {offsets : List ℕ} (hmode : ∀ i ∈ offsets, ¬ ModeCommandAt data i)
    (g : Globals) : view (offsets.foldl (Firmware.plantSoftStep data) g) = view g := by
  induction offsets generalizing g with
  | nil => rfl
  | cons i rest ih =>
      obtain ⟨hhere, hrest⟩ := List.forall_mem_cons.mp hmode
      rw [List.foldl_cons, ih hrest, hview.plantSoftStep, if_neg hhere]

theorem OfModes.plantSoftDataProc {τ : Type} {view : Globals → τ} (hview : OfModes view)
    {data : Memory} {size : ℕ} (hmode : ∀ i < size - 1, ¬ ModeCommandAt data i) (g : Globals) :
    view (plantSoftDataProc data size g) = view g :=
  hview.foldl_plantSoftStep (fun i hi => hmode i (List.mem_range.mp hi)) g

theorem ofModes_delay : OfModes delay := fun _ _ _ _ _ _ _ _ _ _ _ => rfl

theorem delay_maixcamDataProc (data : Memory) (size : ℕ) (g : Globals) :
    delay (maixcamDataProc data size g) = delay g :=
  view_maixcamDataProc (fun _ _ _ _ _ _ _ => rfl) data size g

variable [CFloat F]

/-- The functions that a call of `MaixCam_Sport` invokes, in order. -/
def calls (s : Car F) : List Call :=
  if s.maixModeFlag = 1 then
    (if 300 ≤ (s.starttimeCnt + 1) % 2 ^ 16 then [.plantleafIns] else []) ++ [.findingObs]
  else if s.maixModeFlag = 2 then
    (if 300 ≤ (s.starttimeCnt + 1) % 2 ^ 16 then [.findingLight] else []) ++
      (if (searched s).modestateLight = 5 then [.findingObs] else [])
  else []

def Call.run : Call → Car F → Car F
  | .plantleafIns => Car.plantleafIns
  | .findingLight => Car.findingLight
  | .findingObs => Car.findingObs

/-- A call counts and then runs these functions. -/
theorem maixCamSport_eq_calls {s : Car F} (hmode : InMode s) :
    s.maixCamSport = (calls s).foldl (fun s call => call.run s) s.countStarttime := by
  unfold calls
  rcases hmode with hmode | hmode
  · rw [maixCamSport_mode1 hmode, if_pos hmode, inspected]
    split <;> rfl
  · have hother : ¬ s.maixModeFlag = 1 := by
      rw [hmode]
      decide
    rw [maixCamSport_mode2 hmode, if_neg hother, if_pos hmode, searched]
    split <;> split <;> rfl

/-- The search goes on by its state, the light seen and the first odometer. -/
theorem modestateLight_congr {s t : Car F} (hlight : t.modestateLight = s.modestateLight)
    (hfinding : t.findingFlag = s.findingFlag) (hmilleage : t.milleage1 = s.milleage1) :
    t.findingLightCase.modestateLight = s.findingLightCase.modestateLight := by
  unfold Car.findingLightCase
  rw [hlight]
  split
  case h_1 | h_3 | h_4 => rfl
  case h_2 =>
    dsimp only
    rw [hfinding, hmilleage]
    by_cases hfound : s.findingFlag = 0
    · simp only [hfound, if_true]
      split_ifs <;> simp_all [Car.pidTargetAcce, Car.buJinMotorPitchView, Car.emmV5PosControl]
    · simp only [hfound, if_false]
      split_ifs <;> simp_all
  case h_5 => exact hlight

/-- The record of the motors' writer plays no part in what a call invokes. -/
theorem calls_cleared (s : Car F) : calls (cleared s) = calls s := by
  have hset : ∀ s : Car F,
      (if s.motorFlag = 0 then s.setCCR .motorFlagOff 0 0 else s).modestateLight =
        s.modestateLight := by
    intro s
    split <;> rfl
  have hfinding : (cleared s).countStarttime.findingLight.modestateLight =
      s.countStarttime.findingLight.modestateLight := by
    unfold Car.findingLight
    rw [hset, hset]
    by_cases hon : s.motorFlag = 1
    · rw [if_pos (by exact hon), if_pos (by exact hon)]
      exact modestateLight_congr rfl rfl rfl
    · rw [if_neg (by exact hon), if_neg (by exact hon)]
      rfl
  have hlight : (searched (cleared s)).modestateLight = (searched s).modestateLight := by
    unfold searched
    by_cases hpast : 300 ≤ (s.starttimeCnt + 1) % 2 ^ 16
    · rw [if_pos hpast, if_pos (by exact hpast)]
      exact hfinding
    · rw [if_neg hpast, if_neg (by exact hpast)]
      rfl
  unfold calls
  rw [hlight]
  rfl

theorem tick_eq_calls {s : Car F} (hmode : InMode s) :
    tick s = (calls s).foldl (fun s call => call.run s) (cleared s).countStarttime := by
  rw [tick, maixCamSport_eq_calls (s := cleared s) hmode, calls_cleared]

/-- What counting, the arm and the search for light leave alone is as it was when
a call comes to `Finding_obs`. -/
theorem tick_of_keeps (keeps : Car F → Car F → Prop)
    (htrans : ∀ {s t u}, keeps s t → keeps t u → keeps s u)
    (hcount : ∀ s, keeps s (cleared s).countStarttime)
    (hins : ∀ s, keeps s s.plantleafIns) (hlight : ∀ s, keeps s s.findingLight)
    {s : Car F} (hmode : InMode s) :
    ∃ t, keeps s t ∧ tick s = if Call.findingObs ∈ calls s then t.findingObs else t := by
  rw [tick_eq_calls hmode]
  unfold calls
  rcases hmode with hmode | hmode
  · rw [if_pos hmode]
    split
    · exact ⟨_, htrans (hcount s) (hins _), rfl⟩
    · exact ⟨_, hcount s, rfl⟩
  · rw [if_neg (by omega), if_pos hmode]
    split <;> split
    · exact ⟨_, htrans (hcount s) (hlight _), rfl⟩
    · exact ⟨_, htrans (hcount s) (hlight _), rfl⟩
    · exact ⟨_, hcount s, rfl⟩
    · exact ⟨_, hcount s, rfl⟩

/-! ## The counter -/

theorem delay_tick {s : Car F} (hmode : InMode s) :
    delay (tick s).toGlobals = (s.maixModeFlag, (s.starttimeCnt + 1) % 2 ^ 16) := by
  have hins : ∀ s : Car F, delay s.plantleafIns.toGlobals = delay s.toGlobals := by
    intro s
    unfold Car.plantleafIns
    dsimp only
    split_ifs <;> rfl
  have hrun : ∀ (call : Call) (s : Car F), delay (call.run s).toGlobals = delay s.toGlobals := by
    intro call s
    cases call with
    | plantleafIns => exact hins s
    | findingLight =>
        have hkeeps := keepsArm_findingLight s
        rw [delay, Call.run, hkeeps.maixModeFlag, hkeeps.starttimeCnt, delay]
    | findingObs => rw [Call.run, (keepsGlobals_findingObs s).toGlobals]
  rw [tick_eq_calls hmode]
  have hfold : ∀ (invoked : List Call) (s : Car F),
      delay (invoked.foldl (fun s call => call.run s) s).toGlobals = delay s.toGlobals := by
    intro invoked
    induction invoked with
    | nil => exact fun s => rfl
    | cons call invoked ih => exact fun s => (ih _).trans (hrun call s)
  rw [hfold]
  rfl

/-- Without a mode command only a call changes the counter, and nothing changes
the mode. -/
theorem delay_carStep {s : Car F} (hmode : InMode s) {event : CarEvent F}
    (hquiet : NoModeCommand event) :
    delay (carStep s event).toGlobals =
      if isTick event then (s.maixModeFlag, (s.starttimeCnt + 1) % 2 ^ 16)
      else delay s.toGlobals := by
  cases event with
  | plantSoft data size => exact ofModes_delay.plantSoftDataProc hquiet s.toGlobals
  | maixcam data size => exact delay_maixcamDataProc data size s.toGlobals
  | distance | yaw | encoder => rfl
  | tick => exact delay_tick hmode

/-! ## Runs -/

/-- Every call of `MaixCam_Sport` invokes the function. -/
def Invokes (call : Call) (s : Car F) (event : CarEvent F) : Prop :=
  event = .tick → call ∈ calls s

theorem plantleafIns_mem_calls {s : Car F} (hmode : s.maixModeFlag = 1) :
    Call.plantleafIns ∈ calls s ↔ 300 ≤ (s.starttimeCnt + 1) % 2 ^ 16 := by
  rw [calls, if_pos hmode]
  split <;> simp_all

theorem findingLight_mem_calls {s : Car F} (hmode : s.maixModeFlag = 2) :
    Call.findingLight ∈ calls s ↔ 300 ≤ (s.starttimeCnt + 1) % 2 ^ 16 := by
  rw [calls, if_neg (by omega), if_pos hmode]
  split <;> split <;> simp_all

/-- Without a mode command the mode stays, and only ticks count. -/
theorem maixModeFlag_carStep {s : Car F} (hmode : InMode s) {event : CarEvent F}
    (hquiet : NoModeCommand event) : (carStep s event).maixModeFlag = s.maixModeFlag := by
  have hfst := congrArg Prod.fst (delay_carStep hmode hquiet)
  split at hfst
  · exact hfst
  · exact hfst

theorem starttimeCnt_carStep {s : Car F} (hmode : InMode s) {event : CarEvent F}
    (hquiet : NoModeCommand event) :
    (carStep s event).starttimeCnt =
      if isTick event then (s.starttimeCnt + 1) % 2 ^ 16 else s.starttimeCnt := by
  have hsnd := congrArg Prod.snd (delay_carStep hmode hquiet)
  split at hsnd
  next htick => rwa [if_pos htick]
  next htick => rwa [if_neg htick]

/-- Once past the delay, calls invoke the function until the counter wraps. -/
theorem alongFrom_invokes_iff {mode : ℕ} {call : Call} (hvalid : mode = 1 ∨ mode = 2)
    (hcall : ∀ s : Car F, s.maixModeFlag = mode →
      (call ∈ calls s ↔ 300 ≤ (s.starttimeCnt + 1) % 2 ^ 16))
    {later : List (CarEvent F)} (hquiet : ∀ event ∈ later, NoModeCommand event) {s : Car F}
    (hmode : s.maixModeFlag = mode) (hpast : 300 ≤ s.starttimeCnt)
    (hwidth : s.starttimeCnt < 2 ^ 16) :
    (carSystem F).AlongFrom (Invokes call) s later ↔ s.starttimeCnt + ticks later < 2 ^ 16 := by
  induction later generalizing s with
  | nil => exact iff_of_true trivial hwidth
  | cons event later ih =>
      obtain ⟨hnow, hlater⟩ := List.forall_mem_cons.mp hquiet
      have hinMode : InMode s := by
        rw [InMode, hmode]
        exact hvalid
      have hmode' := (maixModeFlag_carStep hinMode hnow).trans hmode
      have hcount := starttimeCnt_carStep hinMode hnow
      rw [System.AlongFrom]
      change _ ∧ (carSystem F).AlongFrom (Invokes call) (carStep s event) later ↔ _
      by_cases htick : isTick event
      · have hevent : event = .tick := by
          cases event <;> first | rfl | simp [isTick] at htick
        subst hevent
        have hticks : ticks (CarEvent.tick :: later) = ticks later + 1 :=
          List.countP_cons_of_pos htick
        have hinvoked : Invokes call s .tick ↔ 300 ≤ (s.starttimeCnt + 1) % 2 ^ 16 := by
          rw [Invokes, hcall s hmode]
          simp
        rw [if_pos htick] at hcount
        rw [hinvoked, hticks]
        by_cases hwraps : s.starttimeCnt + 1 = 2 ^ 16
        · -- the counter wraps, and the delay begins again
          rw [hwraps]
          omega
        · have hnext : (s.starttimeCnt + 1) % 2 ^ 16 = s.starttimeCnt + 1 :=
            Nat.mod_eq_of_lt (by omega)
          rw [hnext] at hcount
          rw [ih hlater hmode' (by omega) (by omega), hcount, hnext]
          omega
      · have hticks : ticks (event :: later) = ticks later :=
          List.countP_cons_of_neg htick
        have hinvoked : Invokes call s event := by
          rintro rfl
          exact absurd rfl htick
        rw [if_neg htick] at hcount
        rw [ih hlater hmode' (by omega) (by omega), hcount, hticks]
        exact and_iff_right hinvoked

theorem starttimeCnt_run_tick (events : List (CarEvent F)) :
    ((carSystem F).run (events ++ [.tick])).starttimeCnt < 2 ^ 16 := by
  have hlast : (carSystem F).run (events ++ [.tick]) = tick ((carSystem F).run events) :=
    List.foldl_concat _ _ _ _
  have hcount := congrArg Prod.snd (delay_tick (carSystem_inMode.run events))
  rw [hlast]
  change (tick ((carSystem F).run events)).starttimeCnt = _ at hcount
  rw [hcount]
  exact Nat.mod_lt _ (by decide)

/-- After a call past the start delay and without a further mode command, every
later call also invokes the arm's machine, in mode 1, or the search for light, in
mode 2, if and only if no more calls follow than the counter has room for. -/
theorem start_delay_iff (events later : List (CarEvent F))
    (hpast : 300 ≤ ((carSystem F).run (events ++ [.tick])).starttimeCnt)
    (hquiet : ∀ event ∈ later, NoModeCommand event) :
    let s := (carSystem F).run (events ++ [.tick])
    (s.maixModeFlag = 1 →
      ((carSystem F).AlongFrom (Invokes .plantleafIns) s later ↔
        ticks later ≤ 65535 - s.starttimeCnt)) ∧
    (s.maixModeFlag = 2 →
      ((carSystem F).AlongFrom (Invokes .findingLight) s later ↔
        ticks later ≤ 65535 - s.starttimeCnt)) := by
  have hwidth := starttimeCnt_run_tick events
  constructor
  · intro hmode
    rw [alongFrom_invokes_iff (.inl rfl) (fun s => plantleafIns_mem_calls) hquiet hmode hpast
      hwidth]
    omega
  · intro hmode
    rw [alongFrom_invokes_iff (.inr rfl) (fun s => findingLight_mem_calls) hquiet hmode hpast
      hwidth]
    omega

/-- Three seconds after the start, in mode 2. -/
theorem start_delay_iff_start :
    let s := (carSystem ℚ).run (List.replicate 299 .tick ++ [.tick])
    s.maixModeFlag = 2 →
      ((carSystem ℚ).AlongFrom (Invokes .findingLight) s [.tick] ↔
        ticks [(.tick : CarEvent ℚ)] ≤ 65535 - s.starttimeCnt) :=
  (start_delay_iff (F := ℚ) (List.replicate 299 .tick) [.tick] (by decide +kernel)
    (by simp [NoModeCommand])).2

/-- Left alone from then on, the car stops searching for light again after 65236
more calls. -/
theorem start_delay_returns :
    ¬ (carSystem ℚ).AlongFrom (Invokes .findingLight)
      ((carSystem ℚ).run (List.replicate 299 .tick ++ [.tick])) (List.replicate 65236 .tick) := by
  have hcount : ((carSystem ℚ).run (List.replicate 299 .tick ++ [.tick])).starttimeCnt = 300 := by
    decide +kernel
  have hmode : ((carSystem ℚ).run (List.replicate 299 .tick ++ [.tick])).maixModeFlag = 2 := by
    decide +kernel
  have hquiet : ∀ event ∈ List.replicate 65236 (.tick : CarEvent ℚ), NoModeCommand event := by
    intro event hmem
    rw [List.eq_of_mem_replicate hmem]
    trivial
  have hticks : ticks (List.replicate 65236 (.tick : CarEvent ℚ)) = 65236 := by
    rw [ticks, List.countP_replicate]
    rfl
  rw [alongFrom_invokes_iff (.inr rfl) (fun s => findingLight_mem_calls) hquiet hmode (by omega)
    (by omega), hcount, hticks]
  omega

end PlantAssistant.Motion
