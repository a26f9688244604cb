import PlantAssistant.Motion.ArmRotation
import PlantAssistant.Motion.StartDelay

/-! # Inspections on request

A mode 1 command asks for an inspection, whose steps `Plantleaf_ins` counts. The
counter is cleared by a call without a request only, so a command that comes
before that call goes on counting where the last inspection has ended.
-/

namespace PlantAssistant.Motion

open Transition PlantAssistant.Firmware

/-! ## Requests -/

/-- The mode, the request and the start delay. -/
def request (g : Globals) : ℕ × ℕ × ℕ := (g.maixModeFlag, g.plantleafInsflag, g.starttimeCnt)

theorem ofModes_request : OfModes request := fun _ _ _ _ _ _ _ _ _ _ _ => rfl

/-- The event brings a single mode command, for mode 1. -/
def ModeOneCommand {F : Type} : CarEvent F → Prop
  | .plantSoft data size =>
      ∃ i < size - 1, ModeCommandAt data i ∧ data (i + 2) = 0x01 ∧
        ∀ j < size - 1, j ≠ i → ¬ ModeCommandAt data j
  | _ => False

theorem request_plantSoftDataProc {data : Memory} {size i : ℕ} (hi : i < size - 1)
    (hmode : ModeCommandAt data i) (hone : data (i + 2) = 0x01)
    (hsingle : ∀ j < size - 1, j ≠ i → ¬ ModeCommandAt data j) (g : Globals) :
    request (plantSoftDataProc data size g) = (1, 1, 0) := by
  unfold plantSoftDataProc
  generalize size - 1 = bound at hi hsingle
  induction bound with
  | zero => exact absurd hi (Nat.not_lt_zero i)
  | succ bound ih =>
      rw [List.range_succ, List.foldl_append, List.foldl_cons, List.foldl_nil,
        ofModes_request.plantSoftStep]
      by_cases hlast : i = bound
      · subst hlast
        rw [if_pos hmode, hone]
        rfl
      · rw [if_neg (hsingle bound (Nat.lt_succ_self bound) (Ne.symm hlast))]
        apply ih (Nat.lt_of_le_of_ne (Nat.le_of_lt_succ hi) hlast)
        exact fun j hj => hsingle j (Nat.lt_succ_of_lt hj)

/-! ## Steps -/

variable {F : Type}

/-- The event calls `Plantleaf_ins`. -/
def Inspects [CFloat F] (s : Car F) (event : CarEvent F) : Prop :=
  isTick event = true ∧ Call.plantleafIns ∈ calls s

instance [CFloat F] (s : Car F) (event : CarEvent F) : Decidable (Inspects s event) :=
  inferInstanceAs (Decidable (_ ∧ _))

/-- The number of calls of `Plantleaf_ins` in a run. -/
def insCalls [CFloat F] (s : Car F) : List (CarEvent F) → ℕ
  | [] => 0
  | event :: rest => (if Inspects s event then 1 else 0) + insCalls (carStep s event) rest

variable (F) in
/-- `BuJinMotor_PitchView(2, 1, 100, 30)`. -/
def pitchView [CFloat F] : StepperCommand :=
  let pitch : F := CFloat.lit 3200 * (CFloat.lit 30 / CFloat.lit 360)
  ⟨2, 1, 100, 0, CFloat.toUInt16 pitch, true, false⟩

variable (F) in
/-- The commands of the `n`th call of an inspection. -/
def commandsAt [CFloat F] (n : ℕ) : List StepperCommand :=
  if n = 1 then [pitchView F]
  else if n = 200 then [forwardTurn]
  else if n = 900 then [backwardTurn]
  else []

variable (F) in
/-- The commands of the first `n` calls after `start` of them. -/
def issued [CFloat F] (start n : ℕ) : List StepperCommand :=
  (List.range n).flatMap fun k => commandsAt F (start + k + 1)

theorem noModeCommand_replicate (n : ℕ) :
    ∀ event ∈ List.replicate n (CarEvent.tick : CarEvent F), NoModeCommand event := by
  intro event hevent
  rw [List.eq_of_mem_replicate hevent]
  trivial

variable [CFloat F]

theorem issued_succ (start n : ℕ) :
    issued F start (n + 1) = issued F start n ++ commandsAt F (start + n + 1) := by
  unfold issued
  rw [List.range_succ, List.flatMap_append, List.flatMap_singleton]

/-- The next 900 calls of `Plantleaf_ins` carry out an inspection, whatever else
happens between them. -/
def CarriedOut (s : Car F) : Prop :=
  ∀ rest, (∀ event ∈ rest, NoModeCommand event) → insCalls s rest ≤ 900 →
    ((carSystem F).runFrom s rest).steppers = s.steppers ++ issued F 0 (insCalls s rest) ∧
      (insCalls s rest = 900 → ((carSystem F).runFrom s rest).plantleafInsflag = 0)

/-- A call with a request counts one step. -/
theorem plantleafIns_requested {s : Car F} (hrequest : s.plantleafInsflag = 1)
    (hroom : s.timeCnt + 1 < 2 ^ 16) :
    s.plantleafIns.steppers = s.steppers ++ commandsAt F (s.timeCnt + 1) ∧
      s.plantleafIns.timeCnt = s.timeCnt + 1 ∧
      s.plantleafIns.plantleafInsflag = if s.timeCnt + 1 = 900 then 0 else 1 := by
  unfold Car.plantleafIns commandsAt
  rw [if_pos hrequest]
  simp only [Nat.mod_eq_of_lt hroom]
  split_ifs
  · omega
  · exact ⟨rfl, rfl, hrequest⟩
  · omega
  · exact ⟨rfl, rfl, hrequest⟩
  · exact ⟨rfl, rfl, rfl⟩
  · refine ⟨?_, rfl, hrequest⟩
    rw [List.append_nil]

/-- The state after `n` calls of an inspection that began at `start`. -/
structure Counting (start n : ℕ) (base : List StepperCommand) (s : Car F) : Prop where
  mode : s.maixModeFlag = 1
  flag : s.plantleafInsflag = if start < 900 ∧ 900 ≤ start + n then 0 else 1
  timeCnt : s.timeCnt = start + n
  steppers : s.steppers = base ++ issued F start n

/-- A tick that calls `Plantleaf_ins` counts one call. -/
theorem Counting.called {start n : ℕ} {base : List StepperCommand} {s : Car F}
    (hcounting : Counting start n base s) (hroom : start + n + 1 < 2 ^ 16)
    (hopen : ¬ (start < 900 ∧ 900 ≤ start + n)) (hcalled : 300 ≤ (s.starttimeCnt + 1) % 2 ^ 16) :
    Counting start (n + 1) base (Motion.tick s) := by
  obtain ⟨hmode, hflag, htime, hsteppers⟩ := hcounting
  have hrequest : (cleared s).countStarttime.plantleafInsflag = 1 := hflag.trans (if_neg hopen)
  have hins : inspected (cleared s) = (cleared s).countStarttime.plantleafIns := if_pos hcalled
  obtain ⟨hcommands, hcount, hends⟩ := plantleafIns_requested hrequest (by
    change s.timeCnt + 1 < 2 ^ 16
    omega)
  change _ = s.steppers ++ commandsAt F (s.timeCnt + 1) at hcommands
  change _ = s.timeCnt + 1 at hcount
  change _ = if s.timeCnt + 1 = 900 then 0 else 1 at hends
  rw [← hins] at hcommands hcount hends
  have hkeeps := keepsGlobals_findingObs (inspected (cleared s))
  have htick : Motion.tick s = (inspected (cleared s)).findingObs :=
    maixCamSport_mode1 (s := cleared s) hmode
  rw [htick]
  refine ⟨?_, ?_, ?_, ?_⟩
  · rw [hkeeps.toGlobals, (keepsWheels_inspected _).maixModeFlag]
    exact hmode
  · rw [hkeeps.toGlobals, hends, htime]
    by_cases hlast : start + n + 1 = 900
    · rw [if_pos hlast, if_pos (by omega)]
    · rw [if_neg hlast, if_neg (by omega)]
  · rw [hkeeps.timeCnt, hcount, htime, Nat.add_assoc]
  · rw [hkeeps.steppers, hcommands, hsteppers, htime, issued_succ, List.append_assoc]

/-- A tick inside the start delay does not. -/
theorem Counting.delayed {start n : ℕ} {base : List StepperCommand} {s : Car F}
    (hcounting : Counting start n base s) (hdelay : ¬ 300 ≤ (s.starttimeCnt + 1) % 2 ^ 16) :
    Counting start n base (Motion.tick s) := by
  have hins : inspected (cleared s) = (cleared s).countStarttime := if_neg hdelay
  have hkeeps := keepsGlobals_findingObs (inspected (cleared s))
  have htick : Motion.tick s = (inspected (cleared s)).findingObs :=
    maixCamSport_mode1 (s := cleared s) hcounting.mode
  rw [hins] at htick hkeeps
  rw [htick]
  refine ⟨?_, ?_, ?_, ?_⟩
  · rw [hkeeps.toGlobals]
    exact hcounting.mode
  · rw [hkeeps.toGlobals]
    exact hcounting.flag
  · rw [hkeeps.timeCnt]
    exact hcounting.timeCnt
  · rw [hkeeps.steppers]
    exact hcounting.steppers

theorem Counting.tick {start n : ℕ} {base : List StepperCommand} {s : Car F}
    (hcounting : Counting start n base s) (hroom : start + n + 1 < 2 ^ 16)
    (hopen : Inspects s .tick → ¬ (start < 900 ∧ 900 ≤ start + n)) :
    Counting start (n + if Inspects s .tick then 1 else 0) base (Motion.tick s) := by
  have hcalls := plantleafIns_mem_calls hcounting.mode
  by_cases hcalled : 300 ≤ (s.starttimeCnt + 1) % 2 ^ 16
  · have hinspects : Inspects s .tick := ⟨rfl, hcalls.mpr hcalled⟩
    rw [if_pos hinspects]
    exact hcounting.called hroom (hopen hinspects) hcalled
  · have hinspects : ¬ Inspects s .tick := fun hinspects => hcalled (hcalls.mp hinspects.2)
    rw [if_neg hinspects]
    exact hcounting.delayed hcalled

theorem Counting.step {start n : ℕ} {base : List StepperCommand} {s : Car F}
    (hcounting : Counting start n base s) (hroom : start + n + 1 < 2 ^ 16) {event : CarEvent F}
    (hquiet : NoModeCommand event)
    (hopen : Inspects s event → ¬ (start < 900 ∧ 900 ≤ start + n)) :
    Counting start (n + if Inspects s event then 1 else 0) base (carStep s event) := by
  have hother : ∀ t : Car F, request t.toGlobals = request s.toGlobals → t.timeCnt = s.timeCnt →
      t.steppers = s.steppers → Counting start n base t := by
    intro t hrequest htime hsteppers
    have hmode : t.maixModeFlag = s.maixModeFlag := congrArg Prod.fst hrequest
    have hflag : t.plantleafInsflag = s.plantleafInsflag :=
      congrArg (fun request => request.2.1) hrequest
    exact ⟨hmode.trans hcounting.mode, hflag.trans hcounting.flag, htime.trans hcounting.timeCnt,
      hsteppers.trans hcounting.steppers⟩
  cases event with
  | tick => exact hcounting.tick hroom hopen
  | plantSoft data size =>
      exact hother _ (ofModes_request.plantSoftDataProc hquiet s.toGlobals) rfl rfl
  | maixcam data size =>
      exact hother _ (view_maixcamDataProc (fun _ _ _ _ _ _ _ => rfl) data size s.toGlobals)
        rfl rfl
  | distance | yaw | encoder => exact hother _ rfl rfl rfl

theorem Counting.runFrom {start n : ℕ} {base : List StepperCommand} {s : Car F}
    (hcounting : Counting start n base s) {rest : List (CarEvent F)}
    (hquiet : ∀ event ∈ rest, NoModeCommand event)
    (hopen : start < 900 → start + n + insCalls s rest ≤ 900)
    (hroom : start + n + insCalls s rest + 1 < 2 ^ 16) :
    Counting start (n + insCalls s rest) base ((carSystem F).runFrom s rest) := by
  induction rest generalizing s n with
  | nil => exact hcounting
  | cons event rest ih =>
      obtain ⟨hnow, hlater⟩ := List.forall_mem_cons.mp hquiet
      rw [insCalls] at hopen hroom ⊢
      have hstep := hcounting.step (by omega) hnow (by
        intro hinspects
        rw [if_pos hinspects] at hopen
        omega)
      generalize (if Inspects s event then 1 else 0) = now at hopen hroom hstep ⊢
      rw [← Nat.add_assoc]
      apply ih hstep hlater
      · intro hstart
        have hcalls := hopen hstart
        omega
      · omega

/-! ## The counter when the command arrives -/

/-- What the command leaves behind. -/
theorem counting_command {s : Car F} {event : CarEvent F} (hcommand : ModeOneCommand event) :
    Counting s.timeCnt 0 s.steppers (carStep s event) ∧ (carStep s event).starttimeCnt = 0 := by
  cases event with
  | plantSoft data size =>
      obtain ⟨i, hi, hmode, hone, hsingle⟩ := hcommand
      have hrequest := request_plantSoftDataProc hi hmode hone hsingle s.toGlobals
      have hopen : ¬ (s.timeCnt < 900 ∧ 900 ≤ s.timeCnt + 0) := by omega
      refine ⟨⟨congrArg Prod.fst hrequest, ?_, rfl, (List.append_nil _).symm⟩, ?_⟩
      · rw [if_neg hopen]
        exact congrArg (fun request => request.2.1) hrequest
      · exact congrArg (fun request => request.2.2) hrequest
  | maixcam | distance | yaw | encoder | tick => cases hcommand

/-- After a mode command the arm waits for 299 calls and is then moved on by each,
until the counter of calls wraps. -/
theorem insCalls_replicate (n : ℕ) {s : Car F} (hmode : s.maixModeFlag = 1)
    (hroom : s.starttimeCnt + n < 2 ^ 16) :
    insCalls s (List.replicate n .tick) = s.starttimeCnt + n - max s.starttimeCnt 299 := by
  induction n generalizing s with
  | zero =>
      change 0 = _
      omega
  | succ n ih =>
      have hdelay := delay_tick (.inl hmode)
      have hmode' : (Motion.tick s).maixModeFlag = 1 := (congrArg Prod.fst hdelay).trans hmode
      have hcount : (Motion.tick s).starttimeCnt = s.starttimeCnt + 1 := by
        rw [← Nat.mod_eq_of_lt (show s.starttimeCnt + 1 < 2 ^ 16 by omega)]
        exact congrArg Prod.snd hdelay
      have hcalls := plantleafIns_mem_calls hmode
      rw [Nat.mod_eq_of_lt (by omega)] at hcalls
      rw [List.replicate_succ, insCalls]
      change _ + insCalls (Motion.tick s) _ = _
      rw [ih hmode' (by omega), hcount]
      by_cases hcalled : 300 ≤ s.starttimeCnt + 1
      · rw [if_pos ⟨rfl, hcalls.mpr hcalled⟩]
        omega
      · rw [if_neg fun hinspects => hcalled (hcalls.mp hinspects.2)]
        omega

/-- An inspection is carried out exactly if it begins with the counter at zero. -/
theorem carriedOut_iff {s : Car F} {event : CarEvent F} (hcommand : ModeOneCommand event)
    (hended : s.timeCnt = 0 ∨ s.timeCnt = 900) :
    CarriedOut (carStep s event) ↔ s.timeCnt = 0 := by
  obtain ⟨hcounting, hdelay⟩ := counting_command hcommand
  have hsteppers : (carStep s event).steppers = s.steppers :=
    hcounting.steppers.trans (List.append_nil _)
  constructor
  · intro hcarried
    by_contra hzero
    have hstart : s.timeCnt = 900 := hended.resolve_left hzero
    rw [hstart] at hcounting
    -- the first call issues no command
    have hone := insCalls_replicate 300 hcounting.mode (by rw [hdelay]; decide)
    rw [hdelay] at hone
    change insCalls _ _ = 1 at hone
    have hquiet := noModeCommand_replicate (F := F) 300
    have hrun := (hcounting.runFrom hquiet (by omega) (by rw [hone]; decide)).steppers
    have hissued := (hcarried _ hquiet (by rw [hone]; decide)).1
    rw [hone] at hrun hissued
    rw [hrun, hsteppers] at hissued
    have hnone := List.append_cancel_left hissued
    cases hnone
  · intro hzero
    rw [hzero] at hcounting
    intro rest hquiet hcalls
    have hrun := hcounting.runFrom hquiet (by omega) (by omega)
    rw [Nat.zero_add] at hrun
    refine ⟨hrun.steppers.trans (by rw [hsteppers]), ?_⟩
    intro hall
    rw [hrun.flag, hall]
    rfl

theorem timeCnt_of_done (events : List (CarEvent F))
    (hdone : ((carSystem F).run events).plantleafInsflag = 0) :
    ((carSystem F).run events).timeCnt = 0 ∨ ((carSystem F).run events).timeCnt = 900 := by
  have hended := (carSystem_armSound.run events).2.ended
  rw [hdone] at hended
  exact hended.resolve_left (by decide)

/-- The command for mode 1, and the run of an inspection up to its last call. -/
def modeOne : CarEvent ℚ := command [0xAA, 0x10, 0x01, 0x55]

def inspectionEnded : List (CarEvent ℚ) := modeOne :: List.replicate 1199 .tick

theorem modeOneCommand_modeOne : ModeOneCommand modeOne := by
  refine ⟨0, by decide, by decide, rfl, ?_⟩
  decide

theorem inspectionEnded_done :
    ((carSystem ℚ).run inspectionEnded).plantleafInsflag = 0 ∧
      ((carSystem ℚ).run inspectionEnded).timeCnt = 900 := by
  rw [inspectionEnded, System.run, System.runFrom_cons]
  obtain ⟨hcounting, hdelay⟩ := counting_command (s := (Car.init : Car ℚ)) modeOneCommand_modeOne
  change Counting 0 0 [] ((carSystem ℚ).step (carSystem ℚ).init modeOne) at hcounting
  change ((carSystem ℚ).step (carSystem ℚ).init modeOne).starttimeCnt = 0 at hdelay
  generalize (carSystem ℚ).step (carSystem ℚ).init modeOne = asked at hcounting hdelay ⊢
  have hcalls := insCalls_replicate 1199 hcounting.mode (by rw [hdelay]; decide)
  rw [hdelay] at hcalls
  change _ = 900 at hcalls
  have hrun := hcounting.runFrom (noModeCommand_replicate 1199) (by omega) (by rw [hcalls]; decide)
  rw [hcalls] at hrun
  exact ⟨hrun.flag.trans (if_pos (by decide)), hrun.timeCnt⟩

theorem inspection_carried_out_iff (events : List (CarEvent F)) (command : CarEvent F)
    (hdone : ((carSystem F).run events).plantleafInsflag = 0)
    (hcommand : ModeOneCommand command) :
    CarriedOut (carStep ((carSystem F).run events) command) ↔
      ((carSystem F).run events).timeCnt = 0 :=
  carriedOut_iff hcommand (timeCnt_of_done events hdone)

theorem inspection_carried_out_iff_ended :
    ((carSystem ℚ).run inspectionEnded).plantleafInsflag = 0 ∧
      (CarriedOut (carStep ((carSystem ℚ).run inspectionEnded) modeOne) ↔
        ((carSystem ℚ).run inspectionEnded).timeCnt = 0) :=
  ⟨inspectionEnded_done.1,
    inspection_carried_out_iff inspectionEnded modeOne inspectionEnded_done.1
      modeOneCommand_modeOne⟩

/-- The panel asks again right after the last call of an inspection. -/
theorem request_lost_after_inspection :
    ((carSystem ℚ).run inspectionEnded).plantleafInsflag = 0 ∧ ModeOneCommand modeOne ∧
      ¬ CarriedOut (carStep ((carSystem ℚ).run inspectionEnded) modeOne) := by
  obtain ⟨hdone, htime⟩ := inspectionEnded_done
  refine ⟨hdone, modeOneCommand_modeOne, ?_⟩
  rw [carriedOut_iff modeOneCommand_modeOne (Or.inr htime), htime]
  decide

end PlantAssistant.Motion
