import PlantAssistant.Control.Parts
import PlantAssistant.Transition.Response
import PlantAssistant.Transition.Since

/-! # From the soil to the relay

The relay obeys the flags of the moment its call finds, so the last such call
accounts for its pin; and within two passes of the task it follows a soil that
stays dry or moist, within one an order to stay closed.
-/

namespace PlantAssistant.Watering

open Transition PlantAssistant.Control PlantAssistant.Firmware PlantAssistant.Link
open PlantAssistant.Light

section Float

variable {F : Type} [CFloat F] (powf : F → F → F) (clock : UInt32)

/-! ## The flags -/

/-- The flags from which the relay is set are in their ranges. -/
structure FlagsInRange (s : Controller F) : Prop where
  waterFlag : s.car.waterFlag ≤ 1
  soilAlarmFlag : s.soil.soilAlarmFlag ≤ 2

/-- No command sets the flag to anything but zero and one. -/
theorem waterFlag_plantSoftDataProc (data : Memory) (size : ℕ) {g : Globals}
    (hflag : g.waterFlag ≤ 1) : (plantSoftDataProc data size g).waterFlag ≤ 1 := by
  have hite (c : Prop) [Decidable c] (f : Globals → Globals) (hf : ∀ g : Globals,
      g.waterFlag ≤ 1 → (f g).waterFlag ≤ 1) (g : Globals) (hflag : g.waterFlag ≤ 1) :
      (if c then f g else g).waterFlag ≤ 1 := by
    split
    · exact hf g hflag
    · exact hflag
  have hother : ∀ value : UInt8, ∀ f ∈ [plantSoftMaixMode value, plantSoftLightCtrl value,
      plantSoftSystemCtr value, plantSoftPlantType value], ∀ g, (f g).waterFlag = g.waterFlag := by
    intro value f hmem g
    simp only [List.mem_cons, List.not_mem_nil, or_false] at hmem
    rcases hmem with rfl | rfl | rfl | rfl
    all_goals
      simp only [plantSoftMaixMode, plantSoftLightCtrl, plantSoftSystemCtr, plantSoftPlantType]
      split_ifs <;> rfl
  have hwater (value : UInt8) (g : Globals) (hflag : g.waterFlag ≤ 1) :
      (plantSoftWaterCtrl value g).waterFlag ≤ 1 := by
    unfold plantSoftWaterCtrl
    dsimp only
    split_ifs
    all_goals first
      | exact Nat.le_refl 1
      | exact Nat.zero_le 1
      | exact hflag
  have hkeep (value : UInt8) {f : Globals → Globals} (hmem : f ∈ [plantSoftMaixMode value,
      plantSoftLightCtrl value, plantSoftSystemCtr value, plantSoftPlantType value])
      (g : Globals) (hflag : g.waterFlag ≤ 1) : (f g).waterFlag ≤ 1 :=
    (hother value f hmem g).trans_le hflag
  refine plantSoftDataProc_induction (P := fun g => g.waterFlag ≤ 1) ?_ size hflag
  intro g i hflag
  have hcommand (cmd value : UInt8) (g : Globals) (hflag : g.waterFlag ≤ 1) :
      (plantSoftCommand cmd value g).waterFlag ≤ 1 :=
    hite _ _ (hkeep value (f := plantSoftPlantType value) (by simp)) _ <|
      hite _ _ (hkeep value (f := plantSoftSystemCtr value) (by simp)) _ <|
        hite _ _ (hkeep value (f := plantSoftLightCtrl value) (by simp)) _ <|
          hite _ _ (hwater value) _ <|
            hite _ _ (hkeep value (f := plantSoftMaixMode value) (by simp)) g hflag
  have hstep := hite (data i = plantSoftpackHead1 ∧ data (i + 3) = plantSoftpackTail) _
    (hcommand (data (i + 1)) (data (i + 2))) g hflag
  unfold plantSoftStep
  dsimp only
  split
  · exact hstep
  · exact hstep

theorem soilAlarmFlag_soilUpdateAlarmFlag (soilPlantType : ℕ) {soil : Soil F}
    (hflag : soil.soilAlarmFlag ≤ 2) :
    (soilUpdateAlarmFlag soilPlantType soil).soilAlarmFlag ≤ 2 := by
  unfold soilUpdateAlarmFlag
  dsimp only
  split_ifs
  · exact Nat.le_succ 1
  · exact Nat.zero_le 2
  · exact Nat.le_refl 2
  · exact hflag

theorem flagsInRange_invariant : (controlSystem F powf clock).Invariant FlagsInRange where
  init := ⟨Nat.le_refl 1, Nat.zero_le 2⟩
  step s event hflags := by
    obtain ⟨hwater, hsoil⟩ := hflags
    cases event with
    | plantSoft data size => exact ⟨waterFlag_plantSoftDataProc data size hwater, hsoil⟩
    | maixcam data size =>
        have hkept : (maixcamDataProc data size s.car.toGlobals).waterFlag = s.car.waterFlag :=
          view_maixcamDataProc (fun _ _ _ _ _ _ _ => rfl) data size s.car.toGlobals
        exact ⟨hkept.trans_le hwater, hsoil⟩
    | hwt101 | vl53 | exti | buzzer => exact ⟨hwater, hsoil⟩
    | call reads =>
        change FlagsInRange { s.perform powf reads s.next with next := _ }
        cases s.next
        case maixCamSport => exact ⟨(sameOrders_tick s.car).waterFlag.trans_le hwater, hsoil⟩
        case refresh => exact ⟨hwater, soilAlarmFlag_soilUpdateAlarmFlag _ hsoil⟩
        all_goals exact ⟨hwater, hsoil⟩

/-! ## The calls of the task -/

/-- One of the task's calls, not another thread. -/
def isCall : ControlEvent → Bool
  | .call _ => true
  | _ => false

def callIndex : Call → ℕ
  | .getSpeedMilleage => 0
  | .sendDataToPlantSoft => 1
  | .maixcamSetMode => 2
  | .lightContral => 3
  | .waterAuto => 4
  | .checkVioce => 5
  | .maixCamSport => 6
  | .dht11Task10ms => 7
  | .refresh => 8

/-- How many calls it takes until `call` has been made. -/
def callsTo (call next : Call) : ℕ := (callIndex call + 9 - callIndex next) % 9 + 1

theorem callsTo_next {call next : Call} (hother : next ≠ call) :
    callsTo call next.next + 1 = callsTo call next := by
  cases call <;> cases next <;> first | rfl | exact absurd rfl hother

theorem callsTo_le (call next : Call) : callsTo call next ≤ 9 :=
  Nat.succ_le_of_lt (Nat.mod_lt _ (by decide))

variable {powf}

theorem waterPin_perform (reads : Reads) (s : Controller F) {call : Call}
    (hother : call ≠ .waterAuto) : (s.perform powf reads call).waterPin = s.waterPin := by
  cases call <;> first | rfl | exact absurd rfl hother

theorem soil_perform (reads : Reads) (s : Controller F) {call : Call} (hother : call ≠ .refresh) :
    (s.perform powf reads call).soil = s.soil := by
  cases call <;> first | rfl | exact absurd rfl hother

variable (powf)

/-- Only the task moves on, and only it sets the relay and the soil alarm. -/
theorem step_of_not_isCall (s : Controller F) {event : ControlEvent}
    (hother : isCall event = false) :
    (s.step powf event).waterPin = s.waterPin ∧ (s.step powf event).soil = s.soil ∧
      (s.step powf event).next = s.next := by
  cases event with
  | call => cases hother
  | plantSoft | maixcam | hwt101 | vl53 | exti | buzzer => exact ⟨rfl, rfl, rfl⟩

theorem next_step_of_isCall (s : Controller F) {event : ControlEvent}
    (hcall : isCall event = true) : (s.step powf event).next = s.next.next := by
  cases event with
  | call => rfl
  | plantSoft | maixcam | hwt101 | vl53 | exti | buzzer => cases hcall

variable {powf}

/-! ## What the last call left -/

/-- The event is not the call that sets the relay. -/
def LeavesRelay (s : Controller F) (event : ControlEvent) : Prop :=
  isCall event = true → s.next ≠ .waterAuto

theorem waterPin_step_of_leaves {s : Controller F} {event : ControlEvent}
    (hleaves : LeavesRelay s event) : (s.step powf event).waterPin = s.waterPin := by
  cases hcall : isCall event with
  | false => exact (step_of_not_isCall powf s hcall).1
  | true =>
      cases event with
      | call reads => exact waterPin_perform reads s (hleaves rfl)
      | plantSoft | maixcam | hwt101 | vl53 | exti | buzzer => cases hcall

theorem waterPin_step_call {s : Controller F} (hflags : FlagsInRange s) (reads : Reads)
    (hnext : s.next = .waterAuto) :
    (s.step powf (.call reads)).waterPin =
      decide (s.car.waterFlag = 1 ∧ s.soil.soilAlarmFlag = 1) := by
  change (s.perform powf reads s.next).waterPin = _
  rw [hnext]
  exact waterAuto_eq hflags.soilAlarmFlag hflags.waterFlag s.waterPin

/-- The event is the call that sets the relay, and finds watering allowed and the
soil alarm raised. -/
def OpensRelay (s : Controller F) (event : ControlEvent) : Prop :=
  isCall event = true ∧ s.next = .waterAuto ∧ s.car.waterFlag = 1 ∧ s.soil.soilAlarmFlag = 1

theorem waterPin_step_iff {s : Controller F} (hflags : FlagsInRange s) (event : ControlEvent) :
    (s.step powf event).waterPin = true ↔
      OpensRelay s event ∨ s.waterPin = true ∧ LeavesRelay s event := by
  by_cases hset : isCall event = true ∧ s.next = .waterAuto
  · obtain ⟨hcall, hnext⟩ := hset
    cases event with
    | call reads =>
        rw [waterPin_step_call hflags reads hnext, decide_eq_true_iff]
        constructor
        · intro hboth
          exact .inl ⟨rfl, hnext, hboth⟩
        · rintro (⟨-, -, hboth⟩ | ⟨-, hleaves⟩)
          · exact hboth
          · exact absurd hnext (hleaves rfl)
    | plantSoft | maixcam | hwt101 | vl53 | exti | buzzer => cases hcall
  · have hleaves : LeavesRelay s event := fun hcall hnext => hset ⟨hcall, hnext⟩
    rw [waterPin_step_of_leaves hleaves]
    constructor
    · intro hpin
      exact .inr ⟨hpin, hleaves⟩
    · rintro (⟨hcall, hnext, -⟩ | ⟨hpin, -⟩)
      · exact absurd ⟨hcall, hnext⟩ hset
      · exact hpin

variable (powf)

/-- In any run the relay is open exactly if the last call that set it found
watering allowed and the soil alarm raised. -/
theorem waterPin_iff_since (events : List ControlEvent) :
    ((controlSystem F powf clock).run events).waterPin = true ↔
      (controlSystem F powf clock).Since OpensRelay LeavesRelay events :=
  (flagsInRange_invariant powf clock).since_iff (fun s => s.waterPin = true) Bool.false_ne_true
    (fun _ event hflags => waterPin_step_iff hflags event) events

/-! ## Within two passes -/

/-- With the alarm raised or not, a call that sets the relay finds that it is to
be open or not. -/
def Finds (raised verdict : Bool) (s : Controller F) (event : ControlEvent) : Prop :=
  isCall event = true → s.next = .waterAuto → (decide (s.car.waterFlag = 1) && raised) = verdict

instance (raised verdict : Bool) (s : Controller F) (event : ControlEvent) :
    Decidable (Finds raised verdict s event) :=
  inferInstanceAs (Decidable (_ → _))

/-- A call that refreshes the soil alarm raises it, or not. -/
def Refreshes (raised : Bool) (s : Controller F) (event : ControlEvent) : Prop :=
  isCall event = true → s.next = .refresh →
    decide ((s.step powf event).soil.soilAlarmFlag = 1) = raised

/-- Alarm and relay are as wanted. -/
structure Settled (raised verdict : Bool) (s : Controller F) : Prop where
  soilAlarmFlag : decide (s.soil.soilAlarmFlag = 1) = raised
  waterPin : s.waterPin = verdict

/-- The calls that are left until the alarm is right, and then the relay. -/
def callsLeft (raised : Bool) (s : Controller F) : ℕ :=
  if decide (s.soil.soilAlarmFlag = 1) = raised then callsTo .waterAuto s.next
  else callsTo .refresh s.next + 5

omit [CFloat F] in
theorem callsLeft_le (raised : Bool) (s : Controller F) : callsLeft raised s ≤ 14 := by
  have hwater := callsTo_le .waterAuto s.next
  have hrefresh := callsTo_le .refresh s.next
  unfold callsLeft
  split <;> omega

variable {powf}

theorem soil_step {s : Controller F} {event : ControlEvent}
    (hother : isCall event = true → s.next ≠ .refresh) : (s.step powf event).soil = s.soil := by
  cases hcall : isCall event with
  | false => exact (step_of_not_isCall powf s hcall).2.1
  | true =>
      cases event with
      | call reads => exact soil_perform reads s (hother rfl)
      | plantSoft | maixcam | hwt101 | vl53 | exti | buzzer => cases hcall

/-- The alarm stays right once it is. -/
theorem raised_step {raised : Bool} {s : Controller F} {event : ControlEvent}
    (hrefreshes : Refreshes powf raised s event)
    (hraised : decide (s.soil.soilAlarmFlag = 1) = raised) :
    decide ((s.step powf event).soil.soilAlarmFlag = 1) = raised := by
  by_cases hrefresh : isCall event = true ∧ s.next = .refresh
  · exact hrefreshes hrefresh.1 hrefresh.2
  · rw [soil_step fun hcall hnext => hrefresh ⟨hcall, hnext⟩]
    exact hraised

theorem waterPin_step {raised verdict : Bool} {s : Controller F} {event : ControlEvent}
    (hflags : FlagsInRange s) (hfinds : Finds raised verdict s event)
    (hraised : decide (s.soil.soilAlarmFlag = 1) = raised) (hcall : isCall event = true)
    (hnext : s.next = .waterAuto) : (s.step powf event).waterPin = verdict := by
  cases event with
  | call reads =>
      rw [waterPin_step_call hflags reads hnext, Bool.decide_and, hraised]
      exact hfinds rfl hnext
  | plantSoft | maixcam | hwt101 | vl53 | exti | buzzer => cases hcall

variable (powf)

theorem approaches_settled (raised verdict : Bool) :
    Approaches (controlSystem F powf clock)
      (fun s event => FlagsInRange s ∧ Finds raised verdict s event ∧ Refreshes powf raised s event)
      (Settled raised verdict) isCall (callsLeft raised) where
  kept s event hcondition hsettled := by
    obtain ⟨hflags, hfinds, hrefreshes⟩ := hcondition
    refine ⟨raised_step hrefreshes hsettled.soilAlarmFlag, ?_⟩
    by_cases hset : isCall event = true ∧ s.next = .waterAuto
    · exact waterPin_step hflags hfinds hsettled.soilAlarmFlag hset.1 hset.2
    · exact (waterPin_step_of_leaves fun hcall hnext => hset ⟨hcall, hnext⟩).trans hsettled.waterPin
  away s _ := by
    unfold callsLeft
    split
    · exact Nat.succ_pos _
    · exact Nat.add_pos_right _ (by decide)
  nearer s event hcondition _ hnext := by
    obtain ⟨hflags, hfinds, hrefreshes⟩ := hcondition
    change callsLeft raised (s.step powf event) + _ ≤ _
    change ¬ Settled raised verdict (s.step powf event) at hnext
    cases hcall : isCall event with
    | false =>
        obtain ⟨-, hsoil, hsame⟩ := step_of_not_isCall powf s hcall
        unfold callsLeft
        rw [hsoil, hsame]
        exact Nat.le_refl _
    | true =>
        have hmoves := next_step_of_isCall powf s hcall
        unfold callsLeft
        rw [hmoves, if_pos rfl]
        by_cases hraised : decide (s.soil.soilAlarmFlag = 1) = raised
        · -- the alarm is right, and the relay is next but for some calls
          have hkept := raised_step hrefreshes hraised
          rw [if_pos hraised, if_pos hkept]
          refine (callsTo_next fun hset => hnext ?_).le
          exact ⟨hkept, waterPin_step hflags hfinds hraised hcall hset⟩
        · rw [if_neg hraised]
          by_cases hrefresh : s.next = .refresh
          · rw [if_pos (hrefreshes hcall hrefresh), hrefresh]
            decide
          · have hsame : (s.step powf event).soil = s.soil := soil_step fun _ => hrefresh
            have hnear := callsTo_next hrefresh
            rw [hsame, if_neg hraised]
            omega

/-- With one verdict on the soil and one on the relay, fourteen calls of the task
bring the relay to where it is wanted, whatever the other threads do in between. -/
theorem settled_of_calls {raised verdict : Bool} {before later : List ControlEvent}
    (hfinds : (controlSystem F powf clock).AlongFrom (Finds raised verdict)
      ((controlSystem F powf clock).run before) later)
    (hrefreshes : (controlSystem F powf clock).AlongFrom (Refreshes powf raised)
      ((controlSystem F powf clock).run before) later)
    (hcalls : 14 ≤ later.countP isCall) :
    Settled raised verdict ((controlSystem F powf clock).run (before ++ later)) := by
  have hflags := (flagsInRange_invariant powf clock).alongFrom_run before later
  rw [System.run_append]
  exact (approaches_settled powf clock raised verdict).reached (hflags.and (hfinds.and hrefreshes))
    (.inr ((callsLeft_le raised _).trans hcalls))

/-- Without a permission the call that sets the relay closes it. -/
theorem approaches_closed :
    Approaches (controlSystem F powf clock)
      (fun s event => FlagsInRange s ∧ Finds true false s event)
      (fun s => s.waterPin = false) isCall (fun s => callsTo .waterAuto s.next) := by
  have hcloses (s : Controller F) (event : ControlEvent) (hflags : FlagsInRange s)
      (hfinds : Finds true false s event) (hcall : isCall event = true)
      (hnext : s.next = .waterAuto) : (s.step powf event).waterPin = false := by
    cases event with
    | call reads =>
        have hforbidden := hfinds rfl hnext
        rw [Bool.and_true] at hforbidden
        rw [waterPin_step_call hflags reads hnext, Bool.decide_and, hforbidden, Bool.false_and]
    | plantSoft | maixcam | hwt101 | vl53 | exti | buzzer => cases hcall
  constructor
  case kept =>
    intro s event ⟨hflags, hfinds⟩ hclosed
    by_cases hset : isCall event = true ∧ s.next = .waterAuto
    · exact hcloses s event hflags hfinds hset.1 hset.2
    · exact (waterPin_step_of_leaves fun hcall hnext => hset ⟨hcall, hnext⟩).trans hclosed
  case away => exact fun s _ => Nat.succ_pos _
  case nearer =>
    intro s event ⟨hflags, hfinds⟩ _ hnext
    change callsTo .waterAuto (s.step powf event).next + _ ≤ _
    cases hcall : isCall event with
    | false =>
        rw [(step_of_not_isCall powf s hcall).2.2]
        exact Nat.le_refl _
    | true =>
        rw [next_step_of_isCall powf s hcall, if_pos rfl]
        exact (callsTo_next fun hset => hnext (hcloses s event hflags hfinds hcall hset)).le

theorem closed_of_calls {before later : List ControlEvent}
    (hforbidden : (controlSystem F powf clock).AlongFrom (Finds true false)
      ((controlSystem F powf clock).run before) later)
    (hcalls : 9 ≤ later.countP isCall) :
    ((controlSystem F powf clock).run (before ++ later)).waterPin = false := by
  have hflags := (flagsInRange_invariant powf clock).alongFrom_run before later
  rw [System.run_append]
  exact (approaches_closed powf clock).reached (hflags.and hforbidden)
    (.inr ((callsTo_le _ _).trans hcalls))

end Float

/-! ## The thresholds -/

variable (powf : ℚ → ℚ → ℚ) (clock : UInt32)

theorem typeKnown_invariant :
    (controlSystem ℚ powf clock).Invariant fun s => TypeKnown s.car.toGlobals where
  init := ⟨.shade, rfl⟩
  step s event hknown := ((soilPart powf clock).step s s.soil event ⟨rfl, hknown⟩).2

/-- The percentage that a refreshing call measures, beside the low threshold of
the plant type of that moment. -/
def Measures (compares : ℚ → ℚ → Prop) (s : Controller ℚ) : ControlEvent → Prop
  | .call reads => s.next = .refresh →
      compares (Percent.measured reads.soil).value (typeOf s.car.soilPlantType).low
  | _ => True

instance (compares : ℚ → ℚ → Prop) [DecidableRel compares] (s : Controller ℚ) :
    ∀ event, Decidable (Measures compares s event)
  | .call _ => inferInstanceAs (Decidable (_ → _))
  | .plantSoft .. | .maixcam .. | .hwt101 .. | .vl53 .. | .exti .. | .buzzer => isTrue trivial

theorem soilAlarmFlag_refresh {s : Controller ℚ} (hknown : TypeKnown s.car.toGlobals)
    (reads : Reads) (hnext : s.next = .refresh) :
    (s.step powf (.call reads)).soil.soilAlarmFlag = 1 ↔
      (Percent.measured reads.soil).value < (typeOf s.car.soilPlantType).low ∨
        (Percent.measured reads.soil).value = (typeOf s.car.soilPlantType).low ∧
          s.soil.soilAlarmFlag = 1 := by
  have hstep := ((soilPart powf 0).step s s.soil (.call reads) ⟨rfl, hknown⟩).1
  have hevents : (soilPart powf 0).events s (.call reads) =
      [⟨.measured reads.soil, typeOf s.car.soilPlantType⟩] := if_pos hnext
  rw [hevents] at hstep
  change (s.step powf (.call reads)).soil = s.soil.step _ at hstep
  rw [hstep]
  exact soilAlarmFlag_step s.soil _

theorem refreshes_of_measures {before later : List ControlEvent} (raised : Bool)
    {compares : ℚ → ℚ → Prop} (hcompares : ∀ percent low, compares percent low →
      (raised = true → percent < low) ∧ (raised = false → low < percent))
    (hmeasures : (controlSystem ℚ powf clock).AlongFrom (Measures compares)
      ((controlSystem ℚ powf clock).run before) later) :
    (controlSystem ℚ powf clock).AlongFrom (Refreshes powf raised)
      ((controlSystem ℚ powf clock).run before) later := by
  have hknown := (typeKnown_invariant powf clock).alongFrom_run before later
  refine (hknown.and hmeasures).imp fun s event ⟨hknown, hmeasures⟩ hcall hnext => ?_
  cases event with
  | call reads =>
      obtain ⟨hdry, hmoist⟩ := hcompares _ _ (hmeasures hnext)
      have hflag := soilAlarmFlag_refresh powf hknown reads hnext
      cases raised with
      | true => exact decide_eq_true (hflag.mpr (.inl (hdry rfl)))
      | false =>
          refine decide_eq_false fun hraised => ?_
          rcases hflag.mp hraised with hbelow | ⟨hequal, -⟩
          · exact absurd hbelow (not_lt.mpr (hmoist rfl).le)
          · exact absurd hequal (hmoist rfl).ne'
  | plantSoft | maixcam | hwt101 | vl53 | exti | buzzer => cases hcall

/-- However the other threads interleave with its task, the firmware waters dry
soil within fourteen calls if it may, leaves soil above the threshold dry within
fourteen and a forbidden plant within nine. -/
theorem relay_follows_soil (before later : List ControlEvent) :
    ((controlSystem ℚ powf clock).AlongFrom
          (fun s event => Finds true true s event ∧ Measures (· < ·) s event)
          ((controlSystem ℚ powf clock).run before) later →
        14 ≤ later.countP isCall →
        ((controlSystem ℚ powf clock).run (before ++ later)).waterPin = true) ∧
      ((controlSystem ℚ powf clock).AlongFrom (Measures (· > ·))
          ((controlSystem ℚ powf clock).run before) later →
        14 ≤ later.countP isCall →
        ((controlSystem ℚ powf clock).run (before ++ later)).waterPin = false) ∧
      ((controlSystem ℚ powf clock).AlongFrom (Finds true false)
          ((controlSystem ℚ powf clock).run before) later →
        9 ≤ later.countP isCall →
        ((controlSystem ℚ powf clock).run (before ++ later)).waterPin = false) := by
  refine ⟨fun hdry hcalls => ?_, fun hmoist hcalls => ?_, fun hforbidden hcalls =>
    closed_of_calls powf clock hforbidden hcalls⟩
  · have hfinds := hdry.imp fun _ _ => And.left
    have hrefreshes := refreshes_of_measures powf clock true
      (fun _ _ hless => ⟨fun _ => hless, nofun⟩) (hdry.imp fun _ _ => And.right)
    exact (settled_of_calls powf clock hfinds hrefreshes hcalls).waterPin
  · have hrefreshes := refreshes_of_measures powf clock false
      (fun _ _ hless => ⟨nofun, fun _ => hless⟩) hmoist
    exact (settled_of_calls powf clock (hmoist.imp fun s _ _ _ _ => Bool.and_false _) hrefreshes
      hcalls).waterPin

/-- Conversions of dry soil, with everything else at rest. -/
def dryReads : Reads where
  counter1 := 0
  counter1' := 0
  counter2 := 0
  counter2' := 0
  soil := fun _ => 4000
  mq2 := fun _ => 0
  mq135 := fun _ => 0

/-- The first fourteen calls water dry soil. -/
theorem relay_follows_soil_dry :
    ((controlSystem ℚ (fun _ _ => 0) 168000000).run
      ([] ++ List.replicate 14 (.call dryReads))).waterPin = true :=
  (relay_follows_soil (fun _ _ => 0) 168000000 [] (List.replicate 14 (.call dryReads))).1
    (by decide +kernel) (by decide)

end PlantAssistant.Watering
