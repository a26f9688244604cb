import Mathlib.Data.List.Count
import PlantAssistant.Firmware.PWM
import PlantAssistant.Link.PlantType
import PlantAssistant.Ramp.Approach

/-! # The fill light among frames

Frames of either port may change the type and the flag between any two ticks. The
type stays a known one, so that every tick moves the light, and a hundred ticks
bring it to its target.
-/

namespace PlantAssistant.Light

open Transition Ramp PlantAssistant.Firmware PlantAssistant.Link

inductive LightEvent where
  | plantSoft (data : Memory) (size : ℕ)
  | maixcam (data : Memory) (size : ℕ)
  | tick

def LightEvent.isTick : LightEvent → Bool
  | .tick => true
  | _ => false

structure FillLight where
  globals : Globals := {}
  lamp : Lamp := {}

/-- Frames, whatever they and the memory behind them hold, and scheduler ticks. -/
def lightSystem : System FillLight LightEvent where
  init := {}
  step s event :=
    match event with
    | .plantSoft data size => { s with globals := plantSoftDataProc data size s.globals }
    | .maixcam data size => { s with globals := maixcamDataProc data size s.globals }
    | .tick =>
      { s with lamp := s.lamp.lightContral s.globals.lightOnOffFlag s.globals.soilPlantType }

/-! ## The plant type -/

theorem typeKnown_maixcamStep (data : Memory) (i : ℕ) {g : Globals} (hknown : TypeKnown g) :
    TypeKnown (maixcamStep data g i) := by
  have htype : ∀ g, TypeKnown g → TypeKnown (maixcamType data i g) := by
    intro g hknown
    unfold maixcamType
    apply typeKnown_ite _ g hknown
    intro g hknown
    dsimp only
    split_ifs
    all_goals first
      | exact hknown
      | exact ⟨.shade, rfl⟩
      | exact ⟨.halfShade, rfl⟩
      | exact ⟨.sun, rfl⟩
  have hlocation : TypeKnown (maixcamLocation data i g) := by
    unfold maixcamLocation
    split <;> exact hknown
  have hstate : TypeKnown (maixcamState data i (maixcamLocation data i g)) := by
    unfold maixcamState
    split <;> exact hlocation
  have hled := htype _ hstate
  unfold maixcamStep maixcamLed
  split <;> exact hled

theorem typeKnown_light : lightSystem.Invariant fun s => TypeKnown s.globals where
  init := ⟨.shade, rfl⟩
  step s event hknown := by
    cases event with
    | plantSoft data size => exact typeKnown_plantSoftDataProc data size hknown
    | maixcam data size =>
        change TypeKnown ((List.range (size - 1)).foldl (maixcamStep data) s.globals)
        generalize s.globals = g at hknown
        induction List.range (size - 1) generalizing g with
        | nil => exact hknown
        | cons i rest ih => exact ih _ (typeKnown_maixcamStep data i hknown)
    | tick => exact hknown

/-! ## The light -/

theorem ledPwm_eq_approach {target : ℕ} (htarget : target ≤ 100) (lamp : Lamp) :
    ((lamp.ledPwm target).i : ℤ) = approach 1 (target : ℤ) lamp.i := by
  unfold Lamp.ledPwm approach
  dsimp only
  rw [if_neg (not_lt.mpr htarget)]
  split_ifs <;> push_cast <;> omega

/-- The light is driven with what `LED_PWM` keeps, which is a percentage. -/
def Driven (lamp : Lamp) : Prop := lamp.compare = lamp.i ∧ lamp.i ≤ 100

theorem driven_light : lightSystem.Invariant fun s => Driven s.lamp where
  init := ⟨rfl, Nat.zero_le _⟩
  step s event hdriven := by
    cases event with
    | plantSoft data size => exact hdriven
    | maixcam data size => exact hdriven
    | tick =>
        change Driven (s.lamp.lightContral _ _)
        unfold Lamp.lightContral
        split
        next => exact ⟨rfl, Lamp.ledPwm_i_le hdriven.2⟩
        next => exact hdriven

theorem lightContral_eq_approach (flag : ℕ) (type : PlantType) (lamp : Lamp) :
    ((lamp.lightContral flag type.mode).i : ℤ) = approach 1 (type.lampTarget flag : ℤ) lamp.i := by
  unfold Lamp.lightContral
  rw [Lamp.lightTarget_mode]
  exact ledPwm_eq_approach (type.lampTarget_le flag) lamp

/-- One event moves the light at most one step, and only a tick does. -/
theorem light_step (s : FillLight) (hknown : TypeKnown s.globals) (event : LightEvent) :
    |((lightSystem.step s event).lamp.i : ℤ) - s.lamp.i| ≤ if event.isTick then 1 else 0 := by
  cases event with
  | plantSoft data size => simp [lightSystem, LightEvent.isTick]
  | maixcam data size => simp [lightSystem, LightEvent.isTick]
  | tick =>
      obtain ⟨type, htype⟩ := hknown
      change |((s.lamp.lightContral s.globals.lightOnOffFlag
        s.globals.soilPlantType).i : ℤ) - _| ≤ 1
      rw [htype, lightContral_eq_approach, abs_approach_sub zero_le_one]
      exact min_le_left _ _

/-- The ticks find this flag and this type. -/
def TicksFind (flag soilPlantType : ℕ) (s : FillLight) (event : LightEvent) : Prop :=
  event.isTick → s.globals.lightOnOffFlag = flag ∧ s.globals.soilPlantType = soilPlantType

instance (flag soilPlantType : ℕ) (s : FillLight) (event : LightEvent) :
    Decidable (TicksFind flag soilPlantType s event) :=
  inferInstanceAs (Decidable (_ → _))

/-- While the ticks find the same flag and type, each is a step towards the target. -/
theorem light_runFrom {flag : ℕ} {type : PlantType} {events : List LightEvent} {s : FillLight}
    (hfind : lightSystem.AlongFrom (TicksFind flag type.mode) s events) :
    ((lightSystem.runFrom s events).lamp.i : ℤ) =
      (approach 1 (type.lampTarget flag : ℤ))^[events.countP LightEvent.isTick] s.lamp.i := by
  induction events generalizing s with
  | nil => rfl
  | cons event events ih =>
      obtain ⟨hnow, hlater⟩ := hfind
      rw [System.runFrom_cons, ih hlater]
      cases event with
      | plantSoft data size => rfl
      | maixcam data size => rfl
      | tick =>
          obtain ⟨hflag, htype⟩ := hnow rfl
          rw [List.countP_cons_of_pos rfl, Function.iterate_succ_apply,
            ← lightContral_eq_approach, ← hflag, ← htype]
          rfl

/-- What a tick finds is a known type. -/
theorem exists_type_of_ticksFind {flag soilPlantType : ℕ} {events : List LightEvent}
    {s : FillLight} (hknown : TypeKnown s.globals)
    (hfind : lightSystem.AlongFrom (TicksFind flag soilPlantType) s events)
    (hticks : 0 < events.countP LightEvent.isTick) :
    ∃ type : PlantType, soilPlantType = type.mode := by
  induction events generalizing s with
  | nil => cases hticks
  | cons event events ih =>
      obtain ⟨hnow, hlater⟩ := hfind
      cases htick : event.isTick with
      | true =>
          obtain ⟨type, htype⟩ := hknown
          exact ⟨type, (hnow htick).2.symm.trans htype⟩
      | false =>
          rw [List.countP_cons_of_neg (by simp [htick])] at hticks
          exact ih (typeKnown_light.step s event hknown) hlater hticks

/-- A hundred ticks are enough for the way from any level to any target. -/
theorem light_arrives {flag : ℕ} {type : PlantType} {later : List LightEvent} {s : FillLight}
    (hlevel : s.lamp.i ≤ 100) (hticks : 100 ≤ later.countP LightEvent.isTick)
    (hfind : lightSystem.AlongFrom (TicksFind flag type.mode) s later) :
    (lightSystem.runFrom s later).lamp.i = type.lampTarget flag := by
  have htarget := type.lampTarget_le flag
  have hreached : ((lightSystem.runFrom s later).lamp.i : ℤ) = type.lampTarget flag := by
    rw [light_runFrom hfind, iterate_approach_eq_iff zero_le_one, abs_le]
    constructor <;> omega
  exact_mod_cast hreached

/-- The type is known and the light driven at every tick, by at most one step; a
hundred ticks with the same flag and type bring it to their target. -/
theorem light_follows (events : List LightEvent) :
    (lightSystem.run events).globals.soilPlantType ∈ [1, 2, 3] ∧
    (Lamp.lightTarget (lightSystem.run events).globals.lightOnOffFlag
      (lightSystem.run events).globals.soilPlantType).isSome ∧
    (lightSystem.run events).lamp.compare ≤ 100 ∧
    (∀ event,
      |((lightSystem.run (events ++ [event])).lamp.compare : ℤ) -
        (lightSystem.run events).lamp.compare| ≤ if event.isTick then 1 else 0) ∧
    ∀ (later : List LightEvent) (flag soilPlantType : ℕ),
      100 ≤ later.countP LightEvent.isTick →
      lightSystem.AlongFrom (TicksFind flag soilPlantType) (lightSystem.run events) later →
      (lightSystem.run (events ++ later)).lamp.compare =
        if flag = 0 then 0
        else if soilPlantType = 1 then 50 else if soilPlantType = 2 then 75 else 100 := by
  have hknown := typeKnown_light.run events
  have hdriven := driven_light.run events
  refine ⟨?_, ?_, hdriven.1.trans_le hdriven.2, ?_, ?_⟩
  · obtain ⟨type, htype⟩ := hknown
    rw [htype]
    cases type <;> decide
  · obtain ⟨type, htype⟩ := hknown
    rw [htype, Lamp.lightTarget_mode]
    rfl
  · intro event
    rw [(driven_light.run (events ++ [event])).1, hdriven.1, System.run_concat]
    exact light_step _ hknown event
  · intro later flag soilPlantType hticks hfind
    obtain ⟨type, rfl⟩ := exists_type_of_ticksFind hknown hfind (by omega)
    have htarget : type.lampTarget flag =
        if flag = 0 then 0
        else if type.mode = 1 then 50 else if type.mode = 2 then 75 else 100 := by
      unfold PlantType.lampTarget
      cases type <;> rfl
    rw [(driven_light.run (events ++ later)).1, ← htarget, System.run_append]
    exact light_arrives hdriven.2 hticks hfind

/-- The panel turns the light on. -/
theorem light_follows_on :
    (lightSystem.run ([.plantSoft (frameIn [0xAA, 0x30, 0x01, 0x55] fun _ => 0) 4] ++
      List.replicate 100 .tick)).lamp.compare = 50 :=
  (light_follows _).2.2.2.2 (List.replicate 100 .tick) 1 1 (by decide +kernel)
    (by decide +kernel)

end PlantAssistant.Light
