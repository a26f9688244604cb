import PlantAssistant.Firmware.Globals

/-! # The fill light

`ledPwm` moves the brightness one unit towards its target; `lightContral` chooses
the target from the plant type.
-/

namespace PlantAssistant.Firmware

/-- The static `i` of `LED_PWM`, and the compare value of the light's timer. -/
structure Lamp where
  i : ℕ := 0
  compare : ℕ := 0
deriving DecidableEq, Repr

namespace Lamp

/-- `LED_PWM`. -/
def ledPwm (targetPwm : ℕ) (lamp : Lamp) : Lamp :=
  let targetPwm := if 100 < targetPwm then 100 else targetPwm
  let i :=
    if lamp.i < targetPwm then lamp.i + 1
    else if targetPwm < lamp.i then lamp.i - 1
    else lamp.i
  { lamp with i := i, compare := i }

/-- The argument with which `LightContral` calls `LED_PWM`, if it does. -/
def lightTarget (contralFlag soilPlantType : ℕ) : Option ℕ :=
  if contralFlag ≠ 0 then
    if soilPlantType = uart4ModeShade then some 50
    else if soilPlantType = uart4ModeHalfShade then some 75
    else if soilPlantType = uart4ModeSun then some 100
    else none
  else some 0

/-- `LightContral`. -/
def lightContral (contralFlag soilPlantType : ℕ) (lamp : Lamp) : Lamp :=
  match lightTarget contralFlag soilPlantType with
  | some targetPwm => lamp.ledPwm targetPwm
  | none => lamp

end Lamp

/-- The brightness for a type. -/
def PlantType.brightness : PlantType → ℕ
  | .shade => 50
  | .halfShade => 75
  | .sun => 100

/-- The target with a known type. -/
def PlantType.lampTarget (type : PlantType) (contralFlag : ℕ) : ℕ :=
  if contralFlag = 0 then 0 else type.brightness

theorem PlantType.lampTarget_le (type : PlantType) (contralFlag : ℕ) :
    type.lampTarget contralFlag ≤ 100 := by
  unfold PlantType.lampTarget
  cases type <;> split <;> decide

theorem Lamp.lightTarget_mode (contralFlag : ℕ) (type : PlantType) :
    Lamp.lightTarget contralFlag type.mode = some (type.lampTarget contralFlag) := by
  unfold Lamp.lightTarget PlantType.lampTarget
  by_cases hoff : contralFlag = 0
  · rw [if_neg (not_not.mpr hoff), if_pos hoff]
  · rw [if_pos hoff, if_neg hoff]
    cases type <;> rfl

theorem Lamp.ledPwm_i_le {targetPwm : ℕ} {lamp : Lamp} (hlevel : lamp.i ≤ 100) :
    (lamp.ledPwm targetPwm).i ≤ 100 := by
  unfold Lamp.ledPwm
  dsimp only
  split_ifs <;> omega

end PlantAssistant.Firmware
