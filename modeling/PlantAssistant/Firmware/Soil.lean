import PlantAssistant.Firmware.Globals
import PlantAssistant.Transition.Run

/-! # The soil sensor

Ten readings are averaged, turned into a percentage and clamped. The alarm flag
follows the percentage through two thresholds of the current plant type.
-/

namespace PlantAssistant.Firmware

section Soil

variable {F : Type} [CFloat F]

/-- `Soil_GetData_Percent`, from what `Soil_ADC_Read` returns. -/
def soilGetDataPercent (reads : Fin 10 → ℕ) : F :=
  let tempData := (List.ofFn reads).foldl
    (fun (tempData : F) (read : ℕ) => tempData + CFloat.lit read) (CFloat.lit 0)
  let tempData := tempData / CFloat.lit 10
  let percent := (CFloat.lit 4095 - tempData) / CFloat.lit 4095 * CFloat.lit 100
  let percent := if CFloat.lit 100 < percent then CFloat.lit 100 else percent
  if percent < CFloat.lit 0 then CFloat.lit 0 else percent

/-- `lowThreshold` and `highThreshold`. -/
def soilThresholds (soilPlantType : ℕ) : F × F :=
  if soilPlantType = uart4ModeShade then (CFloat.lit 5, CFloat.lit 25)
  else if soilPlantType = uart4ModeHalfShade then (CFloat.lit 25, CFloat.lit 40)
  else if soilPlantType = uart4ModeSun then (CFloat.lit 40, CFloat.lit 75)
  else (CFloat.lit 5, CFloat.lit 25)

/-- `percentSoil` and `Soil_AlarmFlag`. -/
structure Soil (F : Type) where
  percentSoil : F
  soilAlarmFlag : ℕ

def Soil.statics : Soil F where
  percentSoil := CFloat.lit 0
  soilAlarmFlag := 0

/-- `Soil_UpdateAlarmFlag`, which does nothing at the low threshold itself. -/
def soilUpdateAlarmFlag (soilPlantType : ℕ) (s : Soil F) : Soil F :=
  let thresholds : F × F := soilThresholds soilPlantType
  if s.percentSoil < thresholds.1 then { s with soilAlarmFlag := 1 }
  else if thresholds.2 ≤ s.percentSoil then { s with soilAlarmFlag := 0 }
  else if thresholds.1 < s.percentSoil then { s with soilAlarmFlag := 2 }
  else s

end Soil

/-! ## Exact arithmetic -/

/-- A percentage of moisture. -/
structure Percent where
  value : ℚ
  nonneg : 0 ≤ value
  le_hundred : value ≤ 100

/-- What is measured is a percentage. -/
def Percent.measured (reads : Fin 10 → ℕ) : Percent where
  value := soilGetDataPercent reads
  nonneg := by
    unfold soilGetDataPercent
    dsimp only [lit_rat]
    split_ifs with hhigh hlow hlow
    · exact le_refl 0
    · exact not_lt.mp hlow
    · exact le_refl 0
    · exact not_lt.mp hlow
  le_hundred := by
    unfold soilGetDataPercent
    dsimp only [lit_rat]
    split_ifs with hhigh
    · norm_num
    · norm_num
    · norm_num
    · exact not_lt.mp hhigh

/-- The low threshold of a plant type. -/
def PlantType.low : PlantType → ℚ
  | .shade => 5
  | .halfShade => 25
  | .sun => 40

theorem soilThresholds_low (type : PlantType) :
    (soilThresholds type.mode : ℚ × ℚ).1 = type.low := by
  cases type <;> rfl

theorem low_lt_high (type : PlantType) : type.low < (soilThresholds type.mode : ℚ × ℚ).2 := by
  cases type <;> norm_num [PlantType.low, PlantType.mode, soilThresholds]

/-- A percentage that is measured, with the plant type at that moment. -/
structure SoilSample where
  percent : Percent
  plantType : PlantType

def Soil.step (s : Soil ℚ) (sample : SoilSample) : Soil ℚ :=
  soilUpdateAlarmFlag sample.plantType.mode { s with percentSoil := sample.percent.value }

open Transition in
def soilSystem : System (Soil ℚ) SoilSample where
  init := Soil.statics
  step := Soil.step

/-- The flag is raised below the low threshold and by no other sample, except
that a sample at the threshold keeps it. -/
theorem soilAlarmFlag_step (s : Soil ℚ) (sample : SoilSample) :
    (s.step sample).soilAlarmFlag = 1 ↔
      sample.percent.value < sample.plantType.low ∨
        sample.percent.value = sample.plantType.low ∧ s.soilAlarmFlag = 1 := by
  have hhigh := low_lt_high sample.plantType
  unfold Soil.step soilUpdateAlarmFlag
  dsimp only
  rw [soilThresholds_low]
  split
  next hbelow => exact iff_of_true rfl (.inl hbelow)
  next hbelow =>
    split
    next habove =>
      refine iff_of_false (by simp) ?_
      rintro (hlow | ⟨hequal, -⟩)
      · exact hbelow hlow
      · exact absurd (hequal ▸ habove) (not_le.mpr hhigh)
    next =>
      split
      next hbetween =>
        refine iff_of_false (by simp) ?_
        rintro (hlow | ⟨hequal, -⟩)
        · exact hbelow hlow
        · exact hbetween.ne' hequal
      next hnot =>
        -- neither below nor above
        have hequal := le_antisymm (not_lt.mp hnot) (not_lt.mp hbelow)
        simp [hequal]

end PlantAssistant.Firmware
