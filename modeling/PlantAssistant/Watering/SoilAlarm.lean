import PlantAssistant.Firmware.Soil
import PlantAssistant.Link.Telemetry
import PlantAssistant.Panel.Dashboard

/-! # When to water, on either side

The panel decides from a percentage in tenths. Its thresholds are whole numbers,
so nothing is lost by the truncation, and its decision is the one the firmware
takes, unless a sample at the threshold finds the alarm raised.
-/

namespace PlantAssistant.Watering

open Transition PlantAssistant.Firmware PlantAssistant.Link PlantAssistant.Panel

/-- A whole threshold separates the tenths of a percentage as it does the
percentage. -/
theorem tenths_lt_iff (q : ℚ) (threshold : ℤ) : tenths q < threshold ↔ q < threshold := by
  have hscaled : tenths q < threshold ↔ ⌊10 * q⌋ < 10 * threshold := by
    rw [tenths, div_lt_iff₀ (by norm_num), mul_comm (threshold : ℚ)]
    exact_mod_cast Iff.rfl
  rw [hscaled, Int.floor_lt]
  push_cast
  constructor
  · intro hlt
    linarith
  · intro hlt
    linarith

theorem moistureThreshold_eq {type : PlantType} {d : Dashboard}
    (htype : d.currentPlantTypeCode = type.code) : d.moistureThreshold = type.low := by
  unfold Dashboard.moistureThreshold
  rw [htype]
  cases type <;> rfl

theorem exists_low_eq (type : PlantType) : ∃ threshold : ℤ, type.low = threshold := by
  cases type with
  | shade => exact ⟨5, rfl⟩
  | halfShade => exact ⟨25, rfl⟩
  | sun => exact ⟨40, rfl⟩

/-- From the soil frame of a percentage the panel decides as from the percentage. -/
theorem shouldEnable_soilpack (events : List (TelemetryEvent ℚ)) {input : TelemetryInput ℚ}
    {percent : Percent} (hpercent : input.oledSoilPercent = percent.value)
    {type : PlantType} {d : Dashboard} (htype : d.currentPlantTypeCode = type.code) :
    ∃ packet,
      handleFrame (sendDataToPlantSoft input ((uplinkSystem ℚ).run events).telemetry).1.soilpack =
          [packet] ∧
        ((d.readSensorPacket packet).shouldEnable = true ↔ percent.value < type.low) := by
  have hlaid := (uplinkSystem_invariant (F := ℚ)).run events
  obtain ⟨hsoil, -⟩ := hlaid.1.sensorFrames input
  have hlow := percent.nonneg
  have hhigh := percent.le_hundred
  have htrunc := toUInt16_rat (q := percent.value * 10) (by linarith) (by linarith)
  rw [hpercent] at hsoil
  refine ⟨_, by rw [hsoil]; exact handleSensorFrame_sensorFrame 0x10 (toUInt16_lt _), ?_⟩
  obtain ⟨threshold, hthreshold⟩ := exists_low_eq type
  have hword : ((CFloat.toUInt16 (percent.value * 10) : ℕ) : ℚ) / 10 = tenths percent.value := by
    rw [tenths, mul_comm (10 : ℚ), ← htrunc]
    rfl
  have hdecision : (d.readSensorPacket (.reading .soilMoisture
      ((CFloat.toUInt16 (percent.value * 10) : ℕ) / 10)
      (hexText (sensorFrame 0x10 (CFloat.toUInt16 (percent.value * 10)))))).shouldEnable =
      decide (tenths percent.value < d.moistureThreshold) := by
    rw [← hword]
    rfl
  change Dashboard.shouldEnable (Dashboard.readSensorPacket (.reading .soilMoisture _ _) d) = _ ↔ _
  rw [lit_rat, hdecision, decide_eq_true_iff, moistureThreshold_eq htype, hthreshold]
  exact tenths_lt_iff percent.value threshold

/-! ## Histories of samples -/

/-- The sample raises the alarm exactly if it is below the low threshold, which
is when the panel decides to water. -/
structure Agrees (s : Soil ℚ) (sample : SoilSample) : Prop where
  firmware : (s.step sample).soilAlarmFlag = 1 ↔ sample.percent.value < sample.plantType.low
  panel : ∀ (events : List (TelemetryEvent ℚ)) (input : TelemetryInput ℚ) (d : Dashboard),
    input.oledSoilPercent = sample.percent.value →
    d.currentPlantTypeCode = sample.plantType.code →
    ∃ packet,
      handleFrame (sendDataToPlantSoft input ((uplinkSystem ℚ).run events).telemetry).1.soilpack =
          [packet] ∧
        ((s.step sample).soilAlarmFlag = 1 ↔ (d.readSensorPacket packet).shouldEnable = true)

/-- A sample at the low threshold does not meet a raised alarm. -/
def NotHeld (s : Soil ℚ) (sample : SoilSample) : Prop :=
  sample.percent.value = sample.plantType.low → s.soilAlarmFlag ≠ 1

theorem agrees_iff (s : Soil ℚ) (sample : SoilSample) : Agrees s sample ↔ NotHeld s sample := by
  have hstep := soilAlarmFlag_step s sample
  have hfirmware : ((s.step sample).soilAlarmFlag = 1 ↔
      sample.percent.value < sample.plantType.low) ↔ NotHeld s sample := by
    rw [hstep]
    unfold NotHeld
    constructor
    · intro hbelow hequal hraised
      exact absurd (hbelow.mp (.inr ⟨hequal, hraised⟩)) hequal.not_lt
    · intro hheld
      constructor
      · rintro (hbelow | ⟨hequal, hraised⟩)
        · exact hbelow
        · exact absurd hraised (hheld hequal)
      · exact Or.inl
  constructor
  · intro hagrees
    exact hfirmware.mp hagrees.firmware
  · intro hheld
    have hflag := hfirmware.mpr hheld
    refine ⟨hflag, ?_⟩
    intro events input d hpercent htype
    obtain ⟨packet, hpacket, hdecision⟩ := shouldEnable_soilpack events hpercent htype
    exact ⟨packet, hpacket, hflag.trans hdecision.symm⟩

/-- Firmware and panel agree on when to water throughout a history of samples
and plant types if and only if no sample at the low threshold of its plant type
meets a raised alarm. -/
theorem soil_agrees_iff (samples : List SoilSample) :
    soilSystem.Along Agrees samples ↔ soilSystem.Along NotHeld samples := by
  have htrivial : soilSystem.Invariant fun _ => True := ⟨trivial, fun _ _ _ => trivial⟩
  apply htrivial.along_congr
  intro s sample _
  exact agrees_iff s sample

/-- A plant in the sun is watered, and at 40 % the alarm stays. -/
theorem alarm_held_at_forty :
    ¬ soilSystem.Along Agrees
      [⟨.measured fun _ => 2458, .sun⟩, ⟨.measured fun _ => 2457, .sun⟩] := by
  rintro ⟨-, hsecond, -⟩
  have hraised : (soilSystem.step soilSystem.init
      ⟨.measured fun _ => 2458, .sun⟩).soilAlarmFlag = 1 := by decide +kernel
  have hforty : (Percent.measured fun _ => 2457).value = PlantType.low .sun := by decide +kernel
  exact (agrees_iff _ _).mp hsecond hforty hraised

end PlantAssistant.Watering
