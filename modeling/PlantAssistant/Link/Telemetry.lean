import Mathlib.Tactic.FieldSimp
import Mathlib.Tactic.Ring
import PlantAssistant.Climate.Capture
import PlantAssistant.Firmware.Usart5
import PlantAssistant.Panel.SerialPanel
import PlantAssistant.Transition.Run

/-! # Telemetry from the firmware to the panel

The frames keep their layout in every run, so a frame that is sent is read by
the panel as one packet. What it carries is the measured value in tenths, except
that temperature and humidity lose theirs on the way.
-/

namespace PlantAssistant.Link

open Transition PlantAssistant.Firmware PlantAssistant.Panel

/-! ## The layout of the frames -/

/-- A call of `SendData_to_PlantSoft`, or an attitude frame, whose handler
writes the yaw into `Obspack`. -/
inductive TelemetryEvent (F : Type) where
  | send (input : TelemetryInput F)
  | yaw (hi lo : UInt8)

/-- The frames kept, and everything sent so far. -/
structure Uplink where
  telemetry : Telemetry := {}
  sent : List (List UInt8) := []

section Layout

variable {F : Type} [CFloat F]

def Uplink.step (u : Uplink) : TelemetryEvent F → Uplink
  | .send input =>
      let out := sendDataToPlantSoft input u.telemetry
      { telemetry := out.1, sent := u.sent ++ out.2 }
  | .yaw hi lo =>
      { u with telemetry := { u.telemetry with
          obspack := (u.telemetry.obspack.set 3 lo).set 2 hi } }

def uplinkSystem (F : Type) [CFloat F] : System Uplink (TelemetryEvent F) where
  init := {}
  step := Uplink.step

/-- Every frame of the telemetry, with any payload. -/
inductive TelemetryFrame : List UInt8 → Prop
  | sensor {type : UInt8} (hi lo : UInt8) :
      type ∈ [0x10, 0x11, 0x12, 0x13] → TelemetryFrame [0xAA, 0x10, type, hi, lo, 0x55]
  | obstacle (yawHi yawLo hi lo : UInt8) :
      TelemetryFrame [0xAA, 0x20, yawHi, yawLo, hi, lo, 0x55]
  | plantState (code : UInt8) : TelemetryFrame [0xAA, 0x30, code, 0x55]
  | plantType (code : UInt8) : TelemetryFrame [0xAA, 0x70, code, 0x55]

/-- A sensor frame of the given type. -/
def sensorFrame (type : UInt8) (word : ℕ) : List UInt8 :=
  [0xAA, 0x10, type, hiByte word, loByte word, 0x55]

structure Laid (t : Telemetry) : Prop where
  soilpack : ∃ hi lo, t.soilpack = [0xAA, 0x10, 0x10, hi, lo, 0x55]
  temppack : ∃ hi lo, t.temppack = [0xAA, 0x10, 0x11, hi, lo, 0x55]
  humipack : ∃ hi lo, t.humipack = [0xAA, 0x10, 0x12, hi, lo, 0x55]
  airpack : ∃ hi lo, t.airpack = [0xAA, 0x10, 0x13, hi, lo, 0x55]
  obspack : ∃ yawHi yawLo hi lo, t.obspack = [0xAA, 0x20, yawHi, yawLo, hi, lo, 0x55]
  plantstatepack : ∃ code, t.plantstatepack = [0xAA, 0x30, code, 0x55]
  plantTypepack : ∃ code, t.plantTypepack = [0xAA, 0x70, code, 0x55]

theorem laid_init : Laid {} :=
  ⟨⟨_, _, rfl⟩, ⟨_, _, rfl⟩, ⟨_, _, rfl⟩, ⟨_, _, rfl⟩, ⟨_, _, _, _, rfl⟩, ⟨_, rfl⟩, ⟨_, rfl⟩⟩

theorem Laid.fillPacks {t : Telemetry} (hlaid : Laid t) (input : TelemetryInput F) :
    Laid (fillPacks input t) := by
  obtain ⟨⟨_, _, hsoil⟩, ⟨_, _, htemp⟩, ⟨_, _, hhumi⟩, ⟨_, _, hair⟩, ⟨_, _, _, _, hobs⟩,
    ⟨_, hstate⟩, ⟨_, htype⟩⟩ := hlaid
  simp only [Firmware.fillPacks, hsoil, htemp, hhumi, hair, hobs, hstate, htype]
  exact ⟨⟨_, _, rfl⟩, ⟨_, _, rfl⟩, ⟨_, _, rfl⟩, ⟨_, _, rfl⟩, ⟨_, _, _, _, rfl⟩, ⟨_, rfl⟩, ⟨_, rfl⟩⟩

theorem Laid.yaw {t : Telemetry} (hlaid : Laid t) (hi lo : UInt8) :
    Laid { t with obspack := (t.obspack.set 3 lo).set 2 hi } := by
  obtain ⟨_, _, _, _, hobs⟩ := hlaid.obspack
  exact { hlaid with obspack := ⟨_, _, _, _, by rw [hobs]; rfl⟩ }

/-- The sensor frames after a call, from whatever they held before. -/
theorem Laid.sensorFrames {t : Telemetry} (hlaid : Laid t) (input : TelemetryInput F) :
    let packs := (sendDataToPlantSoft input t).1
    packs.soilpack =
        sensorFrame 0x10 (CFloat.toUInt16 (input.oledSoilPercent * CFloat.lit 10)) ∧
      packs.temppack = sensorFrame 0x11 (CFloat.toUInt16 input.myTemp * 10) ∧
      packs.humipack = sensorFrame 0x12 (CFloat.toUInt16 input.myHumi * 10) ∧
      packs.airpack = sensorFrame 0x13 (CFloat.toUInt16 input.oledMQ135ppm) := by
  obtain ⟨⟨_, _, hsoil⟩, ⟨_, _, htemp⟩, ⟨_, _, hhumi⟩, ⟨_, _, hair⟩, -, -, -⟩ := hlaid
  simp only [sendDataToPlantSoft, Firmware.fillPacks, hsoil, htemp, hhumi, hair]
  exact ⟨rfl, rfl, rfl, rfl⟩

theorem Laid.send {t : Telemetry} (hlaid : Laid t) (input : TelemetryInput F) :
    Laid (sendDataToPlantSoft input t).1 ∧
      ∀ frame ∈ (sendDataToPlantSoft input t).2, TelemetryFrame frame := by
  have hfilled := hlaid.fillPacks input
  refine ⟨⟨hfilled.1, hfilled.2, hfilled.3, hfilled.4, hfilled.5, hfilled.6, hfilled.7⟩, ?_⟩
  obtain ⟨⟨_, _, hsoil⟩, ⟨_, _, htemp⟩, ⟨_, _, hhumi⟩, ⟨_, _, hair⟩, ⟨_, _, _, _, hobs⟩,
    ⟨_, hstate⟩, ⟨_, htype⟩⟩ := hfilled
  intro frame hsent
  simp only [sendDataToPlantSoft, hsoil, htemp, hhumi, hair, hobs, hstate, htype, List.mem_append,
    List.mem_ite_nil_right, List.mem_singleton] at hsent
  rcases hsent with (((((⟨-, rfl⟩ | ⟨-, rfl⟩) | ⟨-, rfl⟩) | ⟨-, rfl⟩) | ⟨-, rfl⟩) | ⟨-, rfl⟩) |
    ⟨-, rfl⟩
  · exact .sensor _ _ (by decide)
  · exact .sensor _ _ (by decide)
  · exact .sensor _ _ (by decide)
  · exact .sensor _ _ (by decide)
  · exact .obstacle _ _ _ _
  · exact .plantState _
  · exact .plantType _

/-- In every run the frames keep their layout, and only such frames were sent. -/
theorem uplinkSystem_invariant :
    (uplinkSystem F).Invariant fun u =>
      Laid u.telemetry ∧ ∀ frame ∈ u.sent, TelemetryFrame frame where
  init := ⟨laid_init, nofun⟩
  step u event hinv := by
    obtain ⟨hlaid, hsent⟩ := hinv
    cases event with
    | send input =>
        obtain ⟨hlaid', hsent'⟩ := hlaid.send input
        refine ⟨hlaid', fun frame hmem => ?_⟩
        exact (List.mem_append.mp hmem).elim (hsent frame) (hsent' frame)
    | yaw hi lo => exact ⟨hlaid.yaw hi lo, hsent⟩

end Layout

/-! ## The values -/

/-- The panel's words are the firmware's, high byte first. -/
theorem rawWord_eq_beWord (frame : List UInt8) (i : ℕ) :
    rawWord frame i = beWord (frame.getD i 0) (frame.getD (i + 1) 0) := by
  have hhi : (frame.getD i 0).toNat <<< 8 < 2 ^ 16 := by
    have hlt := (frame.getD i 0).toNat_lt
    rw [Nat.shiftLeft_eq]
    omega
  rw [rawWord, beWord, uint16, Nat.mod_eq_of_lt hhi]

theorem rawWord_sensorFrame (type : UInt8) {word : ℕ} (hword : word < 2 ^ 16) :
    rawWord (sensorFrame type word) 3 = word := by
  rw [rawWord_eq_beWord]
  exact beWord_bytes hword

/-- What the panel emits for a sensor frame. -/
def decodedReading (type : UInt8) (word : ℕ) (text : Text) : List Packet :=
  if type = 0x10 then [.reading .soilMoisture (word / 10) text]
  else if type = 0x11 then [.reading .temperature (word / 10) text]
  else if type = 0x12 then [.reading .airHumidity (word / 10) text]
  else if type = 0x13 then [.reading .airQuality word text]
  else []

theorem handleSensorFrame_sensorFrame (type : UInt8) {word : ℕ} (hword : word < 2 ^ 16) :
    handleSensorFrame (sensorFrame type word) =
      decodedReading type word (hexText (sensorFrame type word)) := by
  simp only [handleSensorFrame, rawWord_sensorFrame type hword]
  rfl

theorem toUInt16_lt (q : ℚ) : CFloat.toUInt16 q < 2 ^ 16 := by
  unfold CFloat.toUInt16
  omega

/-- The conversion of a value that fits truncates it. -/
theorem toUInt16_rat {q : ℚ} (hlow : 0 ≤ q) (hhigh : q < 2 ^ 16) :
    (CFloat.toUInt16 q : ℤ) = ⌊q⌋ := by
  have hfloor : 0 ≤ ⌊q⌋ := Int.floor_nonneg.mpr hlow
  have hlt : ⌊q⌋ < 2 ^ 16 := Int.floor_lt.mpr (by exact_mod_cast hhigh)
  rw [CFloat.toUInt16, toInt_rat_of_nonneg hlow, Int.emod_eq_of_lt hfloor hlt,
    Int.toNat_of_nonneg hfloor]

/-- Truncation to one decimal place of a value that is not negative. -/
def tenths (q : ℚ) : ℚ := ⌊10 * q⌋ / 10

/-- The panel emits `value` for this frame. -/
def Carries (frame : List UInt8) (type : Reading) (value : ℚ) : Prop :=
  ∃ text, handleSensorFrame frame = [.reading type value text]

theorem carries_word {type : UInt8} {reading : Reading} {word : ℕ} (hword : word < 2 ^ 16)
    (htype : (type, reading) ∈ [((0x10 : UInt8), Reading.soilMoisture), (0x11, .temperature),
      (0x12, .airHumidity)]) (value : ℚ) :
    Carries (sensorFrame type word) reading value ↔ (word : ℚ) / 10 = value := by
  rw [Carries, handleSensorFrame_sensorFrame type hword]
  simp only [List.mem_cons, Prod.mk.injEq, List.not_mem_nil, or_false] at htype
  rcases htype with ⟨rfl, rfl⟩ | ⟨rfl, rfl⟩ | ⟨rfl, rfl⟩ <;> simp [decodedReading]

theorem floor_published (whole part : ℕ) :
    ⌊(whole : ℚ) + part * (1 / 10)⌋ = ((whole + part / 10 : ℕ) : ℤ) := by
  have hsplit : (part : ℚ) = 10 * (part / 10 : ℕ) + (part % 10 : ℕ) := by
    exact_mod_cast (Nat.div_add_mod part 10).symm
  have hlow : (0 : ℚ) ≤ (part % 10 : ℕ) := Nat.cast_nonneg _
  have hhigh : ((part % 10 : ℕ) : ℚ) ≤ 9 := by
    have hrest : part % 10 ≤ 9 := by omega
    exact_mod_cast hrest
  generalize part / 10 = quotient, part % 10 = rest at hsplit hlow hhigh ⊢
  rw [Int.floor_eq_iff, hsplit]
  push_cast
  constructor <;> linarith

theorem toUInt16_published (whole part : UInt8) :
    CFloat.toUInt16 ((whole.toNat : ℚ) + part.toNat * (1 / 10)) =
      whole.toNat + part.toNat / 10 := by
  have hlow : (0 : ℚ) ≤ whole.toNat + part.toNat * (1 / 10) := by positivity
  have hwhole : (whole.toNat : ℚ) < 256 := by exact_mod_cast whole.toNat_lt
  have hpart : (part.toNat : ℚ) < 256 := by exact_mod_cast part.toNat_lt
  have htrunc := toUInt16_rat hlow (by linarith)
  rw [floor_published] at htrunc
  exact_mod_cast htrunc

/-- A value published by the sensor driver, a whole part and a count of tenths,
survives the cast before the scaling exactly if it is whole. -/
theorem published_tenths_iff (whole part : UInt8) :
    ((CFloat.toUInt16 ((whole.toNat : ℚ) + part.toNat * (1 / 10)) * 10 : ℕ) : ℚ) / 10 =
        tenths ((whole.toNat : ℚ) + part.toNat * (1 / 10)) ↔
      part.toNat % 10 = 0 := by
  have htenths : tenths ((whole.toNat : ℚ) + part.toNat * (1 / 10)) =
      (10 * whole.toNat + part.toNat : ℕ) / 10 := by
    have hscaled : 10 * ((whole.toNat : ℚ) + part.toNat * (1 / 10)) =
        ((10 * whole.toNat + part.toNat : ℕ) : ℤ) := by
      push_cast
      ring
    rw [tenths, hscaled, Int.floor_intCast]
    rfl
  rw [toUInt16_published, htenths, div_left_inj' (by norm_num), Nat.cast_inj]
  omega

/-- The frame of such a value carries it exactly if it is whole. -/
theorem carries_published_iff {type : UInt8} {reading : Reading}
    (htype : (type, reading) ∈ [((0x10 : UInt8), Reading.soilMoisture), (0x11, .temperature),
      (0x12, .airHumidity)]) {value : ℚ} (whole part : UInt8)
    (hvalue : value = (whole.toNat : ℚ) + part.toNat * (1 / 10)) :
    Carries (sensorFrame type (CFloat.toUInt16 value * 10)) reading (tenths value) ↔
      part.toNat % 10 = 0 := by
  subst hvalue
  have hfits : CFloat.toUInt16 ((whole.toNat : ℚ) + part.toNat * (1 / 10)) * 10 < 2 ^ 16 := by
    have hwhole := whole.toNat_lt
    have hpart := part.toNat_lt
    rw [toUInt16_published]
    omega
  rw [carries_word hfits htype]
  exact published_tenths_iff whole part

/-- For temperatures and humidities the sensor driver publishes, and soil and
air values in their ranges: the packets the panel emits carry the measured
values, in tenths and for the air as a whole number, if and only if the sensor
sent whole degrees and whole percents. -/
theorem telemetry_exact_iff (events : List (TelemetryEvent ℚ)) (input : TelemetryInput ℚ)
    (s : Dht11 ℚ) (b0 b1 b2 b3 : UInt8)
    (hframe : s.frameBytes = [b0, b1, b2, b3, b0 + b1 + b2 + b3])
    (htemp : input.myTemp = s.processFrame.temperatureC)
    (hhumi : input.myHumi = s.processFrame.humidityRh)
    (hsoil : 0 ≤ input.oledSoilPercent ∧ input.oledSoilPercent ≤ 100)
    (hair : 0 ≤ input.oledMQ135ppm ∧ input.oledMQ135ppm ≤ 999) :
    let packs := (sendDataToPlantSoft input ((uplinkSystem ℚ).run events).telemetry).1
    (Carries packs.soilpack .soilMoisture (tenths input.oledSoilPercent) ∧
        Carries packs.temppack .temperature (tenths input.myTemp) ∧
        Carries packs.humipack .airHumidity (tenths input.myHumi) ∧
        Carries packs.airpack .airQuality ⌊input.oledMQ135ppm⌋) ↔
      b3.toNat % 10 = 0 ∧ b1.toNat % 10 = 0 := by
  have hlaid := (uplinkSystem_invariant.run events).1
  obtain ⟨hsoilpack, htemppack, hhumipack, hairpack⟩ := hlaid.sensorFrames input
  have hvalid : Climate.ChecksumValid s.frameBytes := by rw [hframe]; rfl
  rw [Climate.processFrame_eq, if_pos hvalid, hframe] at htemp hhumi
  replace htemp : input.myTemp = (b2.toNat : ℚ) + b3.toNat * (1 / 10) := htemp
  replace hhumi : input.myHumi = (b0.toNat : ℚ) + b1.toNat * (1 / 10) := hhumi
  intro packs
  have htempword : Carries packs.temppack .temperature (tenths input.myTemp) ↔
      b3.toNat % 10 = 0 := by
    rw [htemppack]
    exact carries_published_iff (by decide) b2 b3 htemp
  have hhumiword : Carries packs.humipack .airHumidity (tenths input.myHumi) ↔
      b1.toNat % 10 = 0 := by
    rw [hhumipack]
    exact carries_published_iff (by decide) b0 b1 hhumi
  have hsoilword : Carries packs.soilpack .soilMoisture (tenths input.oledSoilPercent) := by
    have htrunc := toUInt16_rat (q := input.oledSoilPercent * 10) (by linarith) (by linarith)
    have hfits : CFloat.toUInt16 (input.oledSoilPercent * CFloat.lit 10) < 2 ^ 16 :=
      toUInt16_lt _
    rw [hsoilpack, carries_word hfits (by decide), tenths, mul_comm (10 : ℚ), ← htrunc]
    rfl
  have hairword : Carries packs.airpack .airQuality ⌊input.oledMQ135ppm⌋ := by
    have htrunc := toUInt16_rat (q := input.oledMQ135ppm) hair.1 (by linarith)
    refine ⟨hexText packs.airpack, ?_⟩
    rw [hairpack, handleSensorFrame_sensorFrame _ (toUInt16_lt _), ← htrunc]
    rfl
  rw [htempword, hhumiword]
  exact ⟨fun h => ⟨h.2.1, h.2.2.1⟩, fun h => ⟨hsoilword, h.1, h.2, hairword⟩⟩

/-- A sensor that has answered 55 % and 24.3 degrees. -/
def sensorAt24_3 : Dht11 ℚ := { Dht11.statics with frameBytes := [55, 0, 24, 3, 82] }

def inputAt24_3 : TelemetryInput ℚ where
  oledSoilPercent := 123 / 4
  myTemp := sensorAt24_3.processFrame.temperatureC
  myHumi := sensorAt24_3.processFrame.humidityRh
  oledMQ135ppm := 7
  distance := 400
  bladeState := 0
  soilPlantType := 1

theorem telemetry_exact_iff_at24_3 :
    let packs := (sendDataToPlantSoft inputAt24_3 ((uplinkSystem ℚ).run []).telemetry).1
    (Carries packs.soilpack .soilMoisture (tenths inputAt24_3.oledSoilPercent) ∧
        Carries packs.temppack .temperature (tenths inputAt24_3.myTemp) ∧
        Carries packs.humipack .airHumidity (tenths inputAt24_3.myHumi) ∧
        Carries packs.airpack .airQuality ⌊inputAt24_3.oledMQ135ppm⌋) ↔
      (3 : UInt8).toNat % 10 = 0 ∧ (0 : UInt8).toNat % 10 = 0 :=
  telemetry_exact_iff [] inputAt24_3 sensorAt24_3 55 0 24 3 rfl rfl rfl
    (by norm_num [inputAt24_3]) (by norm_num [inputAt24_3])

/-- The panel shows 24 degrees. -/
theorem three_tenths_lost :
    inputAt24_3.myTemp = 24 + 3 / 10 ∧
      ¬ Carries (sendDataToPlantSoft inputAt24_3 {}).1.temppack .temperature
        (tenths inputAt24_3.myTemp) := by
  have hemitted : handleSensorFrame (sendDataToPlantSoft inputAt24_3 {}).1.temppack =
      [.reading .temperature 24 "AA 10 11 00 F0 55".toList] := by decide +kernel
  have htenths : tenths inputAt24_3.myTemp = 24 + 3 / 10 := by decide +kernel
  refine ⟨by decide +kernel, ?_⟩
  rintro ⟨text, htext⟩
  rw [hemitted, htenths] at htext
  norm_num at htext

end PlantAssistant.Link
