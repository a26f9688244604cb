import PlantAssistant.Display.Formatters
import PlantAssistant.Firmware.DH11
import PlantAssistant.Firmware.MainOled

/-! # What the display shows of its lines

Padding cuts a line that is longer than thirteen columns. Temperature and humidity
share a line, and together they have room for three digits before the point.
-/

namespace PlantAssistant.Display

open Decimal PlantAssistant.Firmware

/-- The text fits the buffer with its terminator, and padding only appends. -/
structure ShownWhole (text : List Char) : Prop where
  fits : text.length + 1 ≤ oledLineSize
  whole : ∃ spaces, mainPadLine 13 text = text ++ List.replicate spaces ' '

theorem mainPadLine_eq_append_iff (width : ℕ) (text : List Char) :
    (∃ spaces, mainPadLine width text = text ++ List.replicate spaces ' ') ↔
      text.length ≤ width := by
  constructor
  · rintro ⟨spaces, hpadded⟩
    have hlength := congrArg List.length hpadded
    simp only [mainPadLine, List.length_append, List.length_take, List.length_replicate] at hlength
    omega
  · intro hle
    refine ⟨width - text.length, ?_⟩
    unfold mainPadLine
    dsimp only
    rw [min_eq_left hle, List.take_length]

/-- Every line that is shown fills its thirteen columns. -/
theorem length_mainShowOledData {F : Type} [CFloat F] (values : OledValues F) :
    ∀ line ∈ values.mainShowOledData, line.2.length = 13 := by
  intro line hline
  obtain ⟨text, -, rfl⟩ := List.mem_map.mp hline
  unfold mainPadLine
  dsimp only
  rw [List.length_append, List.length_take, List.length_replicate]
  omega

theorem shownWhole_iff (text : List Char) : ShownWhole text ↔ text.length ≤ 13 := by
  constructor
  · intro hshown
    exact (mainPadLine_eq_append_iff 13 text).mp hshown.whole
  · intro hle
    exact ⟨by unfold oledLineSize; omega, (mainPadLine_eq_append_iff 13 text).mpr hle⟩

theorem mainAppendString_eq (str : String) (buffer : List Char) :
    mainAppendString str buffer = buffer ++ str.toList := by
  unfold mainAppendString
  induction str.toList generalizing buffer with
  | nil => simp
  | cons ch chars ih => rw [List.foldl_cons, ih, appendChar, List.append_assoc]; rfl

/-! ## Lengths -/

/-- The digits before the point of the text of `value`. -/
def wholeDigits (value : ℚ) (decimals : ℕ) : ℕ :=
  (Nat.toDigits 10 ((halfUp (10 ^ decimals) value).toNat / 10 ^ decimals)).length

theorem length_mainAppendFixed {value : ℚ} (hnonneg : 0 ≤ value) (hvalue : value < 2 ^ 31 - 1)
    {decimals : ℕ} (hpos : 0 < decimals) (hle : decimals ≤ 9) (buffer : List Char) :
    (mainAppendFixed value decimals buffer).length =
      buffer.length + (wholeDigits value decimals + 1 + decimals) := by
  rw [mainAppendFixed_eq (by rwa [abs_of_nonneg hnonneg]) hpos hle, List.length_append,
    roundedText, if_neg (not_lt.mpr hnonneg), List.nil_append, length_fixedText,
    abs_of_nonneg hnonneg, wholeDigits]

/-- A value that is not rounded up to the power of ten has no more digits. -/
theorem wholeDigits_le {value : ℚ} {decimals digits : ℕ} (hdigits : 0 < digits)
    (hvalue : value * (10 ^ decimals : ℕ) + 1 / 2 < (10 ^ digits * 10 ^ decimals : ℕ)) :
    wholeDigits value decimals ≤ digits := by
  have hround : halfUp (10 ^ decimals) value < (10 ^ digits * 10 ^ decimals : ℕ) :=
    Int.floor_lt.mpr (by exact_mod_cast hvalue)
  have hbound : 0 < 10 ^ digits * 10 ^ decimals := by positivity
  unfold wholeDigits
  rw [Nat.length_toDigits_le_iff (by decide) hdigits, Nat.div_lt_iff_lt_mul (by positivity)]
  omega

theorem wholeDigits_pos (value : ℚ) (decimals : ℕ) : 0 < wholeDigits value decimals :=
  Nat.length_toDigits_pos

/-! ## The lines -/

/-- A value below 999 has at most three digits before the point, also when it is
rounded up. -/
theorem length_ppmText_le {value : ℚ} (hnonneg : 0 ≤ value) (hbelow : value < 999) {label : String}
    (hlabel : label.toList.length ≤ 6) :
    (mainAppendFixed value 2 (mainAppendString label [])).length ≤ 13 := by
  have hdigits : wholeDigits value 2 ≤ 3 := by
    apply wholeDigits_le (by decide)
    push_cast
    linarith
  rw [length_mainAppendFixed hnonneg (by linarith) (by decide) (by decide), mainAppendString_eq,
    List.nil_append]
  omega

theorem length_mq2Text_le {values : OledValues ℚ} (hnonneg : 0 ≤ values.oledMQ2ppm) :
    values.mq2Text.length ≤ 13 := by
  unfold OledValues.mq2Text
  split
  · rw [mainAppendString_eq]
    decide
  next hbelow => exact length_ppmText_le hnonneg (not_le.mp hbelow) (by decide)

theorem length_mq135Text_le {values : OledValues ℚ} (hnonneg : 0 ≤ values.oledMQ135ppm) :
    values.mq135Text.length ≤ 13 := by
  unfold OledValues.mq135Text
  split
  · rw [mainAppendString_eq]
    decide
  next hbelow => exact length_ppmText_le hnonneg (not_le.mp hbelow) (by decide)

theorem length_soilText_le {values : OledValues ℚ} (hnonneg : 0 ≤ values.oledSoilPercent)
    (hle : values.oledSoilPercent ≤ 100) : values.soilText.length ≤ 13 := by
  have hdigits : wholeDigits values.oledSoilPercent 1 ≤ 3 := by
    apply wholeDigits_le (by decide)
    push_cast
    linarith
  unfold OledValues.soilText appendChar
  rw [List.length_append, length_mainAppendFixed hnonneg (by linarith) (by decide) (by decide),
    mainAppendString_eq]
  have hlabel : ([] ++ "Soil:".toList).length = 5 := by decide
  rw [List.length_singleton]
  omega

theorem length_climateText {values : OledValues ℚ} (htemp : 0 ≤ values.myTemp)
    (htemp' : values.myTemp < 2 ^ 31 - 1) (hhumi : 0 ≤ values.myHumi)
    (hhumi' : values.myHumi < 2 ^ 31 - 1) :
    values.climateText.length = 10 + wholeDigits values.myTemp 1 + wholeDigits values.myHumi 1 := by
  unfold OledValues.climateText appendChar
  rw [List.length_append, length_mainAppendFixed hhumi hhumi' (by decide) (by decide),
    mainAppendString_eq, List.length_append,
    length_mainAppendFixed htemp htemp' (by decide) (by decide), mainAppendString_eq]
  have htempLabel : ([] ++ "T:".toList).length = 2 := by decide
  have hhumiLabel : " H:".toList.length = 3 := by decide
  rw [List.length_singleton]
  omega

/-! ## Published values -/

/-- The value of two bytes of a frame. -/
def published (whole part : UInt8) : ℚ := whole.toNat + part.toNat * (1 / 10)

theorem published_mem (whole part : UInt8) :
    0 ≤ published whole part ∧ published whole part < 1000 := by
  obtain ⟨hnonneg, hle⟩ := bytesAndTenths_range whole part
  exact ⟨hnonneg, lt_of_le_of_lt hle (by norm_num)⟩

/-- Published values are whole tenths, so that their digits are those of the value. -/
theorem wholeDigits_published_le_iff (whole part : UInt8) {digits : ℕ} (hdigits : 0 < digits) :
    wholeDigits (published whole part) 1 ≤ digits ↔ published whole part < 10 ^ digits := by
  have htenths : published whole part * (10 ^ 1 : ℕ) =
      ((whole.toNat * 10 + part.toNat : ℕ) : ℤ) := by
    unfold published
    push_cast
    ring
  have hbound : published whole part < 10 ^ digits ↔
      whole.toNat * 10 + part.toNat < 10 ^ digits * 10 := by
    rw [← mul_lt_mul_iff_left₀ (show (0 : ℚ) < (10 ^ 1 : ℕ) by norm_num), htenths]
    push_cast
    norm_cast
  unfold wholeDigits
  rw [halfUp_of_eq htenths, Int.toNat_natCast, Nat.length_toDigits_le_iff (by decide) hdigits,
    Nat.div_lt_iff_lt_mul (by decide), hbound, pow_one]

theorem shownWhole_climateText_iff {values : OledValues ℚ} {b0 b1 b2 b3 : UInt8}
    (htemp : values.myTemp = published b2 b3) (hhumi : values.myHumi = published b0 b1) :
    ShownWhole values.climateText ↔
      values.myTemp < 10 ∧ values.myHumi < 100 ∨ values.myTemp < 100 ∧ values.myHumi < 10 := by
  obtain ⟨htempLow, htempHigh⟩ := published_mem b2 b3
  obtain ⟨hhumiLow, hhumiHigh⟩ := published_mem b0 b1
  have htempOne := wholeDigits_published_le_iff b2 b3 one_pos
  have htempTwo := wholeDigits_published_le_iff b2 b3 two_pos
  have hhumiOne := wholeDigits_published_le_iff b0 b1 one_pos
  have hhumiTwo := wholeDigits_published_le_iff b0 b1 two_pos
  have htempPos := wholeDigits_pos (published b2 b3) 1
  have hhumiPos := wholeDigits_pos (published b0 b1) 1
  rw [shownWhole_iff, length_climateText (by rwa [htemp]) (by rw [htemp]; linarith)
    (by rwa [hhumi]) (by rw [hhumi]; linarith), htemp, hhumi]
  norm_num at htempOne htempTwo hhumiOne hhumiTwo
  rw [← htempOne, ← htempTwo, ← hhumiOne, ← hhumiTwo]
  omega

theorem climateText_mem (values : OledValues ℚ) : (6, values.climateText) ∈ values.texts := by
  simp [OledValues.texts]

/-- What the display reads, after a frame of the sensor was published. -/
def oledValues (s : Dht11 ℚ) (mq2 mq135 soil : ℚ) : OledValues ℚ where
  oledMQ2ppm := mq2
  oledMQ135ppm := mq135
  oledSoilPercent := soil
  myTemp := s.processFrame.temperatureC
  myHumi := s.processFrame.humidityRh

/-- All four lines are shown whole exactly when temperature and humidity have at
most three digits before their points. -/
theorem oled_shown_whole_iff (s : Dht11 ℚ) (hvalid : s.checksum = s.frameByte 4)
    {mq2 mq135 soil : ℚ} (hmq2 : 0 ≤ mq2 ∧ mq2 ≤ 999) (hmq135 : 0 ≤ mq135 ∧ mq135 ≤ 999)
    (hsoil : 0 ≤ soil ∧ soil ≤ 100) :
    (∀ line ∈ (oledValues s mq2 mq135 soil).texts, ShownWhole line.2) ↔
      s.processFrame.temperatureC < 10 ∧ s.processFrame.humidityRh < 100 ∨
        s.processFrame.temperatureC < 100 ∧ s.processFrame.humidityRh < 10 := by
  have htemp : (oledValues s mq2 mq135 soil).myTemp =
      published (s.frameByte 2) (s.frameByte 3) := by
    simp only [oledValues, Dht11.processFrame, if_pos hvalid]
    rfl
  have hhumi : (oledValues s mq2 mq135 soil).myHumi =
      published (s.frameByte 0) (s.frameByte 1) := by
    simp only [oledValues, Dht11.processFrame, if_pos hvalid]
    rfl
  have hclimate := shownWhole_climateText_iff htemp hhumi
  constructor
  · intro hall
    exact hclimate.mp (hall _ (climateText_mem _))
  · intro hroom line hline
    simp only [OledValues.texts, List.mem_cons, List.not_mem_nil, or_false] at hline
    rcases hline with rfl | rfl | rfl | rfl
    · exact (shownWhole_iff _).mpr (length_mq2Text_le hmq2.1)
    · exact (shownWhole_iff _).mpr (length_mq135Text_le hmq135.1)
    · exact (shownWhole_iff _).mpr (length_soilText_le hsoil.1 hsoil.2)
    · exact hclimate.mpr hroom

/-- A frame with 24.3 degrees and 55.0 percent. -/
def frameAt24_3 : Dht11 ℚ := { Dht11.statics with frameBytes := [55, 0, 24, 3, 82] }

theorem oled_shown_whole_iff_24_3 :
    (∀ line ∈ (oledValues frameAt24_3 10 10 50).texts, ShownWhole line.2) ↔
      frameAt24_3.processFrame.temperatureC < 10 ∧ frameAt24_3.processFrame.humidityRh < 100 ∨
        frameAt24_3.processFrame.temperatureC < 100 ∧ frameAt24_3.processFrame.humidityRh < 10 :=
  oled_shown_whole_iff frameAt24_3 (by decide) (by norm_num) (by norm_num) (by norm_num)

/-- The percent sign of an ordinary reading is cut off. -/
theorem oled_not_shown_whole :
    ¬ ∀ line ∈ (oledValues frameAt24_3 10 10 50).texts, ShownWhole line.2 := by
  intro hall
  have hclimate := hall _ (climateText_mem _)
  have htemp : (oledValues frameAt24_3 10 10 50).myTemp = published 24 3 := rfl
  have hhumi : (oledValues frameAt24_3 10 10 50).myHumi = published 55 0 := rfl
  rw [shownWhole_climateText_iff htemp hhumi] at hclimate
  revert hclimate
  decide +kernel

end PlantAssistant.Display
