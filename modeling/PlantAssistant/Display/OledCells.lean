import PlantAssistant.Control.Safety
import PlantAssistant.Display.OledBus
import PlantAssistant.Display.OledLines

/-! # What a refresh of the display sends

The texts of what the sensors deliver fit the array they are put together in. The
thirteen characters of a line stand side by side, eight columns each, and no line
reaches the column behind which `OLED_ShowStr` goes on in the next row. The
characters are all in the font.
-/

namespace PlantAssistant.Display

open Transition TwoWire PlantAssistant.Control PlantAssistant.Firmware

/-! ## The array of a line -/

theorem wholeDigits_climate_le {value : ℚ} (hvalue : value ≤ 280.5) : wholeDigits value 1 ≤ 3 := by
  apply wholeDigits_le (by decide)
  norm_num at hvalue ⊢
  linarith

/-- Every text of delivered values leaves room for its terminator. -/
theorem length_texts_lt {values : OledValues ℚ} (hdelivered : Delivered values) :
    ∀ line ∈ values.texts, line.2.length < oledLineSize := by
  intro line hline
  unfold oledLineSize
  simp only [OledValues.texts, List.mem_cons, List.not_mem_nil, or_false] at hline
  rcases hline with rfl | rfl | rfl | rfl
  · exact Nat.lt_of_le_of_lt (length_mq2Text_le hdelivered.mq2.1) (by decide)
  · exact Nat.lt_of_le_of_lt (length_mq135Text_le hdelivered.mq135.1) (by decide)
  · exact Nat.lt_of_le_of_lt (length_soilText_le hdelivered.soil.1 hdelivered.soil.2) (by decide)
  · obtain ⟨htemp, htemp'⟩ := hdelivered.temp
    obtain ⟨hhumi, hhumi'⟩ := hdelivered.humi
    have htempDigits := wholeDigits_climate_le htemp'
    have hhumiDigits := wholeDigits_climate_le hhumi'
    have hlength := length_climateText htemp (lt_of_le_of_lt htemp' (by norm_num)) hhumi
      (lt_of_le_of_lt hhumi' (by norm_num))
    dsimp only
    omega

/-! ## The font -/

/-- The number of entries of `F8X16`. -/
abbrev fontSize : ℕ := 1520

/-- The character has a place in the font. -/
def InFont (ch : Char) : Prop := 32 ≤ ch.toNat ∧ ch.toNat < 127

instance (ch : Char) : Decidable (InFont ch) := inferInstanceAs (Decidable (_ ∧ _))

theorem fontIndex_add_lt {ch : Char} (hch : InFont ch) {i : ℕ} (hi : i < 16) :
    fontIndex ch + i < fontSize := by
  obtain ⟨hlow, hhigh⟩ := hch
  have hindex : fontIndex ch = (ch.toNat - 32) * 16 := by
    have hspace : (32 : UInt8).toNat = 32 := rfl
    unfold fontIndex
    rw [UInt8.toNat_sub, UInt8.toNat_ofNat', hspace]
    omega
  rw [hindex]
  unfold fontSize
  omega

/-- The font without what lies behind its table. -/
def inTable (f8x16 : ℕ → UInt8) (index : ℕ) : UInt8 := if index < fontSize then f8x16 index else 0

theorem oledShowChar_inTable (f8x16 : ℕ → UInt8) (x y : UInt8) {ch : Char} (hch : InFont ch) :
    oledShowChar (inTable f8x16) x y ch = oledShowChar f8x16 x y ch := by
  have hread {i : ℕ} (hi : i < 16) : inTable f8x16 (fontIndex ch + i) = f8x16 (fontIndex ch + i) :=
    if_pos (fontIndex_add_lt hch hi)
  unfold oledShowChar
  congr 2
  · apply List.map_congr_left
    intro i hi
    rw [hread (Nat.lt_of_lt_of_le (List.mem_range.mp hi) (by decide))]
  · apply List.map_congr_left
    intro i hi
    have hlower : i + 8 < 16 := Nat.add_lt_add_right (List.mem_range.mp hi) 8
    rw [Nat.add_assoc, hread hlower]

theorem inFont_lastDigit (value : ℕ) : InFont (lastDigit value) := by
  unfold lastDigit
  have hall : ∀ digit < 10, InFont (Char.ofNat ('0'.toNat + digit)) := by decide
  exact hall _ (Nat.mod_lt value (by decide))

/-- All characters of a text are in the font. -/
def AllInFont (text : List Char) : Prop := ∀ ch ∈ text, InFont ch

theorem AllInFont.append {first second : List Char} (hfirst : AllInFont first)
    (hsecond : AllInFont second) : AllInFont (first ++ second) := by
  intro ch hch
  rcases List.mem_append.mp hch with hleft | hright
  · exact hfirst ch hleft
  · exact hsecond ch hright

theorem AllInFont.appendChar {buffer : List Char} (hbuffer : AllInFont buffer) {ch : Char}
    (hch : InFont ch) : AllInFont (appendChar ch buffer) := by
  apply hbuffer.append
  intro other hother
  rwa [List.mem_singleton.mp hother]

theorem AllInFont.mainAppendString {buffer : List Char} (hbuffer : AllInFont buffer) {str : String}
    (hstr : (str.toList.all fun ch => InFont ch) = true) :
    AllInFont (mainAppendString str buffer) := by
  rw [mainAppendString_eq]
  apply hbuffer.append
  intro ch hch
  exact of_decide_eq_true (List.all_eq_true.mp hstr ch hch)

theorem allInFont_unsignedTemp (value : ℕ) : AllInFont (unsignedTemp value) := by
  induction value using Nat.strongRecOn with
  | ind value ih =>
      rw [unsignedTemp]
      split
      next hpos =>
        have hrest := ih (value / 10) (Nat.div_lt_self hpos (by decide))
        intro ch hch
        rcases List.mem_cons.mp hch with rfl | htail
        · exact inFont_lastDigit value
        · exact hrest ch htail
      next => exact fun _ hch => absurd hch List.not_mem_nil

theorem AllInFont.appendUnsigned {buffer : List Char} (hbuffer : AllInFont buffer) (value : ℕ) :
    AllInFont (appendUnsigned value buffer) := by
  unfold Firmware.appendUnsigned
  split
  · exact hbuffer.appendChar (by decide)
  · apply hbuffer.append
    intro ch hch
    exact allInFont_unsignedTemp value ch (List.mem_reverse.mp hch)

section Values

variable {F : Type} [CFloat F]

theorem AllInFont.mainAppendFixed {buffer : List Char} (hbuffer : AllInFont buffer) (value : F)
    (decimals : ℕ) : AllInFont (mainAppendFixed value decimals buffer) := by
  unfold Firmware.mainAppendFixed
  dsimp only
  have hsign : AllInFont (if value < CFloat.lit 0 then Firmware.appendChar '-' buffer
      else buffer) := by
    split
    · exact hbuffer.appendChar (by decide)
    · exact hbuffer
  have hinteger (integer : ℕ) := hsign.appendUnsigned integer
  split
  · have hdigits (fraction : ℕ) (ks : List ℕ) {start : List Char} (hstart : AllInFont start) :
        AllInFont (ks.foldl (fun buffer k => Firmware.appendChar
          (lastDigit (fraction / powerOfTen (decimals - k - 1))) buffer) start) := by
      induction ks generalizing start with
      | nil => exact hstart
      | cons k ks ih => exact ih (hstart.appendChar (inFont_lastDigit _))
    exact hdigits _ _ ((hinteger _).appendChar (by decide))
  · exact hinteger _

theorem allInFont_texts (values : OledValues F) : ∀ line ∈ values.texts, AllInFont line.2 := by
  have hempty : AllInFont [] := fun _ hch => absurd hch List.not_mem_nil
  intro line hline
  simp only [OledValues.texts, List.mem_cons, List.not_mem_nil, or_false] at hline
  rcases hline with rfl | rfl | rfl | rfl
  · change AllInFont values.mq2Text
    unfold OledValues.mq2Text
    split
    · exact hempty.mainAppendString (by decide)
    · exact (hempty.mainAppendString (by decide)).mainAppendFixed _ _
  · change AllInFont values.mq135Text
    unfold OledValues.mq135Text
    split
    · exact hempty.mainAppendString (by decide)
    · exact (hempty.mainAppendString (by decide)).mainAppendFixed _ _
  · exact ((hempty.mainAppendString (by decide)).mainAppendFixed _ _).appendChar (by decide)
  · have htemp : AllInFont (Firmware.mainAppendFixed values.myTemp 1 (mainAppendString "T:" [])) :=
      (hempty.mainAppendString (by decide)).mainAppendFixed _ _
    exact ((htemp.mainAppendString (by decide)).mainAppendFixed _ _).appendChar (by decide)

theorem allInFont_mainShowOledData (values : OledValues F) :
    ∀ line ∈ values.mainShowOledData, AllInFont line.2 := by
  intro line hline
  obtain ⟨text, htext, rfl⟩ := List.mem_map.mp hline
  have hall := allInFont_texts values text htext
  unfold mainPadLine
  apply AllInFont.append
  · exact fun ch hch => hall ch (List.mem_of_mem_take hch)
  · intro ch hch
    rw [List.eq_of_mem_replicate hch]
    decide

end Values

/-! ## The cells of a line -/

/-- The calls for a character in its cell. -/
def cellCalls (f8x16 : ℕ → UInt8) (row : UInt8) (line : List Char) (k : ℕ) : List OledCall :=
  oledShowChar f8x16 (UInt8.ofNat (8 * k)) row (line.getD k ' ')

/-- A text that does not reach column 128 is not wrapped. -/
theorem oledShowStr_eq (f8x16 : ℕ → UInt8) (row : UInt8) (text : List Char) (start : ℕ)
    (hroom : start + text.length ≤ 16) :
    oledShowStr f8x16 (UInt8.ofNat (8 * start)) row text =
      (List.range text.length).flatMap fun k =>
        oledShowChar f8x16 (UInt8.ofNat (8 * (start + k))) row (text.getD k ' ') := by
  induction text generalizing start with
  | nil => rfl
  | cons ch text ih =>
      rw [List.length_cons] at hroom
      have hx : (UInt8.ofNat (8 * start)).toNat = 8 * start := by
        rw [UInt8.toNat_ofNat']
        omega
      have hleft : ¬ (120 : UInt8) < UInt8.ofNat (8 * start) := by
        have hlast : (120 : UInt8).toNat = 120 := rfl
        rw [UInt8.lt_iff_toNat_lt, hx, hlast]
        omega
      have hnext : UInt8.ofNat (8 * start) + 8 = UInt8.ofNat (8 * (start + 1)) := by
        rw [Nat.mul_succ, UInt8.ofNat_add]
        rfl
      have hrest := ih (start + 1) (by omega)
      rw [oledShowStr, if_neg hleft, hnext, hrest, List.length_cons, List.range_succ_eq_map,
        List.flatMap_cons, List.flatMap_map]
      congr 1
      apply List.flatMap_congr
      intro k _
      rw [List.getD_cons_succ, Nat.add_right_comm, Nat.add_assoc]

/-- The calls for four lines of thirteen cells. -/
def refreshCalls {F : Type} [CFloat F] (f8x16 : ℕ → UInt8) (values : OledValues F) :
    List OledCall :=
  values.mainShowOledData.flatMap fun line =>
    (List.range 13).flatMap (cellCalls f8x16 (UInt8.ofNat line.1) line.2)

theorem mainShowOledCalls_eq (f8x16 : ℕ → UInt8) {values : OledValues ℚ}
    (hdelivered : Delivered values) :
    mainShowOledCalls f8x16 values = some (refreshCalls (inTable f8x16) values) := by
  unfold mainShowOledCalls
  rw [if_pos (length_texts_lt hdelivered)]
  congr 1
  apply List.flatMap_congr
  intro line hline
  have hlength := length_mainShowOledData values line hline
  have hshown := oledShowStr_eq f8x16 (UInt8.ofNat line.1) line.2 0 (by omega)
  rw [hlength] at hshown
  refine hshown.trans ?_
  apply List.flatMap_congr
  intro k hk
  have hmem : line.2.getD k ' ' ∈ line.2 := by
    have hbound : k < line.2.length := hlength ▸ List.mem_range.mp hk
    rw [List.getD_eq_getElem?_getD, List.getElem?_eq_getElem hbound, Option.getD_some]
    exact List.getElem_mem hbound
  rw [Nat.zero_add, cellCalls,
    oledShowChar_inTable f8x16 _ _ (allInFont_mainShowOledData values line hline _ hmem)]

/-! ## A refresh on the wires -/

/-- A display that acknowledges all three bytes. -/
def allAcked : OledAnswers := ⟨.ack, .ack, .ack⟩

/-- The transaction of a call that is acknowledged to its end. -/
def wholeTransaction : OledCall → Transaction
  | .command value => [(0x78, true), (0x00, true), (value, true)]
  | .data value => [(0x78, true), (0x40, true), (value, true)]

theorem heardTransactions_allAcked (call : OledCall) :
    heardTransactions [] (callEntries call allAcked) = [wholeTransaction call] := by
  cases call <;> rfl

/-- The values that a refresh reads, each one at a moment of its own while the task
goes on. -/
def valuesRead (mq2 mq135 soil temp humi : Controller ℚ) : OledValues ℚ where
  oledMQ2ppm := mq2.oled.oledMQ2ppm
  oledMQ135ppm := mq135.oled.oledMQ135ppm
  oledSoilPercent := soil.oled.oledSoilPercent
  myTemp := temp.oled.myTemp
  myHumi := humi.oled.myHumi

theorem delivered_valuesRead (powf : ℚ → ℚ → ℚ) (clock : UInt32)
    (mq2 mq135 soil temp humi : List ControlEvent) :
    let state := (controlSystem ℚ powf clock).run
    Delivered (valuesRead (state mq2) (state mq135) (state soil) (state temp) (state humi)) := by
  have hdelivered (events : List ControlEvent) :
      Delivered ((controlSystem ℚ powf clock).run events).oled :=
    ((delivered_invariant powf clock).run events).2
  exact ⟨(hdelivered mq2).mq2, (hdelivered mq135).mq135, (hdelivered soil).soil,
    (hdelivered temp).temp, (hdelivered humi).humi⟩

end PlantAssistant.Display
