import Mathlib.Tactic.IntervalCases
import PlantAssistant.Decimal.Rounding
import PlantAssistant.Firmware.NumberText

/-! # Both formatters write the same text

One rounds the value and takes its parts, the other takes the parts and carries
what rounding the fraction yields.
-/

namespace PlantAssistant.Display

open Decimal PlantAssistant.Firmware

/-- The sign and the decimal expansion, rounded half up. -/
def roundedText (value : ℚ) (decimals : ℕ) : List Char :=
  (if value < 0 then ['-'] else []) ++ fixedText decimals (halfUp (10 ^ decimals) |value|).toNat

/-! ## Digits -/

theorem lastDigit_eq (value : ℕ) : lastDigit value = Nat.digitChar (value % 10) := by
  unfold lastDigit
  generalize hdigit : value % 10 = digit
  have hlt : digit < 10 := by omega
  interval_cases digit <;> rfl

theorem reverse_unsignedTemp {value : ℕ} (hpos : 0 < value) :
    (unsignedTemp value).reverse = Nat.toDigits 10 value := by
  induction value using Nat.strongRecOn with
  | ind value ih =>
      rw [unsignedTemp, if_pos hpos, List.reverse_cons, lastDigit_eq]
      rcases Nat.lt_or_ge value 10 with hsmall | hlarge
      · rw [Nat.div_eq_of_lt hsmall, Nat.toDigits_of_lt_base hsmall, Nat.mod_eq_of_lt hsmall,
          unsignedTemp]
        rfl
      · rw [ih (value / 10) (by omega) (by omega), Nat.toDigits_of_base_le (by decide) hlarge]

theorem appendUnsigned_eq (value : ℕ) (buffer : List Char) :
    appendUnsigned value buffer = buffer ++ Nat.toDigits 10 value := by
  unfold appendUnsigned
  split
  next hzero =>
    rw [hzero, Nat.toDigits_zero]
    rfl
  next hpos => rw [reverse_unsignedTemp (Nat.pos_of_ne_zero hpos)]

theorem powerOfTen_eq {decimals : ℕ} (hdecimals : decimals ≤ 9) :
    powerOfTen decimals = 10 ^ decimals := by
  interval_cases decimals <;> rfl

/-- The digits of `main_append_fixed`. -/
theorem foldl_lastDigit {decimals : ℕ} (hdecimals : decimals ≤ 9) (fraction : ℕ)
    (buffer : List Char) :
    (List.range decimals).foldl
      (fun buffer k => appendChar (lastDigit (fraction / powerOfTen (decimals - k - 1))) buffer)
      buffer = buffer ++ fractionDigits decimals fraction := by
  have hfold : ∀ (ks : List ℕ) (buffer : List Char),
      ks.foldl
        (fun buffer k => appendChar (lastDigit (fraction / powerOfTen (decimals - k - 1))) buffer)
        buffer =
      buffer ++ ks.map fun k => lastDigit (fraction / powerOfTen (decimals - k - 1)) := by
    intro ks
    induction ks with
    | nil => simp
    | cons k ks ih =>
        intro buffer
        rw [List.foldl_cons, ih, appendChar, List.append_assoc]
        rfl
  rw [hfold, fractionDigits]
  congr 1
  apply List.map_congr_left
  intro k hk
  rw [lastDigit_eq, powerOfTen_eq (by omega), Nat.sub_right_comm]

/-- The digits of `VL53_AppendFloat`. -/
theorem vl53AppendDecimals_eq (fracPart decimals : ℕ) (buffer : List Char) :
    vl53AppendDecimals fracPart decimals (10 ^ decimals) buffer =
      buffer ++ fractionDigits decimals fracPart := by
  induction decimals generalizing buffer with
  | zero => simp [vl53AppendDecimals, fractionDigits]
  | succ decimals ih =>
      have hdiv : 10 ^ (decimals + 1) / 10 = 10 ^ decimals := by
        rw [pow_succ, Nat.mul_div_cancel _ (by decide)]
      rw [vl53AppendDecimals, hdiv, ih, fractionDigits_succ, lastDigit_eq, appendChar,
        List.append_assoc]
      rfl

/-! ## Parts -/

theorem toInt_of_floor_eq {q : ℚ} {n : ℕ} (hfloor : ⌊q⌋ = n) : CFloat.toInt q = n := by
  have hq : 0 ≤ q := by
    apply Int.floor_nonneg.mp
    rw [hfloor]
    exact Int.natCast_nonneg n
  rw [toInt_rat_of_nonneg hq, hfloor]

theorem toUInt32_of_floor_eq {q : ℚ} {n : ℕ} (hfloor : ⌊q⌋ = n) (hn : n < 2 ^ 32) :
    CFloat.toUInt32 q = n := by
  unfold CFloat.toUInt32
  rw [toInt_of_floor_eq hfloor]
  omega

theorem bmod_word {n : ℕ} (hn : n < 2 ^ 31) : (n : ℤ).bmod (2 ^ 32) = n := by
  rw [Int.bmod_def]
  split_ifs <;> omega

theorem vl53AppendSigned_eq {n : ℕ} (hn : n < 2 ^ 31) (buffer : List Char) :
    vl53AppendSigned n buffer = buffer ++ Nat.toDigits 10 n := by
  have hword : ((n : ℤ) % 2 ^ 32).toNat = n := by omega
  unfold vl53AppendSigned
  rw [if_neg (by omega), hword, appendUnsigned_eq]

/-- The sign, and the value that is left. -/
theorem abs_eq_ite (value : ℚ) : (if value < CFloat.lit 0 then -value else value) = |value| := by
  rw [lit_rat]
  split
  next hneg => rw [abs_of_neg hneg]
  next hnonneg => rw [abs_of_nonneg (not_lt.mp hnonneg)]

theorem sign_eq (value : ℚ) (buffer : List Char) :
    (if value < CFloat.lit 0 then appendChar '-' buffer else buffer) =
      buffer ++ if value < 0 then ['-'] else [] := by
  rw [lit_rat]
  split
  · rfl
  · rw [List.append_nil]

section Parts

variable {x : ℚ} {scale units : ℕ}

/-- What `main_append_fixed` splits the value into. -/
theorem mainAppendFixed_parts (hx : x < 2 ^ 31 - 1) (hscale : 0 < scale)
    (hwide : scale ≤ 10 ^ 9) (hunits : halfUp scale x = units) :
    CFloat.toUInt32 (x + 1 / 2 / scale) = units / scale ∧
      CFloat.toUInt32 ((x + 1 / 2 / scale - (units / scale : ℕ)) * scale) = units % scale := by
  have hwhole := floor_add_half_div hscale x
  have hfraction := floor_fract_add_half_div hscale x
  rw [hunits] at hwhole hfraction
  have hinteger : ((units / scale : ℕ) : ℚ) = ⌊x + 1 / 2 / scale⌋ := by
    rw [hwhole]
    norm_cast
  have hbound : units / scale < 2 ^ 31 := by
    have hhalf : (1 / 2 : ℚ) / scale ≤ 1 / 2 := by
      apply div_le_self (by norm_num)
      exact_mod_cast hscale
    have hlt : ⌊x + 1 / 2 / scale⌋ < 2 ^ 31 := by
      rw [Int.floor_lt]
      push_cast
      linarith
    rw [hwhole] at hlt
    exact_mod_cast hlt
  constructor
  · apply toUInt32_of_floor_eq _ (by omega)
    rw [hwhole]
    norm_cast
  · have hmod := Nat.mod_lt units hscale
    apply toUInt32_of_floor_eq _ (by omega)
    rw [hinteger, hfraction]
    norm_cast

/-- What `VL53_AppendFloat` splits it into, and what is left after the carry. -/
theorem vl53AppendFloat_parts (hnonneg : 0 ≤ x) (hx : x < 2 ^ 31 - 1) (hscale : 0 < scale)
    (hwide : scale ≤ 10 ^ 9) (hunits : halfUp scale x = units) :
    ∃ intPart fracPart : ℕ, intPart + 1 < 2 ^ 31 ∧ CFloat.toInt32 x = intPart ∧
      CFloat.toUInt32 ((x - (intPart : ℤ)) * scale + 1 / 2) = fracPart ∧
      units / scale = (if scale ≤ fracPart then intPart + 1 else intPart) ∧
      units % scale = if scale ≤ fracPart then fracPart - scale else fracPart := by
  obtain ⟨intPart, hint⟩ := Int.eq_ofNat_of_zero_le (Int.floor_nonneg.mpr hnonneg)
  have hfloor := floor_fract_mul_add_half scale x
  obtain ⟨hlow, hhigh⟩ := rounded_fract_mem hscale x
  obtain ⟨hdiv, hmod⟩ := halfUp_div_mod hscale x
  have hbound : ⌊x⌋ < 2 ^ 31 - 1 := by
    rw [Int.floor_lt]
    push_cast
    linarith
  rw [hunits] at hfloor hlow hhigh hdiv hmod
  rw [hint] at hfloor hlow hhigh hdiv hmod hbound
  obtain ⟨fracPart, hfrac⟩ := Int.eq_ofNat_of_zero_le hlow
  rw [hfrac] at hfloor hhigh hdiv hmod
  refine ⟨intPart, fracPart, by omega, ?_, toUInt32_of_floor_eq hfloor (by omega), ?_, ?_⟩
  · unfold CFloat.toInt32
    rw [toInt_of_floor_eq hint, bmod_word (by omega)]
  · split_ifs at hdiv ⊢ <;> omega
  · split_ifs at hmod ⊢ <;> omega

end Parts

/-! ## The texts -/

section Texts

variable {value : ℚ} {decimals : ℕ}

theorem mainAppendFixed_eq (hvalue : |value| < 2 ^ 31 - 1) (hpos : 0 < decimals)
    (hle : decimals ≤ 9) (buffer : List Char) :
    mainAppendFixed value decimals buffer = buffer ++ roundedText value decimals := by
  have hscale : 0 < 10 ^ decimals := by positivity
  have hwide : 10 ^ decimals ≤ 10 ^ 9 := Nat.pow_le_pow_right (by decide) hle
  obtain ⟨units, hunits⟩ :=
    Int.eq_ofNat_of_zero_le (halfUp_nonneg (abs_nonneg value) (10 ^ decimals))
  obtain ⟨hinteger, hfraction⟩ := mainAppendFixed_parts hvalue hscale hwide hunits
  unfold mainAppendFixed roundedText
  dsimp only
  rw [abs_eq_ite, sign_eq, powerOfTen_eq hle, if_pos hpos, foldl_lastDigit hle]
  simp only [lit_rat]
  rw [hinteger, hfraction, hunits, appendUnsigned_eq, fractionDigits_mod]
  simp [appendChar, fixedText]

theorem vl53AppendFloat_eq (hvalue : |value| < 2 ^ 31 - 1) (hpos : 0 < decimals)
    (hle : decimals ≤ 9) (buffer : List Char) :
    vl53AppendFloat value decimals buffer = buffer ++ roundedText value decimals := by
  have hscale : 0 < 10 ^ decimals := by positivity
  have hwide : 10 ^ decimals ≤ 10 ^ 9 := Nat.pow_le_pow_right (by decide) hle
  obtain ⟨units, hunits⟩ :=
    Int.eq_ofNat_of_zero_le (halfUp_nonneg (abs_nonneg value) (10 ^ decimals))
  obtain ⟨intPart, fracPart, hsmall, hint, hfrac, hdiv, hmod⟩ :=
    vl53AppendFloat_parts (abs_nonneg value) hvalue hscale hwide hunits
  -- the whole part with its carry is the one of the rounded value
  have hcarried : (if 10 ^ decimals ≤ fracPart then ((intPart : ℤ) + 1).bmod (2 ^ 32)
      else (intPart : ℤ)) = ((units / 10 ^ decimals : ℕ) : ℤ) := by
    rw [hdiv]
    split
    · exact_mod_cast bmod_word hsmall
    · rfl
  have hbound : units / 10 ^ decimals < 2 ^ 31 := by
    rw [hdiv]
    split <;> omega
  unfold vl53AppendFloat roundedText
  dsimp only
  rw [abs_eq_ite, sign_eq, powerOfTen_eq hle, if_neg hpos.ne']
  simp only [lit_rat, hint, hfrac, hcarried, ← hmod]
  rw [vl53AppendSigned_eq hbound, vl53AppendDecimals_eq, fractionDigits_mod, hunits]
  simp [appendChar, fixedText]

/-- Both append the sign and the rounded value to any text. -/
theorem formatters_agree {value : ℚ} {decimals : ℕ} (hvalue : |value| < 2 ^ 31 - 1)
    (hpos : 1 ≤ decimals) (hle : decimals ≤ 9) (buffer : List Char) :
    mainAppendFixed value decimals buffer = buffer ++ roundedText value decimals ∧
      vl53AppendFloat value decimals buffer = buffer ++ roundedText value decimals :=
  ⟨mainAppendFixed_eq hvalue hpos hle buffer, vl53AppendFloat_eq hvalue hpos hle buffer⟩

/-- A carry through all digits. -/
theorem formatters_agree_carry :
    mainAppendFixed (-9.995 : ℚ) 2 ['Y'] = ['Y'] ++ roundedText (-9.995) 2 ∧
      vl53AppendFloat (-9.995 : ℚ) 2 ['Y'] = ['Y'] ++ roundedText (-9.995) 2 :=
  formatters_agree (by norm_num [abs_of_neg]) (by decide) (by decide) ['Y']

end Texts

end PlantAssistant.Display
