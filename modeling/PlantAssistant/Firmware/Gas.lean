import Mathlib.Data.List.OfFn
import Mathlib.Tactic.NormNum
import PlantAssistant.Firmware.CFloat

/-! # The gas sensors

Ten readings of each sensor are averaged and turned into ppm. `powf` is a
parameter; the float format is any with the operations of C.
-/

namespace PlantAssistant.Firmware

section Gas

variable {F : Type} [CFloat F] (powf : F → F → F)

/-- `MQ2_GetData`. -/
def mq2GetData (reads : Fin 10 → ℕ) : ℕ := uint16 ((List.ofFn reads).sum / 10)

/-- The part that both sensors share: the resistance ratio to ppm, within its limits. -/
def ppmOfRS (rs : F) : F :=
  let r0 : F := CFloat.lit 6.64
  let ppm := powf (CFloat.lit 11.5428 * r0 / rs) (CFloat.lit 0.6549)
  if ¬ CFloat.lit 0 ≤ ppm then CFloat.lit 0
  else if CFloat.lit 999 < ppm then CFloat.lit 999
  else ppm

/-- `MQ2_CalcPPM_FromRaw`. -/
def mq2CalcPPMFromRaw (raw : ℕ) : F :=
  if 4095 ≤ raw then CFloat.lit 0
  else
    let vol : F := CFloat.lit raw * CFloat.lit 3.3 / CFloat.lit 4096
    if vol ≤ CFloat.lit 0.01 then CFloat.lit 999
    else
      let rs := (CFloat.lit 5 - vol) / (vol * CFloat.lit 0.5)
      if rs ≤ CFloat.lit 0.01 then CFloat.lit 999 else ppmOfRS powf rs

/-- `MQ2_GetData_PPM`. -/
def mq2GetDataPPM (reads : Fin 10 → ℕ) : F := mq2CalcPPMFromRaw powf (mq2GetData reads)

/-- `MQ135_GetData_PPM`, which averages in `float` and has no test for a full scale. -/
def mq135GetDataPPM (reads : Fin 10 → ℕ) : F :=
  let tempData := (List.ofFn reads).foldl
    (fun (tempData : F) (read : ℕ) => tempData + CFloat.lit read) (CFloat.lit 0)
  let tempData := tempData / CFloat.lit 10
  let pinVol := tempData * CFloat.lit 3.3 / CFloat.lit 4096
  if pinVol ≤ CFloat.lit 0.01 then CFloat.lit 999
  else
    let sensorVol := pinVol * CFloat.lit 1.5
    let rs := (CFloat.lit 5 - sensorVol) / (sensorVol * CFloat.lit 0.5)
    if rs ≤ CFloat.lit 0.01 then CFloat.lit 999 else ppmOfRS powf rs

/-- `MQ2_UpdateAlarmFlag` at 3 and `MQ135_UpdateAlarmFlag` at 10: the flag for a
concentration. -/
def gasAlarmFlag (limit : ℚ) (ppm : F) : ℕ := if CFloat.lit limit ≤ ppm then 1 else 0

def mq2UpdateAlarmFlag (mq2ppm : F) : ℕ := gasAlarmFlag 3 mq2ppm

def mq135UpdateAlarmFlag (ppm135 : F) : ℕ := gasAlarmFlag 10 ppm135

theorem gasAlarmFlag_le (limit : ℚ) (ppm : F) : gasAlarmFlag limit ppm ≤ 1 := by
  unfold gasAlarmFlag
  split
  · exact le_refl 1
  · exact Nat.zero_le 1

end Gas

/-! ## Exact arithmetic -/

section Exact

variable {powf : ℚ → ℚ → ℚ}

theorem ppmOfRS_eq_clamp (rs : ℚ) :
    ppmOfRS powf rs = max 0 (min 999 (powf (11.5428 * 6.64 / rs) 0.6549)) := by
  unfold ppmOfRS
  simp only [lit_rat]
  split
  next hnegative =>
    rw [not_le] at hnegative
    rw [min_eq_right (by linarith), max_eq_left hnegative.le]
  next hpos =>
    rw [not_not] at hpos
    split
    next habove => rw [min_eq_left habove.le, max_eq_right (by norm_num)]
    next hwithin => rw [min_eq_right (not_lt.mp hwithin), max_eq_right hpos]

/-- A concentration that can be displayed. -/
def InPpmRange (ppm : ℚ) : Prop := 0 ≤ ppm ∧ ppm ≤ 999

theorem inPpmRange_ppmOfRS (rs : ℚ) : InPpmRange (ppmOfRS powf rs) := by
  rw [ppmOfRS_eq_clamp]
  exact ⟨le_max_left _ _, max_le (by norm_num) (min_le_left _ _)⟩

/-- Whatever `powf` is, the sensors stay within their range. -/
theorem inPpmRange_mq2GetDataPPM (reads : Fin 10 → ℕ) : InPpmRange (mq2GetDataPPM powf reads) := by
  have hzero : InPpmRange 0 := ⟨le_refl 0, by norm_num⟩
  have hfull : InPpmRange 999 := ⟨by norm_num, le_refl 999⟩
  unfold mq2GetDataPPM mq2CalcPPMFromRaw
  dsimp only [lit_rat]
  split_ifs
  · exact hzero
  · exact hfull
  · exact hfull
  · exact inPpmRange_ppmOfRS _

theorem inPpmRange_mq135GetDataPPM (reads : Fin 10 → ℕ) :
    InPpmRange (mq135GetDataPPM powf reads) := by
  have hfull : InPpmRange 999 := ⟨by norm_num, le_refl 999⟩
  unfold mq135GetDataPPM
  dsimp only [lit_rat]
  split_ifs
  · exact hfull
  · exact hfull
  · exact inPpmRange_ppmOfRS _

end Exact

end PlantAssistant.Firmware
