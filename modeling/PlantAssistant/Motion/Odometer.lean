import Mathlib.Algebra.BigOperators.Group.List.Basic
import Mathlib.Algebra.Order.BigOperators.Group.List
import PlantAssistant.Firmware.SportMode
import PlantAssistant.Transition.Run

/-! # The encoders

The timers of the encoders count modulo 65535, while their counters are read as
signed words of sixteen bits. A count backwards comes out one too far.
-/

namespace PlantAssistant.Motion

open Transition PlantAssistant.Firmware

/-- `Init.Period` of both timers. -/
def encoderPeriod : ℕ := 65535 - 1

/-- The counter after a displacement from zero. -/
def encoderCounter (displacement : ℤ) : UInt16 :=
  UInt16.ofNat (displacement % (encoderPeriod + 1)).toNat

/-- What `GetSpeed_Milleage_1` or `_2` keeps. -/
structure Odometer where
  speed : ℤ
  milleage : ℚ
  mode : ℕ
deriving DecidableEq, Repr

/-- A call after a displacement. The counter does not move between its two
reads, and is cleared at the end. -/
def odometerStep (o : Odometer) (displacement : ℤ) : Odometer :=
  let counter := encoderCounter displacement
  let out := Car.getSpeedMilleage counter counter o.speed o.milleage o.mode
  ⟨out.1, out.2.1, out.2.2⟩

def odometerSystem (o : Odometer) : System Odometer ℤ where
  init := o
  step := odometerStep

/-- The call reports the displacement as the speed. -/
def Reports (o : Odometer) (displacement : ℤ) : Prop :=
  (odometerStep o displacement).speed = displacement

instance (o : Odometer) (displacement : ℤ) : Decidable (Reports o displacement) :=
  inferInstanceAs (Decidable (_ = _))

/-- The way of a displacement. -/
def way (displacement : ℤ) : ℚ := |displacement| * 204.1 / 60000

/-! ## One call -/

theorem toInt_encoderCounter {displacement : ℤ} (hbound : |displacement| ≤ 32000) :
    (encoderCounter displacement).toInt16.toInt =
      if 0 ≤ displacement then displacement else displacement - 1 := by
  obtain ⟨hlow, hhigh⟩ := abs_le.mp hbound
  have hcount : (displacement % 65535).toNat = displacement % 65535 := by omega
  rw [encoderCounter, UInt16.toInt16_ofNat', Int16.toInt_ofNat', encoderPeriod, Int16.size,
    Int.bmod_def]
  push_cast
  rw [hcount]
  split_ifs <;> omega

/-- A call with a nonzero flag. -/
theorem odometerStep_eq {o : Odometer} (hmode : o.mode ≠ 0) {displacement : ℤ}
    (hbound : |displacement| ≤ 32000) :
    odometerStep o displacement =
      if 0 ≤ displacement then ⟨displacement, o.milleage + way displacement, o.mode⟩
      else ⟨displacement - 1, o.milleage + way (displacement - 1), o.mode⟩ := by
  unfold odometerStep Car.getSpeedMilleage
  simp only [if_neg hmode, toInt_encoderCounter hbound]
  split
  next hforward =>
    rw [if_neg (not_lt.mpr hforward)]
    unfold way
    rw [abs_of_nonneg hforward]
    rfl
  next hback =>
    rw [if_pos (by omega)]
    unfold way
    rw [abs_of_neg (by omega)]
    congr 1
    rw [lit_rat, lit_rat, lit_rat]
    push_cast
    ring

theorem way_back {displacement : ℤ} (hback : displacement < 0) :
    way (displacement - 1) = way displacement + 204.1 / 60000 := by
  unfold way
  rw [abs_of_neg hback, abs_of_neg (by omega)]
  push_cast
  ring

/-! ## Runs -/

theorem mode_odometerStep {o : Odometer} (hmode : o.mode ≠ 0) (displacement : ℤ) :
    (odometerStep o displacement).mode = o.mode := by
  simp only [odometerStep, Car.getSpeedMilleage, if_neg hmode]

theorem reports_iff {o : Odometer} (hmode : o.mode ≠ 0) {displacement : ℤ}
    (hbound : |displacement| ≤ 32000) : Reports o displacement ↔ 0 ≤ displacement := by
  rw [Reports, odometerStep_eq hmode hbound]
  split
  next hforward => exact ⟨fun _ => hforward, fun _ => rfl⟩
  next hback =>
    dsimp only
    omega

theorem alongFrom_reports_iff (start : Odometer) {o : Odometer} (hmode : o.mode ≠ 0)
    {displacements : List ℤ} (hbound : ∀ d ∈ displacements, |d| ≤ 32000) :
    (odometerSystem start).AlongFrom Reports o displacements ↔ ∀ d ∈ displacements, 0 ≤ d := by
  induction displacements generalizing o with
  | nil => exact iff_of_true trivial nofun
  | cons displacement rest ih =>
      obtain ⟨hnow, hlater⟩ := List.forall_mem_cons.mp hbound
      have hmode' : (odometerStep o displacement).mode ≠ 0 := by
        rwa [mode_odometerStep hmode]
      rw [System.AlongFrom, List.forall_mem_cons, reports_iff hmode hnow]
      exact and_congr_right fun _ => ih hmode' hlater

/-- Every displacement backwards adds one count too many. -/
theorem milleage_runFrom (start : Odometer) {o : Odometer} (hmode : o.mode ≠ 0)
    {displacements : List ℤ} (hbound : ∀ d ∈ displacements, |d| ≤ 32000) :
    ((odometerSystem start).runFrom o displacements).milleage =
      o.milleage + (displacements.map way).sum +
        displacements.countP (· < 0) * (204.1 / 60000) := by
  induction displacements generalizing o with
  | nil => simp
  | cons displacement rest ih =>
      obtain ⟨hnow, hlater⟩ := List.forall_mem_cons.mp hbound
      have hmode' : (odometerStep o displacement).mode ≠ 0 := by
        rwa [mode_odometerStep hmode]
      have hrest := ih hmode' hlater
      rw [System.runFrom_cons, List.map_cons, List.sum_cons]
      change ((odometerSystem start).runFrom (odometerStep o displacement) rest).milleage = _
      rw [hrest, odometerStep_eq hmode hnow]
      split
      next hforward =>
        rw [List.countP_cons_of_neg (by simpa using hforward)]
        ring
      next hback =>
        rw [List.countP_cons_of_pos (by simpa using hback), way_back (by omega)]
        push_cast
        ring

/-- The speeds are the displacements exactly if none of them is backwards, and so
is the mileage the way. -/
theorem odometer_exact_iff (o : Odometer) (displacements : List ℤ) (hmode : o.mode ≠ 0)
    (hbound : ∀ d ∈ displacements, |d| ≤ 32000) :
    ((odometerSystem o).Along Reports displacements ↔ ∀ d ∈ displacements, 0 ≤ d) ∧
      (((odometerSystem o).run displacements).milleage =
          o.milleage + (displacements.map way).sum ↔ ∀ d ∈ displacements, 0 ≤ d) := by
  refine ⟨alongFrom_reports_iff o hmode hbound, ?_⟩
  have hrun : ((odometerSystem o).run displacements).milleage =
      o.milleage + (displacements.map way).sum +
        displacements.countP (· < 0) * (204.1 / 60000) := milleage_runFrom o hmode hbound
  have hnone : displacements.countP (· < 0) = 0 ↔ ∀ d ∈ displacements, 0 ≤ d := by
    simp [List.countP_eq_zero]
  rw [hrun, ← hnone, add_eq_left, mul_eq_zero, Nat.cast_eq_zero]
  norm_num

theorem odometer_exact_iff_forward :
    (odometerSystem ⟨0, 0, 1⟩).Along Reports [100, 200] ∧
      ((odometerSystem ⟨0, 0, 1⟩).run [100, 200]).milleage = 0 + ([100, 200].map way).sum := by
  have hexact := odometer_exact_iff ⟨0, 0, 1⟩ [100, 200] (by decide) (by decide)
  exact ⟨hexact.1.mpr (by decide), hexact.2.mpr (by decide)⟩

/-- A hundred counts there and back. -/
theorem odometer_back_too_far :
    ¬ (odometerSystem ⟨0, 0, 1⟩).Along Reports [100, -100] ∧
      ((odometerSystem ⟨0, 0, 1⟩).run [100, -100]).milleage ≠ 0 + ([100, -100].map way).sum := by
  decide +kernel

end PlantAssistant.Motion
