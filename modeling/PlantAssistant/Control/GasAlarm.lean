import Mathlib.Algebra.Order.Archimedean.Basic
import Mathlib.Algebra.Order.Field.Basic
import Mathlib.Tactic.GCongr
import Mathlib.Tactic.NormNum
import Mathlib.Tactic.Positivity
import PlantAssistant.Control.Safety
import PlantAssistant.Transition.Since

/-! # When the gas alarms are raised

The concentration grows with the reading, so an alarm starts at some reading; a
line that reads next to nothing raises it as well. Only the smoke sensor falls
silent again, at the end of its scale. A flag stands for the last measurement, and
a pass of the buzzer for the flags it finds.
-/

namespace PlantAssistant.Control

open Transition PlantAssistant.Firmware

/-- What is asked of `powf`: with a positive exponent it grows with a positive base. -/
def GrowsWithBase (powf : ℚ → ℚ → ℚ) : Prop :=
  ∀ x y e, 0 < e → 0 < x → x ≤ y → powf x e ≤ powf y e

/-- Two of its values, besides: a power of one is one, and `64 ^ 0.6549`, which is about
15.2, is at least ten. -/
structure PowfLike (powf : ℚ → ℚ → ℚ) : Prop where
  grows : GrowsWithBase powf
  one : ∀ e, powf 1 e = 1
  large : 10 ≤ powf 64 0.6549

variable {powf : ℚ → ℚ → ℚ}

/-! ## The resistance ratio -/

/-- The voltage that a conversion, or an average of conversions, stands for. -/
def pinVoltage (reading : ℚ) : ℚ := reading * 3.3 / 4096

/-- `RS`. -/
def sensorResistance (voltage : ℚ) : ℚ := (5 - voltage) / (voltage * 0.5)

theorem pinVoltage_mono {reading reading' : ℚ} (hle : reading ≤ reading') :
    pinVoltage reading ≤ pinVoltage reading' := by
  unfold pinVoltage
  gcongr

theorem pinVoltage_le_iff (reading : ℚ) : pinVoltage reading ≤ 0.01 ↔ reading * 330 ≤ 4096 := by
  unfold pinVoltage
  rw [div_le_iff₀ (by norm_num)]
  norm_num
  constructor <;> intro hle <;> linarith

/-- The resistance falls as the voltage rises. -/
theorem sensorResistance_anti {voltage voltage' : ℚ} (hpos : 0 < voltage)
    (hle : voltage ≤ voltage') (hbelow : voltage' ≤ 5) :
    sensorResistance voltage' ≤ sensorResistance voltage := by
  unfold sensorResistance
  gcongr
  linarith

/-! ## The concentration -/

theorem ppmOfRS_anti (hgrows : GrowsWithBase powf) {rs rs' : ℚ} (hpos : 0 < rs) (hle : rs ≤ rs') :
    ppmOfRS powf rs' ≤ ppmOfRS powf rs := by
  have hpos' : 0 < rs' := hpos.trans_le hle
  have hbase : (11.5428 : ℚ) * 6.64 / rs' ≤ 11.5428 * 6.64 / rs := by gcongr
  have hpowf := hgrows _ _ 0.6549 (by norm_num) (by positivity) hbase
  rw [ppmOfRS_eq_clamp, ppmOfRS_eq_clamp]
  gcongr

/-- What both sensors do with a voltage that is not too low. -/
def ppmOfVoltage (powf : ℚ → ℚ → ℚ) (voltage : ℚ) : ℚ :=
  if sensorResistance voltage ≤ 0.01 then 999 else ppmOfRS powf (sensorResistance voltage)

/-- The concentration grows with the voltage, also beyond the supply of the sensor. -/
theorem ppmOfVoltage_mono (hgrows : GrowsWithBase powf) {voltage voltage' : ℚ}
    (hpos : 0 < voltage) (hle : voltage ≤ voltage') :
    ppmOfVoltage powf voltage ≤ ppmOfVoltage powf voltage' := by
  have hsmall (voltage : ℚ) (hpos : 0 < voltage) (habove : 5 < voltage) :
      sensorResistance voltage ≤ 0.01 := by
    have hnegative : sensorResistance voltage ≤ 0 :=
      div_nonpos_of_nonpos_of_nonneg (by linarith) (by positivity)
    exact hnegative.trans (by norm_num)
  unfold ppmOfVoltage
  split
  next hlow =>
    have hlow' : sensorResistance voltage' ≤ 0.01 := by
      by_cases hbelow : voltage' ≤ 5
      · exact (sensorResistance_anti hpos hle hbelow).trans hlow
      · exact hsmall voltage' (hpos.trans_le hle) (not_le.mp hbelow)
    rw [if_pos hlow']
  next hhigh =>
    split
    next => exact (inPpmRange_ppmOfRS _).2
    next hhigh' =>
      have hbelow : voltage' ≤ 5 := by
        by_contra habove
        exact hhigh' (hsmall voltage' (hpos.trans_le hle) (not_le.mp habove))
      refine ppmOfRS_anti hgrows ?_ (sensorResistance_anti hpos hle hbelow)
      exact lt_trans (by norm_num) (not_le.mp hhigh')

/-- A low voltage is no alarm. -/
theorem ppmOfVoltage_le_one (hpowf : PowfLike powf) {voltage : ℚ} (hpos : 0 < voltage)
    (hlow : voltage ≤ 0.127) : ppmOfVoltage powf voltage ≤ 1 := by
  refine (ppmOfVoltage_mono hpowf.grows hpos hlow).trans ?_
  have hbase := hpowf.grows (11.5428 * 6.64 / sensorResistance 0.127) 1 0.6549 (by norm_num)
    (by norm_num [sensorResistance]) (by norm_num [sensorResistance])
  rw [hpowf.one] at hbase
  unfold ppmOfVoltage
  rw [if_neg (by norm_num [sensorResistance]), ppmOfRS_eq_clamp]
  exact max_le zero_le_one ((min_le_right _ _).trans hbase)

/-- Near the end of the scale both sensors raise an alarm. -/
theorem ten_le_ppmOfVoltage (hpowf : PowfLike powf) {voltage : ℚ} (hhigh : 3.298 ≤ voltage) :
    10 ≤ ppmOfVoltage powf voltage := by
  refine le_trans ?_ (ppmOfVoltage_mono hpowf.grows (by norm_num) hhigh)
  have hbase := hpowf.grows 64 (11.5428 * 6.64 / sensorResistance 3.298) 0.6549 (by norm_num)
    (by norm_num) (by norm_num [sensorResistance])
  unfold ppmOfVoltage
  rw [if_neg (by norm_num [sensorResistance]), ppmOfRS_eq_clamp]
  exact le_max_of_le_right (le_min (by norm_num) (hpowf.large.trans hbase))

/-- The average of a smoke measurement, turned into a concentration. -/
theorem mq2CalcPPMFromRaw_eq (raw : ℕ) :
    mq2CalcPPMFromRaw powf raw =
      if 4095 ≤ raw then 0
      else if pinVoltage raw ≤ 0.01 then 999
      else ppmOfVoltage powf (pinVoltage raw) := rfl

theorem sum_conversions (reads : List ℕ) (sum : ℚ) :
    reads.foldl (fun (tempData : ℚ) (read : ℕ) => tempData + CFloat.lit read) sum =
      sum + reads.sum := by
  induction reads generalizing sum with
  | nil => simp
  | cons read reads ih =>
      rw [List.foldl_cons, ih, List.sum_cons, lit_rat]
      push_cast
      ring

theorem mq135GetDataPPM_eq (reads : Fin 10 → ℕ) :
    mq135GetDataPPM powf reads =
      if pinVoltage ((List.ofFn reads).sum / 10) ≤ 0.01 then 999
      else ppmOfVoltage powf (pinVoltage ((List.ofFn reads).sum / 10) * 1.5) := by
  unfold mq135GetDataPPM
  rw [sum_conversions]
  simp only [lit_rat, zero_add]
  rfl

/-! ## The readings that raise an alarm -/

theorem exists_threshold (property : ℕ → Prop) (hsome : ∃ n, property n)
    (hup : ∀ n n', n ≤ n' → property n → property n') :
    ∃ threshold, ∀ n, property n ↔ threshold ≤ n := by
  classical
  refine ⟨Nat.find hsome, fun n => ⟨fun hn => Nat.find_min' hsome hn, fun hle => ?_⟩⟩
  exact hup _ n hle (Nat.find_spec hsome)

variable (powf) in
/-- The concentration for a sum of conversions, with the part of it that is one
conversion and the gain up to the sensor. -/
def ppmOfReading (scale gain : ℚ) (n : ℕ) : ℚ :=
  if pinVoltage (n / scale) ≤ 0.01 then 999
  else ppmOfVoltage powf (pinVoltage (n / scale) * gain)

/-- Far beyond the supply of the sensor every reading is an alarm. -/
theorem exists_far_reading {scale gain limit : ℚ} (hscale : 0 < scale) (hgain : 0 < gain)
    (hlimit : limit ≤ 999) :
    ∃ n : ℕ, 0.01 < pinVoltage (n / scale) ∧
      limit ≤ ppmOfVoltage powf (pinVoltage (n / scale) * gain) := by
  obtain ⟨n, hn⟩ := exists_nat_gt ((13 + 5 * 4096 / gain) * scale)
  have hreading : 13 + 5 * 4096 / gain < n / scale := (lt_div_iff₀ hscale).mpr hn
  have hpart : 0 < 5 * 4096 / gain := by positivity
  have hvoltage : 5 < pinVoltage (n / scale) * gain := by
    have hlarge : 5 * 4096 < n / scale * gain :=
      (div_lt_iff₀ hgain).mp (lt_trans (by linarith) hreading)
    unfold pinVoltage
    linarith
  have hresistance : sensorResistance (pinVoltage (n / scale) * gain) ≤ 0 :=
    div_nonpos_of_nonpos_of_nonneg (by linarith) (by linarith)
  refine ⟨n, ?_, ?_⟩
  · rw [← not_le, pinVoltage_le_iff]
    linarith
  · unfold ppmOfVoltage
    rwa [if_pos (hresistance.trans (by norm_num))]

/-- An alarm is made by the lowest readings, and from some reading on. -/
theorem exists_alarm_threshold (hgrows : GrowsWithBase powf) (scale gain limit : ℚ)
    (hscale : 0 < scale) (hgain : 0 < gain) (hlimit : limit ≤ 999) :
    ∃ threshold : ℕ, ∀ n : ℕ, limit ≤ ppmOfReading powf scale gain n ↔
      pinVoltage (n / scale) ≤ 0.01 ∨ threshold ≤ n := by
  obtain ⟨threshold, hthreshold⟩ := exists_threshold
    (fun n => 0.01 < pinVoltage (n / scale) ∧
      limit ≤ ppmOfVoltage powf (pinVoltage (n / scale) * gain))
    (exists_far_reading hscale hgain hlimit) (by
      rintro n n' hle ⟨hlow, halarm⟩
      have hcast : (n : ℚ) ≤ n' := by exact_mod_cast hle
      have hvoltage : pinVoltage (n / scale) ≤ pinVoltage (n' / scale) :=
        pinVoltage_mono (by gcongr)
      have hpos : 0 < pinVoltage (n / scale) := lt_trans (by norm_num) hlow
      exact ⟨hlow.trans_le hvoltage,
        halarm.trans (ppmOfVoltage_mono hgrows (mul_pos hpos hgain) (by gcongr))⟩)
  refine ⟨threshold, fun n => ?_⟩
  rw [← hthreshold]
  unfold ppmOfReading
  split
  next hlow => exact iff_of_true hlimit (.inl hlow)
  next hlow =>
    constructor
    · intro halarm
      exact .inr ⟨not_le.mp hlow, halarm⟩
    · rintro (hlow' | ⟨-, halarm⟩)
      · exact absurd hlow' hlow
      · exact halarm

theorem pinVoltage_low_iff (n parts last : ℕ) (hlast : last * 330 ≤ 4096 * parts)
    (hnext : 4096 * parts < (last + 1) * 330) (hparts : 0 < parts) :
    pinVoltage (n / parts) ≤ 0.01 ↔ n ≤ last := by
  rw [pinVoltage_le_iff, div_mul_eq_mul_div, div_le_iff₀ (by exact_mod_cast hparts)]
  norm_cast
  omega

theorem gasAlarmFlag_ne_zero (limit ppm : ℚ) : gasAlarmFlag limit ppm ≠ 0 ↔ limit ≤ ppm := by
  unfold gasAlarmFlag
  rw [lit_rat]
  split
  next hreached => exact iff_of_true one_ne_zero hreached
  next hbelow => exact iff_of_false (not_not.mpr rfl) hbelow

/-- A threshold lies above every reading with a low voltage, and not above one near the
end of the scale. -/
theorem threshold_bounds (hpowf : PowfLike powf) {scale gain limit : ℚ} (hgain : 0 < gain)
    (hone : 1 < limit) (hten : limit ≤ 10) {threshold low high : ℕ}
    (hthreshold : ∀ n : ℕ, limit ≤ ppmOfReading powf scale gain n ↔
      pinVoltage (n / scale) ≤ 0.01 ∨ threshold ≤ n)
    (hlow : 0.01 < pinVoltage (low / scale) ∧ pinVoltage (low / scale) * gain ≤ 0.127)
    (hhigh : 0.01 < pinVoltage (high / scale) ∧ 3.298 ≤ pinVoltage (high / scale) * gain) :
    low < threshold ∧ threshold ≤ high := by
  have hquiet : ppmOfReading powf scale gain low ≤ 1 := by
    have hpos : 0 < pinVoltage (low / scale) := lt_trans (by norm_num) hlow.1
    rw [ppmOfReading, if_neg (not_le.mpr hlow.1)]
    exact ppmOfVoltage_le_one hpowf (mul_pos hpos hgain) hlow.2
  have halarm : 10 ≤ ppmOfReading powf scale gain high := by
    rw [ppmOfReading, if_neg (not_le.mpr hhigh.1)]
    exact ten_le_ppmOfVoltage hpowf hhigh.2
  constructor
  · by_contra hle
    have hreached := (hthreshold low).mpr (.inr (not_lt.mp hle))
    linarith
  · exact ((hthreshold high).mp (hten.trans halarm)).resolve_left (not_le.mpr hhigh.1)

/-- The smoke alarm: readings of at most twelve, and those from a threshold up to
just below full scale. -/
theorem exists_mq2_threshold (hpowf : PowfLike powf) :
    ∃ threshold, (157 < threshold ∧ threshold ≤ 4094) ∧
      ∀ reads : Fin 10 → ℕ, mq2UpdateAlarmFlag (mq2GetDataPPM powf reads) ≠ 0 ↔
        (mq2GetData reads ≤ 12 ∨ threshold ≤ mq2GetData reads) ∧ mq2GetData reads < 4095 := by
  obtain ⟨threshold, hthreshold⟩ :=
    exists_alarm_threshold hpowf.grows 1 1 3 one_pos one_pos (by norm_num)
  have hbounds : 157 < threshold ∧ threshold ≤ 4094 := by
    apply threshold_bounds hpowf one_pos (by norm_num) (by norm_num) hthreshold
    · norm_num [pinVoltage]
    · norm_num [pinVoltage]
  refine ⟨threshold, hbounds, fun reads => ?_⟩
  unfold mq2UpdateAlarmFlag
  rw [gasAlarmFlag_ne_zero, mq2GetDataPPM, mq2CalcPPMFromRaw_eq]
  generalize mq2GetData reads = raw
  split
  next hfull => exact iff_of_false (by norm_num) fun hbelow => Nat.not_lt.mpr hfull hbelow.2
  next hbelow =>
    rw [and_iff_left (Nat.lt_of_not_le hbelow)]
    have hraw := hthreshold raw
    rw [ppmOfReading, div_one, mul_one] at hraw
    have hlow := pinVoltage_low_iff raw 1 12 (by decide) (by decide) one_pos
    rw [Nat.cast_one, div_one] at hlow
    rw [hraw, hlow]

/-- The air alarm: sums of at most 124, and those from a threshold on, full scale
included. -/
theorem exists_mq135_threshold (hpowf : PowfLike powf) :
    ∃ threshold, (1050 < threshold ∧ threshold ≤ 40950) ∧
      ∀ reads : Fin 10 → ℕ, mq135UpdateAlarmFlag (mq135GetDataPPM powf reads) ≠ 0 ↔
        (List.ofFn reads).sum ≤ 124 ∨ threshold ≤ (List.ofFn reads).sum := by
  obtain ⟨threshold, hthreshold⟩ :=
    exists_alarm_threshold hpowf.grows 10 1.5 10 (by norm_num) (by norm_num) (by norm_num)
  have hbounds : 1050 < threshold ∧ threshold ≤ 40950 := by
    apply threshold_bounds hpowf (by norm_num) (by norm_num) (by norm_num) hthreshold
    · norm_num [pinVoltage]
    · norm_num [pinVoltage]
  refine ⟨threshold, hbounds, fun reads => ?_⟩
  unfold mq135UpdateAlarmFlag
  rw [gasAlarmFlag_ne_zero, mq135GetDataPPM_eq]
  refine (hthreshold _).trans (or_congr_left ?_)
  exact pinVoltage_low_iff _ 10 124 (by decide) (by decide) (by decide)

/-! ## Over runs -/

/-- The last call of a pass, with conversions as described. -/
def Refreshes (described : Reads → Prop) (s : Controller ℚ) : ControlEvent → Prop
  | .call reads => s.next = .refresh ∧ described reads
  | _ => False

/-- An event that measures nothing. -/
def KeepsMeasured (s : Controller ℚ) (event : ControlEvent) : Prop :=
  ¬ Refreshes (fun _ => True) s event

/-- A flag that a refresh derives from its conversions, and nothing else sets,
stands for the last refresh. -/
theorem flag_iff_since (clock : UInt32) (flag : Controller ℚ → ℕ) {verdict : Reads → ℕ}
    {described : Reads → Prop} (hdescribed : ∀ reads, verdict reads ≠ 0 ↔ described reads)
    (hinit : flag (.init clock) = 0)
    (hrefresh : ∀ (s : Controller ℚ) (reads : Reads), s.next = .refresh →
      flag (s.step powf (.call reads)) = verdict reads)
    (hkeep : ∀ (s : Controller ℚ) (event : ControlEvent), KeepsMeasured s event →
      flag (s.step powf event) = flag s)
    (events : List ControlEvent) :
    flag ((controlSystem ℚ powf clock).run events) ≠ 0 ↔
      (controlSystem ℚ powf clock).Since (Refreshes described) KeepsMeasured events := by
  have hany : (controlSystem ℚ powf clock).Invariant fun _ => True :=
    ⟨trivial, fun _ _ _ => trivial⟩
  refine hany.since_iff (fun s => flag s ≠ 0) (not_not.mpr hinit) ?_ events
  intro s event _
  by_cases hkeeps : KeepsMeasured s event
  · have hnot : ¬ Refreshes described s event := by
      intro hrefreshes
      cases event with
      | call reads => exact hkeeps ⟨hrefreshes.1, trivial⟩
      | _ => exact hrefreshes
    change flag (s.step powf event) ≠ 0 ↔ _
    rw [hkeep s event hkeeps, or_iff_right hnot, and_iff_left hkeeps]
  · cases event with
    | call reads =>
        obtain ⟨hnext, -⟩ := not_not.mp hkeeps
        change flag (s.step powf (.call reads)) ≠ 0 ↔ _
        rw [hrefresh s reads hnext, hdescribed, or_iff_left fun hkept => hkeeps hkept.2]
        exact (and_iff_right hnext).symm
    | _ => exact absurd id hkeeps

/-- Calls other than the last of a pass leave the two flags. -/
theorem gasFlags_step {s : Controller ℚ} {event : ControlEvent} (hkeeps : KeepsMeasured s event) :
    (s.step powf event).mq2AlarmFlag = s.mq2AlarmFlag ∧
      (s.step powf event).mq135AlarmFlag = s.mq135AlarmFlag := by
  cases event with
  | plantSoft | maixcam | hwt101 | vl53 | exti | buzzer => exact ⟨rfl, rfl⟩
  | call reads =>
      have hnext : s.next ≠ .refresh := fun hnext => hkeeps ⟨hnext, trivial⟩
      change (s.perform powf reads s.next).mq2AlarmFlag = _ ∧
        (s.perform powf reads s.next).mq135AlarmFlag = _
      cases hcall : s.next
      case refresh => exact absurd hcall hnext
      all_goals exact ⟨rfl, rfl⟩

/-- The writes of a pass are one or the other kind. -/
theorem buzzerWarm_ne_buzzerClose (pin : List Bool) :
    pin ++ buzzerClose ≠ pin ++ buzzerWarm 10 := by
  intro hsame
  exact absurd (List.append_cancel_left hsame) (by decide)

/-- In every run a pass of the buzzer thread beeps, and does so ten times, if and
only if the last measurement found smoke or bad air as described by the two
thresholds, or the soil alarm stands. Both thresholds lie within the scale: the
air sensor raises its alarm at the end of it, where the smoke sensor is silent. -/
theorem buzzer_sounds_iff (hpowf : PowfLike powf) :
    ∃ smoke air : ℕ, (157 < smoke ∧ smoke ≤ 4094) ∧ (1050 < air ∧ air ≤ 40950) ∧
      ∀ (clock : UInt32) (events : List ControlEvent),
        ((controlSystem ℚ powf clock).run (events ++ [.buzzer])).beePin =
            ((controlSystem ℚ powf clock).run events).beePin ++ buzzerWarm 10 ↔
          (controlSystem ℚ powf clock).Since
              (Refreshes fun reads => (mq2GetData reads.mq2 ≤ 12 ∨ smoke ≤ mq2GetData reads.mq2) ∧
                mq2GetData reads.mq2 < 4095) KeepsMeasured events ∨
            (controlSystem ℚ powf clock).Since
              (Refreshes fun reads => (List.ofFn reads.mq135).sum ≤ 124 ∨
                air ≤ (List.ofFn reads.mq135).sum) KeepsMeasured events ∨
            ((controlSystem ℚ powf clock).run events).soil.soilAlarmFlag ≠ 0 := by
  obtain ⟨smoke, hsmokeBounds, hsmoke⟩ := exists_mq2_threshold hpowf
  obtain ⟨air, hairBounds, hair⟩ := exists_mq135_threshold hpowf
  refine ⟨smoke, air, hsmokeBounds, hairBounds, fun clock events => ?_⟩
  have hrefresh (s : Controller ℚ) (reads : Reads) (hnext : s.next = .refresh) :
      s.step powf (.call reads) = { s.refresh powf reads with next := .getSpeedMilleage } := by
    change { s.perform powf reads s.next with next := s.next.next } = _
    rw [hnext]
    rfl
  have hmq2 := flag_iff_since clock Controller.mq2AlarmFlag
    (fun reads => hsmoke reads.mq2) rfl
    (fun s reads hnext => congrArg Controller.mq2AlarmFlag (hrefresh s reads hnext))
    (fun _ _ hkeeps => (gasFlags_step hkeeps).1) events
  have hmq135 := flag_iff_since clock Controller.mq135AlarmFlag
    (fun reads => hair reads.mq135) rfl
    (fun s reads hnext => congrArg Controller.mq135AlarmFlag (hrefresh s reads hnext))
    (fun _ _ hkeeps => (gasFlags_step hkeeps).2) events
  have hdht11 := (dht11AlarmFlag_invariant powf clock).run events
  rw [System.run_concat, ← hmq2, ← hmq135]
  generalize (controlSystem ℚ powf clock).run events = s at hdht11
  change s.beePin ++ buzzerOpen s.mq2AlarmFlag s.mq135AlarmFlag s.soil.soilAlarmFlag
    s.dht11AlarmFlag = _ ↔ _
  rw [hdht11]
  unfold buzzerOpen
  split
  next halarm => exact iff_of_true rfl (by tauto)
  next hquiet => exact iff_of_false (buzzerWarm_ne_buzzerClose _) (by tauto)

/-- The chord of `powf` between its values at 1 and 64, for the one exponent it is
called with, and its base below. -/
def powfChord (x _ : ℚ) : ℚ := if x ≤ 1 then x else 1 + (x - 1) * 0.226

theorem powfLike_chord : PowfLike powfChord where
  grows x y _ _ _ hle := by
    unfold powfChord
    split_ifs <;> linarith
  one _ := if_pos le_rfl
  large := by norm_num [powfChord]

theorem buzzer_sounds_iff_chord :
    ∃ smoke air : ℕ, (157 < smoke ∧ smoke ≤ 4094) ∧ (1050 < air ∧ air ≤ 40950) ∧
      ∀ (clock : UInt32) (events : List ControlEvent),
        ((controlSystem ℚ powfChord clock).run (events ++ [.buzzer])).beePin =
            ((controlSystem ℚ powfChord clock).run events).beePin ++ buzzerWarm 10 ↔
          (controlSystem ℚ powfChord clock).Since
              (Refreshes fun reads => (mq2GetData reads.mq2 ≤ 12 ∨ smoke ≤ mq2GetData reads.mq2) ∧
                mq2GetData reads.mq2 < 4095) KeepsMeasured events ∨
            (controlSystem ℚ powfChord clock).Since
              (Refreshes fun reads => (List.ofFn reads.mq135).sum ≤ 124 ∨
                air ≤ (List.ofFn reads.mq135).sum) KeepsMeasured events ∨
            ((controlSystem ℚ powfChord clock).run events).soil.soilAlarmFlag ≠ 0 :=
  buzzer_sounds_iff powfLike_chord

end PlantAssistant.Control
