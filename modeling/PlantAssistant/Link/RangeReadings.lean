import Mathlib.Tactic.IntervalCases
import PlantAssistant.Framing.Occurrences
import PlantAssistant.Link.ReadCuts

/-! # Readings of the range finder

A reading is a frame with digits or blanks in it. No two of them overlap, nor does
one with a frame of other bytes, so that the scan for frames finds all readings.
-/

namespace PlantAssistant.Link

open Framing PlantAssistant.Firmware

/-! ## Readings -/

/-- The value of a digit. A blank counts as zero. -/
def digitValue (byte : UInt8) : Option ℕ :=
  if byte = 0x20 then some 0
  else if 0x30 ≤ byte ∧ byte ≤ 0x39 then some (byte.toNat - 0x30)
  else none

/-- The decimal value of the frame at the beginning, if a frame of digits and
blanks stands there. -/
def readingAt : List UInt8 → Option ℕ
  | 0x65 :: 0x3A :: qian :: bai :: shi :: ge :: 0x6D :: _ => do
      let qian ← digitValue qian
      let bai ← digitValue bai
      let shi ← digitValue shi
      let ge ← digitValue ge
      return qian * 1000 + bai * 100 + shi * 10 + ge
  | _ => none

def readings (stream : List UInt8) : List ℕ := occurrences readingAt stream

theorem digitValue_le {byte : UInt8} {value : ℕ} (hvalue : digitValue byte = some value) :
    value ≤ 9 := by
  unfold digitValue at hvalue
  split_ifs at hvalue with hblank hdigit
  · cases hvalue
    exact Nat.zero_le 9
  · cases hvalue
    have hle := UInt8.le_iff_toNat_le.mp hdigit.2
    change byte.toNat ≤ 57 at hle
    omega

/-- The firmware's digit is the same. -/
theorem toNat_receiveDigit {byte : UInt8} {value : ℕ} (hvalue : digitValue byte = some value) :
    (receiveDigit byte).toNat = value := by
  unfold digitValue at hvalue
  unfold receiveDigit
  split_ifs at hvalue with hblank hdigit
  · cases hvalue
    rw [if_pos hblank]
    rfl
  · cases hvalue
    rw [if_neg hblank, UInt8.toNat_sub_of_le _ _ hdigit.1]
    rfl

/-- A reading has the form of a frame. -/
theorem exists_of_readingAt {bytes : List UInt8} {reading : ℕ}
    (hreading : readingAt bytes = some reading) :
    ∃ qian bai shi ge rest, bytes = [0x65, 0x3A, qian, bai, shi, ge, 0x6D] ++ rest ∧
      ∃ q b s g, digitValue qian = some q ∧ digitValue bai = some b ∧ digitValue shi = some s ∧
        digitValue ge = some g ∧ reading = q * 1000 + b * 100 + s * 10 + g := by
  unfold readingAt at hreading
  split at hreading
  next qian bai shi ge rest =>
    simp only [bind, Option.bind_eq_some_iff] at hreading
    obtain ⟨q, hq, b, hb, s, hs, g, hg, hvalue⟩ := hreading
    exact ⟨qian, bai, shi, ge, rest, rfl, q, b, s, g, hq, hb, hs, hg, (Option.some.inj hvalue).symm⟩
  next => cases hreading

theorem readingAt_frame (qian bai shi ge : UInt8) (rest : List UInt8) :
    readingAt ([0x65, 0x3A, qian, bai, shi, ge, 0x6D] ++ rest) =
      readingAt [0x65, 0x3A, qian, bai, shi, ge, 0x6D] := rfl

/-- Seven bytes decide whether a reading begins. -/
theorem readingAt_append_eq_none {bytes : List UInt8} (hlong : 7 ≤ bytes.length)
    (hnone : readingAt bytes = none) (more : List UInt8) : readingAt (bytes ++ more) = none := by
  rw [Option.eq_none_iff_forall_ne_some]
  intro reading hreading
  obtain ⟨qian, bai, shi, ge, rest, hbytes, -⟩ := exists_of_readingAt hreading
  obtain ⟨rest', rfl⟩ : [0x65, 0x3A, qian, bai, shi, ge, 0x6D] <+: bytes :=
    List.prefix_of_prefix_length_le ⟨rest, hbytes.symm⟩ (List.prefix_append bytes more) hlong
  rw [List.append_assoc] at hreading
  rw [readingAt_frame] at hnone hreading
  cases hnone.symm.trans hreading

/-- Inside a frame stands another byte than a header or a digit. -/
theorem readingAt_inside (qian bai shi ge : UInt8) (rest : List UInt8) {k : ℕ} (hpos : 0 < k)
    (hk : k < 7) :
    readingAt (([0x65, 0x3A, qian, bai, shi, ge, 0x6D] ++ rest).drop k) = none := by
  have htail : digitValue 0x6D = none := rfl
  rw [Option.eq_none_iff_forall_ne_some]
  intro reading hreading
  obtain ⟨qian', bai', shi', ge', rest', hbytes, q, b, s, g, hq, hb, hs, hg, -⟩ :=
    exists_of_readingAt hreading
  interval_cases k
  all_goals
    simp only [List.cons_append, List.nil_append, List.drop_succ_cons, List.drop_zero,
      List.cons.injEq] at hbytes
  case «1» => exact absurd hbytes.1 (by decide)
  case «2» =>
    obtain ⟨-, -, -, -, rfl, -⟩ := hbytes
    cases htail.symm.trans hs
  case «3» =>
    obtain ⟨-, -, -, rfl, -⟩ := hbytes
    cases htail.symm.trans hb
  case «4» =>
    obtain ⟨-, -, rfl, -⟩ := hbytes
    cases htail.symm.trans hq
  case «5» => exact absurd hbytes.2.1 (by decide)
  case «6» => exact absurd hbytes.1 (by decide)

/-- No reading begins inside a frame. -/
theorem readings_frame (qian bai shi ge : UInt8) (rest : List UInt8) :
    readings ([0x65, 0x3A, qian, bai, shi, ge, 0x6D] ++ rest) =
      (readingAt [0x65, 0x3A, qian, bai, shi, ge, 0x6D]).toList ++ readings rest := by
  have hinside : readings ([0x3A, qian, bai, shi, ge, 0x6D] ++ rest) = readings rest := by
    apply occurrences_append_of_none
    intro part hpart hne
    have hpos := List.length_pos_of_ne_nil hne
    have hlength := hpart.length_le
    rw [List.suffix_iff_eq_drop] at hpart
    simp only [List.length_cons, List.length_nil] at hpart hlength
    have hposition : part ++ rest =
        ([0x65, 0x3A, qian, bai, shi, ge, 0x6D] ++ rest).drop (6 - part.length + 1) := by
      rw [List.cons_append, List.drop_succ_cons,
        List.drop_append_of_le_length (by simp only [List.length_cons, List.length_nil]; omega),
        ← hpart]
    rw [hposition]
    exact readingAt_inside qian bai shi ge rest (by omega) (by omega)
  change (readingAt ([0x65, 0x3A, qian, bai, shi, ge, 0x6D] ++ rest)).toList ++
    readings ([0x3A, qian, bai, shi, ge, 0x6D] ++ rest) = _
  rw [hinside, readingAt_frame]

theorem rangePattern_isMatch_iff (window : List UInt8) :
    rangePattern.isMatch window ↔
      ∃ qian bai shi ge rest, window = [0x65, 0x3A, qian, bai, shi, ge, 0x6D] ++ rest := by
  constructor
  · intro hmatch
    unfold rangePattern at hmatch
    dsimp only at hmatch
    split at hmatch
    next qian bai shi ge rest => exact ⟨qian, bai, shi, ge, rest, rfl⟩
    next => cases hmatch
  · rintro ⟨qian, bai, shi, ge, rest, rfl⟩
    rfl

/-- A reading would have matched. -/
theorem readingAt_append_of_skip {bytes : List UInt8}
    (hverdict : rangePattern.rule.verdict bytes = .skip) (more : List UInt8) :
    readingAt (bytes ++ more) = none := by
  obtain ⟨hlong, hmatch⟩ := (Pattern.verdict_eq_skip_iff _).mp hverdict
  rw [Option.eq_none_iff_forall_ne_some]
  intro reading hreading
  obtain ⟨qian, bai, shi, ge, rest, hbytes, -⟩ := exists_of_readingAt hreading
  apply hmatch
  rw [rangePattern_isMatch_iff, ← List.take_append_of_le_length hlong, hbytes]
  exact ⟨qian, bai, shi, ge, [], rfl⟩

/-- A window that is taken is a frame and nothing else. -/
theorem exists_frame_of_accept {bytes : List UInt8} {size : ℕ}
    (hverdict : rangePattern.rule.verdict bytes = .accept size) :
    ∃ qian bai shi ge tail, bytes = [0x65, 0x3A, qian, bai, shi, ge, 0x6D] ++ tail ∧
      size = 7 := by
  obtain ⟨rfl, hlong, hmatch⟩ := (Pattern.verdict_eq_accept_iff _).mp hverdict
  obtain ⟨qian, bai, shi, ge, rest, hwindow⟩ := (rangePattern_isMatch_iff _).mp hmatch
  have hlength := congrArg List.length hwindow
  rw [List.length_take_of_le hlong, List.length_append] at hlength
  change 7 = 7 + rest.length at hlength
  obtain rfl : rest = [] := List.eq_nil_of_length_eq_zero (by omega)
  rw [List.append_nil] at hwindow
  refine ⟨qian, bai, shi, ge, bytes.drop rangePattern.size, ?_, rfl⟩
  rw [← hwindow, List.take_append_drop]

/-- The scan of what has arrived finds all of its readings among its frames, whatever
arrives later. -/
theorem readings_append_eq_scan (bytes more : List UInt8) :
    readings (bytes ++ more) =
      (rangePattern.rule.scan bytes).1.filterMap readingAt ++
        readings ((rangePattern.rule.scan bytes).2 ++ more) := by
  induction bytes using rangePattern.rule.scan_induction with
  | wait bytes hverdict => rw [Rule.scan_wait _ hverdict]; rfl
  | skip bytes hverdict ih =>
      have hnone := readingAt_append_of_skip hverdict more
      rw [Rule.scan_skip _ hverdict, ← ih]
      cases bytes with
      | nil => rfl
      | cons byte bytes =>
          change (readingAt (byte :: bytes ++ more)).toList ++ readings (bytes ++ more) = _
          rw [hnone]
          rfl
  | accept bytes size hverdict ih =>
      obtain ⟨qian, bai, shi, ge, tail, rfl, rfl⟩ := exists_frame_of_accept hverdict
      change readings (tail ++ more) = (rangePattern.rule.scan tail).1.filterMap readingAt ++
        readings ((rangePattern.rule.scan tail).2 ++ more) at ih
      rw [Rule.scan_accept _ hverdict, List.append_assoc, readings_frame, ih]
      change _ = (([0x65, 0x3A, qian, bai, shi, ge, 0x6D] ::
        (rangePattern.rule.scan tail).1).filterMap readingAt) ++
          readings ((rangePattern.rule.scan tail).2 ++ more)
      rw [← List.append_assoc]
      cases hreading : readingAt [0x65, 0x3A, qian, bai, shi, ge, 0x6D] with
      | none => rw [List.filterMap_cons_none hreading]; rfl
      | some reading => rw [List.filterMap_cons_some hreading]; rfl

end PlantAssistant.Link
