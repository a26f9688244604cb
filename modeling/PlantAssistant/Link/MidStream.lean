import Mathlib.Data.List.Infix
import Mathlib.Tactic.IntervalCases
import PlantAssistant.Framing.Settle
import PlantAssistant.Link.PanelReceive

/-! # Opening the port in the middle of a frame

The firmware sends its seven frames in turn whether the port is open or not. The
panel may take the rest of a frame for the beginning of another, and that may
cost it the next frame and the one behind. It never costs a third.
-/

namespace PlantAssistant.Link

open Framing Transition PlantAssistant.Firmware PlantAssistant.Panel

/-! ## The order of the frames -/

/-- The frame sent in the given place of a round. -/
def Slot (k : ℕ) (frame : List UInt8) : Prop :=
  match k with
  | 0 => ∃ hi lo, frame = [0xAA, 0x10, 0x10, hi, lo, 0x55]
  | 1 => ∃ hi lo, frame = [0xAA, 0x10, 0x11, hi, lo, 0x55]
  | 2 => ∃ hi lo, frame = [0xAA, 0x10, 0x12, hi, lo, 0x55]
  | 3 => ∃ hi lo, frame = [0xAA, 0x10, 0x13, hi, lo, 0x55]
  | 4 => ∃ yawHi yawLo hi lo, frame = [0xAA, 0x20, yawHi, yawLo, hi, lo, 0x55]
  | 5 => ∃ code, frame = [0xAA, 0x30, code, 0x55]
  | _ => ∃ code, frame = [0xAA, 0x70, code, 0x55]

theorem Slot.telemetryFrame {k : ℕ} {frame : List UInt8} (hslot : Slot k frame) :
    TelemetryFrame frame := by
  match k, hslot with
  | 0, ⟨_, _, h⟩ | 1, ⟨_, _, h⟩ | 2, ⟨_, _, h⟩ | 3, ⟨_, _, h⟩ => exact h ▸ .sensor _ _ (by decide)
  | 4, ⟨_, _, _, _, h⟩ => exact h ▸ .obstacle _ _ _ _
  | 5, ⟨_, h⟩ => exact h ▸ .plantState _
  | _ + 6, ⟨_, h⟩ => exact h ▸ .plantType _

theorem exists_slot (k : ℕ) : ∃ frame, Slot k frame := by
  match k with
  | 0 | 1 | 2 | 3 => exact ⟨_, 0, 0, rfl⟩
  | 4 => exact ⟨_, 0, 0, 0, 0, rfl⟩
  | 5 => exact ⟨_, 0, rfl⟩
  | _ + 6 => exact ⟨_, 0, rfl⟩

/-- The counter of `SendData_to_PlantSoft` and the frames sent so far are in step. -/
structure Rounds (cnt : ℕ) (sent : List (List UInt8)) : Prop where
  cnt_lt : cnt < 28
  place : cnt / 4 = sent.length % 7
  slot : ∀ i frame, sent[i]? = some frame → Slot (i % 7) frame

theorem rounds_init : Rounds 0 [] :=
  ⟨by decide, rfl, nofun⟩

/-- A call either counts or sends the next frame of the round. -/
theorem Laid.send_cases {F : Type} [CFloat F] {t : Telemetry} (hlaid : Laid t) (hcnt : t.cnt < 28)
    (input : TelemetryInput F) :
    let out := sendDataToPlantSoft input t
    out.1.cnt = (t.cnt + 1) % 28 ∧
      (t.cnt % 4 ≠ 3 ∧ out.2 = [] ∨ t.cnt % 4 = 3 ∧ ∃ frame, out.2 = [frame] ∧
        Slot (t.cnt / 4) frame) := by
  obtain ⟨⟨_, _, hsoil⟩, ⟨_, _, htemp⟩, ⟨_, _, hhumi⟩, ⟨_, _, hair⟩, ⟨_, _, _, _, hobs⟩,
    ⟨_, hstate⟩, ⟨_, htype⟩⟩ := hlaid.fillPacks input
  have hkept : (Firmware.fillPacks input t).cnt = t.cnt := rfl
  simp only [sendDataToPlantSoft, hsoil, htemp, hhumi, hair, hobs, hstate, htype, hkept]
  generalize t.cnt = cnt at hcnt
  interval_cases cnt <;>
    first
      | exact ⟨rfl, .inl ⟨by decide, rfl⟩⟩
      | exact ⟨rfl, .inr ⟨rfl, _, rfl, _, _, rfl⟩⟩
      | exact ⟨rfl, .inr ⟨rfl, _, rfl, _, rfl⟩⟩
      | exact ⟨rfl, .inr ⟨rfl, _, rfl, _, _, _, _, rfl⟩⟩

theorem Rounds.send {F : Type} [CFloat F] {t : Telemetry} {sent : List (List UInt8)}
    (hrounds : Rounds t.cnt sent) (hlaid : Laid t) (input : TelemetryInput F) :
    Rounds (sendDataToPlantSoft input t).1.cnt (sent ++ (sendDataToPlantSoft input t).2) := by
  obtain ⟨hcnt, hplace, hslot⟩ := hrounds
  obtain ⟨hnext, ⟨hcounts, hnone⟩ | ⟨hsends, frame, hframe, hhere⟩⟩ := hlaid.send_cases hcnt input
  · rw [hnext, hnone, List.append_nil]
    exact ⟨Nat.mod_lt _ (by decide), by omega, hslot⟩
  · rw [hnext, hframe]
    refine ⟨Nat.mod_lt _ (by decide), by rw [List.length_append, List.length_singleton]; omega,
      fun i frame' hget => ?_⟩
    rcases Nat.lt_trichotomy i sent.length with hlt | rfl | hgt
    · exact hslot i frame' (by rwa [List.getElem?_append_left hlt] at hget)
    · rw [List.getElem?_concat_length] at hget
      obtain rfl := Option.some.inj hget
      rwa [← hplace]
    · rw [List.getElem?_eq_none (by rw [List.length_append, List.length_singleton]; omega)] at hget
      cases hget

theorem uplinkSystem_rounds {F : Type} [CFloat F] : (uplinkSystem F).Invariant fun u =>
    Laid u.telemetry ∧ Rounds u.telemetry.cnt u.sent where
  init := ⟨laid_init, rounds_init⟩
  step u event hinv := by
    obtain ⟨hlaid, hrounds⟩ := hinv
    cases event with
    | send input => exact ⟨(hlaid.send input).1, hrounds.send hlaid input⟩
    | yaw hi lo => exact ⟨hlaid.yaw hi lo, hrounds⟩

/-! ## What is left of a frame -/

theorem settles_byte {n : ℕ} {byte : UInt8} {bytes : List UInt8} (hhead : byte ≠ 0xAA)
    (hsettles : referenceRule.Settles n bytes) : referenceRule.Settles n (byte :: bytes) :=
  hsettles.skip referenceRule_stable (referenceRule_skip hhead bytes)

/-- A byte that may be a header. -/
theorem settles_cons {n : ℕ} {byte : UInt8} {bytes : List UInt8}
    (hbytes : referenceRule.Settles n bytes)
    (hheader : referenceRule.Settles n (0xAA :: bytes)) :
    referenceRule.Settles n (byte :: bytes) := by
  by_cases hhead : byte = 0xAA
  · rw [hhead]
    exact hheader
  · exact settles_byte hhead hbytes

/-- The length that two bytes behind the header announce. -/
theorem expectedFrameLength_cons (b c : UInt8) (rest : List UInt8) :
    expectedFrameLength (0xAA :: b :: c :: rest) =
      if b = 0x10 then if c ∈ [0x10, 0x11, 0x12, 0x13] then some 6 else none
      else if b = 0x20 then some 7
      else if b ∈ [0x30, 0x70] then some 4
      else none := by
  have htwo : ¬ (0xAA :: b :: c :: rest).length < 2 := by simp
  have hthree : ¬ (0xAA :: b :: c :: rest).length < 3 := by simp
  simp only [expectedFrameLength, htwo, hthree, if_false, false_or, List.getD_cons_zero,
    List.getD_cons_succ, ne_eq, not_true_eq_false]

/-- A header whose frame is complete is given up or begins that frame. -/
theorem settles_announced {n frameLength : ℕ} {bytes : List UInt8}
    (hannounced : expectedFrameLength (0xAA :: bytes) = some frameLength)
    (hlong : frameLength ≤ (0xAA :: bytes).length) (hskip : referenceRule.Settles (n + 1) bytes)
    (htake : (0xAA :: bytes).getD (frameLength - 1) 0 = 0x55 →
      referenceRule.Settles n ((0xAA :: bytes).drop frameLength)) :
    referenceRule.Settles (n + 1) (0xAA :: bytes) := by
  have hmem := expectedFrameLength_mem hannounced
  simp only [List.mem_cons, List.not_mem_nil, or_false] at hmem
  have hhead : (0xAA :: bytes).head? = some 0xAA := rfl
  have hverdict := referenceRule_verdict hhead (by omega)
  rw [hannounced] at hverdict
  dsimp only at hverdict
  rw [if_neg (by omega)] at hverdict
  by_cases htail : (0xAA :: bytes).getD (frameLength - 1) 0 = 0x55
  · rw [if_neg (not_not.mpr htail)] at hverdict
    have hsize : ((0xAA :: bytes).take frameLength).length = frameLength := by
      rw [List.length_take]
      omega
    rw [← List.take_append_drop frameLength (0xAA :: bytes)] at hverdict ⊢
    refine (htake htail).accept referenceRule_stable ?_
    rw [hverdict, hsize]
  · exact hskip.skip referenceRule_stable (hverdict.trans (if_pos htail))

/-- A header that announces nothing is given up. -/
theorem settles_stray {n : ℕ} {bytes : List UInt8}
    (hannounced : expectedFrameLength (0xAA :: bytes) = none)
    (hlong : 4 ≤ (0xAA :: bytes).length) (hskip : referenceRule.Settles n bytes) :
    referenceRule.Settles n (0xAA :: bytes) := by
  have hhead : (0xAA :: bytes).head? = some 0xAA := rfl
  have hverdict := referenceRule_verdict hhead (by omega)
  rw [hannounced] at hverdict
  exact hskip.skip referenceRule_stable hverdict

/-- A header with six bytes behind it is given up or begins one of three frames. -/
theorem settles_header {n : ℕ} {b c d e f g : UInt8} {rest : List UInt8}
    (hskip : referenceRule.Settles (n + 1) (b :: c :: d :: e :: f :: g :: rest))
    (hsensor : b = 0x10 → c ∈ [0x10, 0x11, 0x12, 0x13] → f = 0x55 →
      referenceRule.Settles n (g :: rest))
    (hobstacle : b = 0x20 → g = 0x55 → referenceRule.Settles n rest)
    (hstatus : b ∈ [0x30, 0x70] → d = 0x55 →
      referenceRule.Settles n (e :: f :: g :: rest)) :
    referenceRule.Settles (n + 1) (0xAA :: b :: c :: d :: e :: f :: g :: rest) := by
  have hlong {k : ℕ} (hk : k ≤ 7) :
      k ≤ (0xAA :: b :: c :: d :: e :: f :: g :: rest).length := by
    simp only [List.length_cons]
    omega
  have hannounced := expectedFrameLength_cons b c (d :: e :: f :: g :: rest)
  split_ifs at hannounced with htype hsub hobs hstat
  · exact settles_announced hannounced (hlong (by decide)) hskip (hsensor htype hsub)
  · exact settles_stray hannounced (hlong (by decide)) hskip
  · exact settles_announced hannounced (hlong (by decide)) hskip (hobstacle hobs)
  · exact settles_announced hannounced (hlong (by decide)) hskip (hstatus hstat)
  · exact settles_stray hannounced (hlong (by decide)) hskip

/-- The low byte of a word and the tail behind it are given up. -/
theorem settles_low {n : ℕ} (lo : UInt8) {rest : List UInt8} (hlong : 2 ≤ rest.length)
    (hrest : referenceRule.Settles n rest) : referenceRule.Settles n (lo :: 0x55 :: rest) := by
  have htail : referenceRule.Settles n (0x55 :: rest) := settles_byte (by decide) hrest
  apply settles_cons htail
  obtain ⟨b, rest, rfl⟩ := List.exists_cons_of_length_pos (Nat.lt_of_lt_of_le Nat.two_pos hlong)
  refine settles_stray (expectedFrameLength_cons 0x55 b rest) ?_ htail
  simp only [List.length_cons] at hlong ⊢
  omega

theorem TelemetryFrame.settles {frame : List UInt8} (hframe : TelemetryFrame frame) :
    referenceRule.Settles 1 frame :=
  (framed_telemetryFrame hframe).settles

/-- A sensor frame that has begun. All depends on the high byte of its word. -/
theorem settles_reading {sub : UInt8} (hsub : sub ≠ 0xAA) (hi lo : UInt8) {rest : List UInt8}
    (hlong : 2 ≤ rest.length) (hrest : referenceRule.Settles 2 rest)
    (hheader : referenceRule.Settles 2 (lo :: 0x55 :: rest) →
      referenceRule.Settles 3 (0xAA :: lo :: 0x55 :: rest)) (j : ℕ) :
    referenceRule.Settles 3 ([0xAA, 0x10, sub, hi, lo, 0x55].drop (j + 1) ++ rest) := by
  have hlo := settles_low lo hlong hrest
  have hhi : referenceRule.Settles 3 (hi :: lo :: 0x55 :: rest) :=
    settles_cons (hlo.mono (Nat.le_succ 2)) (hheader hlo)
  match j with
  | 0 => exact settles_byte (by decide) (settles_byte hsub hhi)
  | 1 => exact settles_byte hsub hhi
  | 2 => exact hhi
  | 3 => exact hlo.mono (Nat.le_succ 2)
  | 4 => exact (settles_byte (by decide) hrest).mono (Nat.le_succ 2)
  | _ + 5 =>
      rw [List.drop_of_length_le (by simp)]
      exact hrest.mono (Nat.le_succ 2)

/-- A sensor frame that has begun, and another behind it. -/
theorem settles_sensor {sub sub' hi' lo' : UInt8} (hsub : sub ≠ 0xAA)
    (hsub' : sub' ∈ [0x10, 0x11, 0x12, 0x13]) {frame : List UInt8} (hframe : TelemetryFrame frame)
    (hi lo : UInt8) (j : ℕ) :
    referenceRule.Settles 3 ([0xAA, 0x10, sub, hi, lo, 0x55].drop (j + 1) ++
      ([0xAA, 0x10, sub', hi', lo', 0x55] ++ frame)) := by
  apply settles_reading hsub hi lo (by simp)
    ((TelemetryFrame.sensor hi' lo' hsub').settles.append hframe.settles)
  intro hlo
  refine settles_header (hlo.mono (Nat.le_succ 2)) (fun _ hmem => absurd hmem (by decide))
    (fun _ _ => ?_) (fun _ hmem => absurd hmem (by decide))
  -- the high byte of the next word has ended the false frame
  have hlong := (telemetryFrame_shape hframe).2.1
  exact (settles_low lo' (by omega) hframe.settles).mono (Nat.le_succ 1)

/-- The air quality that has begun, the obstacle and the leaf state behind it. -/
theorem settles_air (hi lo yawHi yawLo hi' lo' code : UInt8) (j : ℕ) :
    referenceRule.Settles 3 ([0xAA, 0x10, 0x13, hi, lo, 0x55].drop (j + 1) ++
      ([0xAA, 0x20, yawHi, yawLo, hi', lo', 0x55] ++ [0xAA, 0x30, code, 0x55])) := by
  have hstate := (TelemetryFrame.plantState code).settles
  apply settles_reading (by decide) hi lo (by simp)
    ((TelemetryFrame.obstacle yawHi yawLo hi' lo').settles.append hstate)
  intro hlo
  refine settles_header (hlo.mono (Nat.le_succ 2)) (fun _ hmem => absurd hmem (by decide))
    (fun _ _ => ?_) (fun _ hmem => absurd hmem (by decide))
  -- the yaw has ended the false frame, and the distance may begin another
  have hlo' : referenceRule.Settles 2 (lo' :: 0x55 :: [0xAA, 0x30, code, 0x55]) :=
    (settles_low lo' (by simp) hstate).mono (Nat.le_succ 1)
  exact settles_cons hlo' (settles_header hlo' (fun _ hmem => absurd hmem (by decide))
    (fun _ _ => Rule.settles_nil 1) (fun _ hmem => absurd hmem (by decide)))

/-- The obstacle that has begun, the leaf state and the plant type behind it. -/
theorem settles_obstacle (yawHi yawLo hi lo code type : UInt8) (j : ℕ) :
    referenceRule.Settles 3 ([0xAA, 0x20, yawHi, yawLo, hi, lo, 0x55].drop (j + 1) ++
      ([0xAA, 0x30, code, 0x55] ++ [0xAA, 0x70, type, 0x55])) := by
  have htype := (TelemetryFrame.plantType type).settles
  have hnext : referenceRule.Settles 2 ([0xAA, 0x30, code, 0x55] ++ [0xAA, 0x70, type, 0x55]) :=
    (TelemetryFrame.plantState code).settles.append htype
  have htail : referenceRule.Settles 2
      (0x55 :: ([0xAA, 0x30, code, 0x55] ++ [0xAA, 0x70, type, 0x55])) :=
    settles_byte (by decide) hnext
  have hlo : referenceRule.Settles 2
      (lo :: 0x55 :: ([0xAA, 0x30, code, 0x55] ++ [0xAA, 0x70, type, 0x55])) :=
    settles_low lo (by simp) hnext
  have hhi : referenceRule.Settles 3
      (hi :: lo :: 0x55 :: ([0xAA, 0x30, code, 0x55] ++ [0xAA, 0x70, type, 0x55])) :=
    (settles_cons hlo (settles_header hlo (fun _ hmem => absurd hmem (by decide))
      (fun _ _ => htype) (fun _ hmem => absurd hmem (by decide)))).mono (Nat.le_succ 2)
  have hyawLo : referenceRule.Settles 3 (yawLo :: hi :: lo :: 0x55 ::
      ([0xAA, 0x30, code, 0x55] ++ [0xAA, 0x70, type, 0x55])) :=
    settles_cons hhi (settles_header hhi (fun _ _ hmem => absurd hmem (by decide))
      (fun _ _ => (settles_byte (by decide) htype).mono (Nat.le_succ 1)) (fun _ _ => hnext))
  have hyawHi : referenceRule.Settles 3 (yawHi :: yawLo :: hi :: lo :: 0x55 ::
      ([0xAA, 0x30, code, 0x55] ++ [0xAA, 0x70, type, 0x55])) :=
    settles_cons hyawLo (settles_header hyawLo (fun _ _ hmem => absurd hmem (by decide))
      (fun _ hmem => absurd hmem (by decide)) (fun _ _ => htail))
  match j with
  | 0 => exact settles_byte (by decide) hyawHi
  | 1 => exact hyawHi
  | 2 => exact hyawLo
  | 3 => exact hhi
  | 4 => exact hlo.mono (Nat.le_succ 2)
  | 5 => exact htail.mono (Nat.le_succ 2)
  | _ + 6 =>
      rw [List.drop_of_length_le (by simp)]
      exact hnext.mono (Nat.le_succ 2)

/-- A state or type that has begun holds nothing that could be taken for a frame. -/
theorem settles_status {kind : UInt8} (hkind : kind ≠ 0xAA) (code : UInt8) {next frame : List UInt8}
    (hnext : TelemetryFrame next) (hframe : TelemetryFrame frame) (j : ℕ) :
    referenceRule.Settles 3 ([0xAA, kind, code, 0x55].drop (j + 1) ++ (next ++ frame)) := by
  have hboth : referenceRule.Settles 2 (next ++ frame) := hnext.settles.append hframe.settles
  have hlong : 2 ≤ (next ++ frame).length := by
    have hfour := (telemetryFrame_shape hnext).2.1
    rw [List.length_append]
    omega
  have hcode := settles_low code hlong hboth
  match j with
  | 0 => exact (settles_byte hkind hcode).mono (Nat.le_succ 2)
  | 1 => exact hcode.mono (Nat.le_succ 2)
  | 2 => exact (settles_byte (by decide) hboth).mono (Nat.le_succ 2)
  | _ + 3 =>
      rw [List.drop_of_length_le (by simp)]
      exact hboth.mono (Nat.le_succ 2)

/-- Two frames behind the one that had begun, the panel has settled. -/
theorem settles_slots {k j : ℕ} {cut next frame : List UInt8} (hj : 0 < j)
    (hcut : Slot (k % 7) cut) (hnext : Slot ((k + 1) % 7) next)
    (hframe : Slot ((k + 2) % 7) frame) :
    referenceRule.Settles 3 (cut.drop j ++ (next ++ frame)) := by
  obtain ⟨j, rfl⟩ := Nat.exists_eq_succ_of_ne_zero hj.ne'
  have hframe' := hframe.telemetryFrame
  have hnext' := hnext.telemetryFrame
  have hlt : k % 7 < 7 := Nat.mod_lt _ (by decide)
  rw [Nat.add_mod] at hnext hframe
  generalize k % 7 = place at *
  interval_cases place
  · obtain ⟨hi, lo, rfl⟩ := hcut
    obtain ⟨hi', lo', rfl⟩ := hnext
    exact settles_sensor (by decide) (by decide) hframe' hi lo j
  · obtain ⟨hi, lo, rfl⟩ := hcut
    obtain ⟨hi', lo', rfl⟩ := hnext
    exact settles_sensor (by decide) (by decide) hframe' hi lo j
  · obtain ⟨hi, lo, rfl⟩ := hcut
    obtain ⟨hi', lo', rfl⟩ := hnext
    exact settles_sensor (by decide) (by decide) hframe' hi lo j
  · obtain ⟨hi, lo, rfl⟩ := hcut
    obtain ⟨yawHi, yawLo, hi', lo', rfl⟩ := hnext
    obtain ⟨code, rfl⟩ := hframe
    exact settles_air hi lo yawHi yawLo hi' lo' code j
  · obtain ⟨yawHi, yawLo, hi, lo, rfl⟩ := hcut
    obtain ⟨code, rfl⟩ := hnext
    obtain ⟨type, rfl⟩ := hframe
    exact settles_obstacle yawHi yawLo hi lo code type j
  · obtain ⟨code, rfl⟩ := hcut
    exact settles_status (by decide) code hnext' hframe' j
  · obtain ⟨code, rfl⟩ := hcut
    exact settles_status (by decide) code hnext' hframe' j

/-- The frame that had begun and two more, whichever of them have been sent. -/
theorem exists_settled {k j : ℕ} {cut : List UInt8} {frames : List (List UInt8)} (hj : 0 < j)
    (hcut : Slot (k % 7) cut)
    (hframes : ∀ i frame, frames[i]? = some frame → Slot ((k + 1 + i) % 7) frame) :
    ∃ next frame, frames.take 2 <+: [next, frame] ∧
      referenceRule.Settles 3 (cut.drop j ++ (next ++ frame)) := by
  match frames, hframes with
  | [], _ =>
      obtain ⟨next, hnext⟩ := exists_slot ((k + 1) % 7)
      obtain ⟨frame, hframe⟩ := exists_slot ((k + 2) % 7)
      exact ⟨next, frame, List.nil_prefix, settles_slots hj hcut hnext hframe⟩
  | [next], hframes =>
      obtain ⟨frame, hframe⟩ := exists_slot ((k + 2) % 7)
      exact ⟨next, frame, List.prefix_append [next] [frame],
        settles_slots hj hcut (hframes 0 next rfl) hframe⟩
  | next :: frame :: _, hframes =>
      exact ⟨next, frame, List.prefix_rfl,
        settles_slots hj hcut (hframes 0 next rfl) (hframes 1 frame rfl)⟩

/-! ## Catching up -/

/-- A frame is one packet at most. -/
theorem length_handleFrame_le (frame : List UInt8) : (handleFrame frame).length ≤ 1 := by
  unfold handleFrame handleSensorFrame handleObstacleFrame handleStatusFrame
  dsimp only
  split_ifs <;> simp

theorem length_flatMap_handleFrame_le (frames : List (List UInt8)) :
    (frames.flatMap handleFrame).length ≤ frames.length := by
  induction frames with
  | nil => exact Nat.le_refl 0
  | cons frame frames ih =>
      have hone := length_handleFrame_le frame
      rw [List.flatMap_cons, List.length_append, List.length_cons]
      omega

/-- What the panel emits, when it opened the port with `cut` under way and `frames`
still to be sent: at most two of them are lost, nothing else. -/
structure CaughtUp (cut : List UInt8) (frames : List (List UInt8)) (bytes : List UInt8)
    (packets strange : List Packet) (lost received pending : List (List UInt8)) : Prop where
  frames_eq : frames = lost ++ received ++ pending
  lost_le : lost.length ≤ 2
  strange_le : strange.length ≤ 3
  packets_eq : packets = strange ++ received.flatMap handleFrame
  /-- The frames that are pending have not been read completely. -/
  pending_unread : ∀ frame ∈ pending.head?,
    bytes.length < (cut ++ (lost ++ received ++ [frame]).flatten).length
  /-- Between two frames nothing goes wrong. -/
  whole : cut = [] → lost = [] ∧ strange = []

/-- The panel has settled behind the frames that are lost. -/
theorem caughtUp_of_settles {n : ℕ} {cut bytes later : List UInt8}
    {frames lost rest : List (List UInt8)} (hframes : frames = lost ++ rest)
    (hbytes : bytes = cut ++ lost.flatten ++ later)
    (hsettles : referenceRule.Settles n (cut ++ lost.flatten)) (hn : n ≤ 3)
    (hlost : lost.length ≤ 2) (hwhole : cut = [] → lost = [] ∧ n = 0)
    (hrest : ∀ frame ∈ rest, TelemetryFrame frame) (hread : later <+: rest.flatten) :
    ∃ strange lost received pending, CaughtUp cut frames bytes
      ((referenceRule.scan bytes).1.flatMap handleFrame) strange lost received pending := by
  subst hframes hbytes
  obtain ⟨more, hstream⟩ := hread
  obtain ⟨strange, found, pending, rfl, hfew, hscan, hunread⟩ :=
    hsettles.finds (fun frame hmem => framed_telemetryFrame (hrest frame hmem)) hstream
  have hstrange := length_flatMap_handleFrame_le strange
  refine ⟨strange.flatMap handleFrame, lost, found, pending, ?_⟩
  exact {
    frames_eq := (List.append_assoc lost found pending).symm
    lost_le := hlost
    strange_le := by omega
    packets_eq := by rw [hscan, List.flatMap_append]
    pending_unread := fun frame hhead => by
      have hshort := hunread frame hhead
      simp only [List.flatten_append, List.flatten_singleton, List.length_append] at hshort ⊢
      omega
    whole := fun hcut => by
      obtain ⟨hnone, rfl⟩ := hwhole hcut
      rw [List.eq_nil_of_length_eq_zero (Nat.le_zero.mp hfew)]
      exact ⟨hnone, rfl⟩ }

theorem flatten_take_two {frames : List (List UInt8)} {next frame : List UInt8}
    (htwo : frames.take 2 <+: [next, frame]) (hmany : 2 ≤ frames.length) :
    (frames.take 2).flatten = next ++ frame := by
  have hlost : frames.take 2 = [next, frame] :=
    htwo.eq_of_length (by rw [List.length_take, Nat.min_eq_left hmany]; rfl)
  rw [hlost, List.flatten_cons, List.flatten_singleton]

/-- The panel has read less than the two frames it may lose. -/
theorem caughtUp_of_short {cut bytes next frame : List UInt8} {frames : List (List UInt8)}
    (hcut : cut ≠ []) (htwo : frames.take 2 <+: [next, frame])
    (hsettles : referenceRule.Settles 3 (cut ++ (next ++ frame)))
    (hread : bytes <+: cut ++ frames.flatten)
    (hshort : 2 ≤ frames.length → bytes.length < (cut ++ (next ++ frame)).length) :
    ∃ strange lost received pending, CaughtUp cut frames bytes
      ((referenceRule.scan bytes).1.flatMap handleFrame) strange lost received pending := by
  have hpart : bytes <+: cut ++ (next ++ frame) := by
    by_cases hmany : 2 ≤ frames.length
    · refine List.prefix_of_prefix_length_le hread ?_ (hshort hmany).le
      rw [List.prefix_append_right_inj, ← flatten_take_two htwo hmany]
      exact List.IsPrefix.flatten (List.take_prefix 2 frames)
    · rw [List.take_of_length_le (by omega)] at htwo
      have hflat : frames.flatten <+: next ++ frame := by
        simpa using List.IsPrefix.flatten htwo
      exact hread.trans ((List.prefix_append_right_inj cut).mpr hflat)
  have hfew := hsettles.length_le referenceRule_stable hpart
  have hstrange := length_flatMap_handleFrame_le (referenceRule.scan bytes).1
  refine ⟨(referenceRule.scan bytes).1.flatMap handleFrame, frames.take 2, [], frames.drop 2, ?_⟩
  exact {
    frames_eq := by rw [List.append_nil, List.take_append_drop]
    lost_le := List.length_take_le 2 frames
    strange_le := hstrange.trans hfew
    packets_eq := by rw [List.flatMap_nil, List.append_nil]
    pending_unread := fun frame' hhead => by
      have hmany : 2 ≤ frames.length := by
        by_contra hfew
        rw [List.drop_of_length_le (by omega)] at hhead
        cases hhead
      have hlength := hshort hmany
      rw [← flatten_take_two htwo hmany] at hlength
      simp only [List.append_nil, List.flatten_append, List.length_append] at hlength ⊢
      omega
    whole := fun hnil => absurd hnil hcut }

/-- Wherever the panel opens the port in the stream of the firmware, and however
it reads from then on: the frame under way and at most two behind it are lost,
with at most three packets that were never sent, and every other frame is
received, in order. -/
theorem panel_catches_up {F : Type} [CFloat F] (events : List (TelemetryEvent F))
    {before frames : List (List UInt8)} {begun : List UInt8} {j : ℕ}
    (hsent : ((uplinkSystem F).run events).sent = before ++ begun :: frames) (hj : 0 < j)
    (chunks : List (List UInt8)) (hread : chunks.flatten <+: begun.drop j ++ frames.flatten) :
    ∃ strange lost received pending, CaughtUp (begun.drop j) frames chunks.flatten
      (Rule.feed parseReceiveBuffer [] chunks).1 strange lost received pending := by
  obtain ⟨-, hrounds⟩ := uplinkSystem_rounds.run events
  rw [hsent] at hrounds
  have hbegun : Slot (before.length % 7) begun := by
    apply hrounds.slot
    rw [List.getElem?_append_right (Nat.le_refl _), Nat.sub_self]
    rfl
  have hframes : ∀ i frame, frames[i]? = some frame →
      Slot ((before.length + 1 + i) % 7) frame := fun i frame hget => by
    apply hrounds.slot
    rw [List.getElem?_append_right (by omega),
      show before.length + 1 + i - before.length = i + 1 by omega, List.getElem?_cons_succ, hget]
  have htelemetry : ∀ frame ∈ frames, TelemetryFrame frame := fun frame hmem => by
    obtain ⟨i, hget⟩ := List.mem_iff_getElem?.mp hmem
    exact (hframes i frame hget).telemetryFrame
  have hpackets : (Rule.feed parseReceiveBuffer [] chunks).1 =
      (referenceRule.scan chunks.flatten).1.flatMap handleFrame := by
    rw [referenceRule.feed_eq_scan parseReceiveBuffer_parsedBy referenceRule_stable [] (by simp),
      List.nil_append]
  obtain ⟨next, frame, htwo, hsettles⟩ := exists_settled hj hbegun hframes
  rw [hpackets]
  generalize begun.drop j = cut at hread hsettles ⊢
  generalize chunks.flatten = bytes at hread ⊢
  by_cases hcut : cut = []
  · subst hcut
    exact caughtUp_of_settles rfl rfl (Rule.settles_nil 0) (by decide) (by decide)
      (fun _ => ⟨rfl, rfl⟩) htelemetry hread
  by_cases hbehind : 2 ≤ frames.length ∧ (cut ++ (next ++ frame)).length ≤ bytes.length
  · -- two frames have been read behind the one under way
    obtain ⟨hmany, hlong⟩ := hbehind
    have hflat := flatten_take_two htwo hmany
    rw [← List.take_append_drop 2 frames, List.flatten_append, ← List.append_assoc] at hread
    obtain ⟨later, rfl⟩ : cut ++ (frames.take 2).flatten <+: bytes :=
      List.prefix_of_prefix_length_le (List.prefix_append _ _) hread (hflat ▸ hlong)
    rw [List.prefix_append_right_inj] at hread
    exact caughtUp_of_settles (List.take_append_drop 2 frames).symm rfl (hflat ▸ hsettles)
      (Nat.le_refl 3) (List.length_take_le 2 frames) (fun hnil => absurd hnil hcut)
      (fun frame hmem => htelemetry frame (List.mem_of_mem_drop hmem)) hread
  · exact caughtUp_of_short hcut htwo hsettles hread (fun hmany => by
      by_contra hlong
      exact hbehind ⟨hmany, Nat.le_of_not_lt hlong⟩)

/-- Bytes of the air quality and the distance that look like an obstacle header. -/
def misleadingInput : TelemetryInput ℚ where
  oledSoilPercent := 30
  myTemp := 20
  myHumi := 50
  oledMQ135ppm := 0xAA20
  distance := 0xAA20
  bladeState := 0x01
  soilPlantType := 2

/-- The port is opened inside the air quality. -/
theorem panel_catches_up_misled :
    ∃ strange lost received pending, CaughtUp [0xAA, 0x20, 0x55]
      [[0xAA, 0x20, 0x00, 0x55, 0xAA, 0x20, 0x55], [0xAA, 0x30, 0x01, 0x55],
        [0xAA, 0x70, 0x02, 0x55]]
      [0xAA, 0x20, 0x55, 0xAA, 0x20, 0x00, 0x55, 0xAA, 0x20, 0x55, 0xAA, 0x30, 0x01, 0x55,
        0xAA, 0x70, 0x02, 0x55]
      (Rule.feed parseReceiveBuffer [] [[0xAA, 0x20, 0x55, 0xAA, 0x20, 0x00, 0x55, 0xAA],
        [0x20, 0x55, 0xAA, 0x30, 0x01, 0x55, 0xAA, 0x70, 0x02, 0x55]]).1
      strange lost received pending :=
  panel_catches_up (.yaw 0x00 0x55 :: List.replicate 28 (.send misleadingInput))
    (show _ = [[0xAA, 0x10, 0x10, 0x01, 0x2C, 0x55], [0xAA, 0x10, 0x11, 0x00, 0xC8, 0x55],
        [0xAA, 0x10, 0x12, 0x01, 0xF4, 0x55]] ++
      [0xAA, 0x10, 0x13, 0xAA, 0x20, 0x55] :: [[0xAA, 0x20, 0x00, 0x55, 0xAA, 0x20, 0x55],
        [0xAA, 0x30, 0x01, 0x55], [0xAA, 0x70, 0x02, 0x55]] by decide +kernel)
    (show 0 < 3 by decide)
    [[0xAA, 0x20, 0x55, 0xAA, 0x20, 0x00, 0x55, 0xAA],
      [0x20, 0x55, 0xAA, 0x30, 0x01, 0x55, 0xAA, 0x70, 0x02, 0x55]] (by decide)

/-- There both frames are lost, in two obstacles that were never sent. -/
example : (parseReceiveBuffer [0xAA, 0x20, 0x55, 0xAA, 0x20, 0x00, 0x55, 0xAA, 0x20, 0x55, 0xAA,
    0x30, 0x01, 0x55, 0xAA, 0x70, 0x02, 0x55]).1 =
      handleFrame [0xAA, 0x20, 0x55, 0xAA, 0x20, 0x00, 0x55] ++
        handleFrame [0xAA, 0x20, 0x55, 0xAA, 0x30, 0x01, 0x55] ++
        handleFrame [0xAA, 0x70, 0x02, 0x55] := by
  decide +kernel

end PlantAssistant.Link
