import PlantAssistant.Link.Attitude
import PlantAssistant.Link.Telemetry

/-! # The obstacle packet from the attitude frame to the panel

The attitude handler puts the yaw word into the packet, the telemetry adds the
distance, and the panel reads both words again. It reads the yaw without its
sign, so it shows a turn to the left as the angle behind a full turn.
-/

namespace PlantAssistant.Link

open Transition PlantAssistant.Firmware PlantAssistant.Panel

/-- The angles of the attitude, and the telemetry, whose `Obspack` the attitude
handler writes into. -/
structure Board where
  roll : ℚ := 0
  pitch : ℚ := 0
  yaw : ℚ := 0
  telemetry : Telemetry := {}

/-- A frame handed to `HWT101_DataProc`, or a call of `SendData_to_PlantSoft`. -/
inductive BoardEvent where
  | attitude (data : Memory)
  | send (input : TelemetryInput ℚ)

/-- What the attitude handler works on. -/
def Board.attitude (b : Board) : Attitude ℚ where
  roll := b.roll
  pitch := b.pitch
  yaw := b.yaw
  obspack := .ofFn fun k => b.telemetry.obspack.getD k 0

def Board.setAttitude (a : Attitude ℚ) (b : Board) : Board where
  roll := a.roll
  pitch := a.pitch
  yaw := a.yaw
  telemetry := { b.telemetry with obspack := a.obspack.toList }

def Board.step (b : Board) : BoardEvent → Board
  | .attitude data => b.setAttitude (hwt101DataProc data hwt101FrameLen b.attitude)
  | .send input => { b with telemetry := (sendDataToPlantSoft input b.telemetry).1 }

def boardSystem : System Board BoardEvent where
  init := {}
  step := Board.step

/-- The data bytes hold no second header. -/
def AttitudeFrame.NoInnerHeader (f : AttitudeFrame) : Prop :=
  ¬ [0x55, 0x53] <:+: [f.d2, f.d3, f.d4, f.d5, f.d6, f.d7, f.d8, f.d9, f.d10]

instance (f : AttitudeFrame) : Decidable f.NoInnerHeader :=
  inferInstanceAs (Decidable (¬ _))

/-- The panel emits this obstacle packet for the frame. -/
def Reports (frame : List UInt8) (angle : ℚ) (distance : ℕ) : Prop :=
  ∃ text, handleFrame frame = [.obstacle angle distance text]

/-- An obstacle frame with the given yaw word. -/
def obstacleFrame (yawHi yawLo : UInt8) (distance : ℕ) : List UInt8 :=
  [0xAA, 0x20, yawHi, yawLo, hiByte distance, loByte distance, 0x55]

/-! ## The layout over a run -/

theorem attitude_obspack {b : Board} (hlaid : Laid b.telemetry) :
    b.attitude.obspack.toList = b.telemetry.obspack := by
  obtain ⟨yawHi, yawLo, hi, lo, hobs⟩ := hlaid.obspack
  unfold Board.attitude
  rw [hobs]
  rfl

/-- An attitude frame, whatever its bytes, changes only the yaw word. -/
theorem Laid.hwt101DataProc {t : Telemetry} {a : Attitude ℚ}
    (hlaid : Laid { t with obspack := a.obspack.toList }) (data : Memory) (size : ℕ) :
    Laid { t with obspack := (hwt101DataProc data size a).obspack.toList } := by
  unfold Firmware.hwt101DataProc
  induction List.range (size - 1) generalizing a with
  | nil => exact hlaid
  | cons i rest ih =>
      apply ih
      unfold hwt101Step
      split
      · have hyaw := hlaid.yaw (data (i + 7)) (data (i + 6))
        simpa [setYaw, Vector.toList_set] using hyaw
      · exact hlaid

theorem boardSystem_invariant : boardSystem.Invariant fun b => Laid b.telemetry where
  init := laid_init
  step b event hlaid := by
    cases event with
    | send input => exact (hlaid.send input).1
    | attitude data =>
        apply Laid.hwt101DataProc
        rw [attitude_obspack hlaid]
        exact hlaid

/-! ## The yaw word -/

/-- `Yaw`, and the yaw word of the packet, are those of the two bytes. -/
structure Facing (hi lo : UInt8) (b : Board) : Prop where
  yaw : b.yaw = signedWord hi lo * (180 / 32768)
  obspack : ∃ dHi dLo, b.telemetry.obspack = [0xAA, 0x20, hi, lo, dHi, dLo, 0x55]

theorem attitudeEffect_of_noInnerHeader {f : AttitudeFrame} (hinner : f.NoInnerHeader)
    (a : Attitude ℚ) : attitudeEffect f a = taken f.d3 f.d2 f.d5 f.d4 f.d7 f.d6 a := by
  have hthree : ¬ (f.d3 = 0x55 ∧ f.d4 = 0x53) := by
    rintro ⟨h3, h4⟩
    apply hinner
    rw [h3, h4]
    exact ⟨[f.d2], _, rfl⟩
  have htwo : ¬ (f.d2 = 0x55 ∧ f.d3 = 0x53) := by
    rintro ⟨h2, h3⟩
    apply hinner
    rw [h2, h3]
    exact ⟨[], _, rfl⟩
  rw [attitudeEffect, if_neg hthree, if_neg htwo]

/-- The handler leaves the yaw of the frame. -/
theorem facing_attitude {b : Board} (hlaid : Laid b.telemetry) {f : AttitudeFrame}
    (hinner : f.NoInnerHeader) {data : Memory}
    (hdata : (List.range hwt101FrameLen).map data = f.bytes) :
    Facing f.d7 f.d6 (b.step (.attitude data)) := by
  obtain ⟨yawHi, yawLo, hi, lo, hobs⟩ := hlaid.obspack
  have heffect : b.step (.attitude data) =
      b.setAttitude (taken f.d3 f.d2 f.d5 f.d4 f.d7 f.d6 b.attitude) := by
    rw [Board.step, hwt101DataProc_bytes hdata, attitudeEffect_of_noInnerHeader hinner]
  rw [heffect]
  constructor
  · exact attitudeAngle_rat f.d7 f.d6
  · refine ⟨hi, lo, ?_⟩
    change (setYaw f.d7 f.d6 b.attitude.obspack).toList = _
    rw [setYaw, Vector.toList_set, Vector.toList_set, attitude_obspack hlaid, hobs]
    rfl

/-- The telemetry leaves it alone. -/
theorem Facing.send {hi lo : UInt8} {b : Board} (hfacing : Facing hi lo b)
    (input : TelemetryInput ℚ) : Facing hi lo (b.step (.send input)) := by
  obtain ⟨hyaw, dHi, dLo, hobs⟩ := hfacing
  refine ⟨hyaw, hiByte input.distance, loByte input.distance, ?_⟩
  simp only [Board.step, sendDataToPlantSoft, fillPacks, hobs]
  rfl

theorem Facing.sends {hi lo : UInt8} {b : Board} (hfacing : Facing hi lo b)
    (inputs : List (TelemetryInput ℚ)) :
    Facing hi lo (boardSystem.runFrom b (inputs.map .send)) := by
  induction inputs generalizing b with
  | nil => exact hfacing
  | cons input inputs ih => exact ih (hfacing.send input)

/-! ## The packet -/

/-- The only frame of its type that is sent is `Obspack`. -/
theorem sent_obstacle {t : Telemetry} (hlaid : Laid t) {input : TelemetryInput ℚ}
    {frame : List UInt8} (hsent : frame ∈ (sendDataToPlantSoft input t).2)
    (htype : frame.getD 1 0 = 0x20) : frame = (fillPacks input t).obspack := by
  obtain ⟨⟨_, _, hsoil⟩, ⟨_, _, htemp⟩, ⟨_, _, hhumi⟩, ⟨_, _, hair⟩, -, ⟨_, hstate⟩, ⟨_, hplant⟩⟩ :=
    hlaid.fillPacks input
  simp only [sendDataToPlantSoft, hsoil, htemp, hhumi, hair, hstate, hplant, List.mem_append,
    List.mem_ite_nil_right, List.mem_singleton] at hsent
  rcases hsent with (((((⟨-, rfl⟩ | ⟨-, rfl⟩) | ⟨-, rfl⟩) | ⟨-, rfl⟩) | ⟨-, hobs⟩) | ⟨-, rfl⟩) |
    ⟨-, rfl⟩
  case inl.inl.inr => exact hobs
  all_goals exact absurd htype (by simp)

theorem Facing.frame {hi lo : UInt8} {b : Board} (hfacing : Facing hi lo b)
    (hlaid : Laid b.telemetry) {input : TelemetryInput ℚ} {frame : List UInt8}
    (hsent : frame ∈ (sendDataToPlantSoft input b.telemetry).2)
    (htype : frame.getD 1 0 = 0x20) : frame = obstacleFrame hi lo input.distance := by
  obtain ⟨_, _, hobs⟩ := hfacing.obspack
  rw [sent_obstacle hlaid hsent htype]
  simp only [fillPacks, hobs]
  rfl

/-- The panel's angle is the firmware's, or a full turn more where that is
negative. -/
theorem beWord_angle (hi lo : UInt8) :
    (beWord hi lo : ℚ) / 32768 * 180 =
      signedWord hi lo * (180 / 32768) + if hi.toNat < 128 then 0 else 360 := by
  rw [beWord_eq, signedWord]
  split <;> push_cast <;> ring

/-- The distance always arrives. -/
theorem reports_obstacleFrame (yawHi yawLo : UInt8) {distance : ℕ} (hdistance : distance < 2 ^ 16)
    (angle : ℚ) (reported : ℕ) :
    Reports (obstacleFrame yawHi yawLo distance) angle reported ↔
      (beWord yawHi yawLo : ℚ) / 32768 * 180 = angle ∧ distance = reported := by
  have hyaw : rawWord (obstacleFrame yawHi yawLo distance) 2 = beWord yawHi yawLo :=
    rawWord_eq_beWord _ _
  have hword : rawWord (obstacleFrame yawHi yawLo distance) 4 = distance := by
    rw [rawWord_eq_beWord]
    exact beWord_bytes hdistance
  have hhandler : handleFrame (obstacleFrame yawHi yawLo distance) =
      handleObstacleFrame (obstacleFrame yawHi yawLo distance) := rfl
  rw [Reports, hhandler]
  simp [handleObstacleFrame, hyaw, hword]

theorem signedWord_range (hi lo : UInt8) :
    -180 ≤ (signedWord hi lo : ℚ) * (180 / 32768) ∧
      (signedWord hi lo : ℚ) * (180 / 32768) < 180 := by
  have hhi := hi.toNat_lt
  have hlo := lo.toNat_lt
  have hword : -32768 ≤ signedWord hi lo ∧ signedWord hi lo < 32768 := by
    unfold signedWord
    split <;> omega
  have hlow : (-32768 : ℚ) ≤ signedWord hi lo := by exact_mod_cast hword.1
  have hhigh : (signedWord hi lo : ℚ) < 32768 := by exact_mod_cast hword.2
  constructor <;> linarith

/-- After any run and a frame with no second header: when `Obspack` is next sent,
the panel reports the yaw and the distance if and only if the yaw of the frame
is not negative. -/
theorem obstacle_report_iff (events : List BoardEvent) {data : Memory} {f : AttitudeFrame}
    (hdata : (List.range hwt101FrameLen).map data = f.bytes) (hinner : f.NoInnerHeader)
    (inputs : List (TelemetryInput ℚ)) {input : TelemetryInput ℚ}
    (hdistance : input.distance < 2 ^ 16) {frame : List UInt8}
    (hsent : frame ∈ (sendDataToPlantSoft input
      (boardSystem.run (events ++ .attitude data :: inputs.map .send)).telemetry).2)
    (htype : frame.getD 1 0 = 0x20) :
    let yaw := (boardSystem.run (events ++ .attitude data :: inputs.map .send)).yaw
    ((-180 ≤ yaw ∧ yaw < 180) ∧ Reports frame yaw input.distance) ↔ f.d7.toNat < 128 := by
  have hlaid := boardSystem_invariant.run (events ++ .attitude data :: inputs.map .send)
  have hfacing : Facing f.d7 f.d6
      (boardSystem.run (events ++ .attitude data :: inputs.map .send)) := by
    rw [System.run_append, System.runFrom_cons]
    exact (facing_attitude (boardSystem_invariant.run events) hinner hdata).sends inputs
  intro yaw
  have hyaw : yaw = signedWord f.d7 f.d6 * (180 / 32768) := hfacing.yaw
  rw [hfacing.frame hlaid hsent htype, reports_obstacleFrame _ _ hdistance, hyaw, beWord_angle,
    and_iff_right (signedWord_range _ _), and_iff_left rfl, add_eq_left, ite_eq_left_iff]
  norm_num

def nearObstacle : TelemetryInput ℚ where
  oledSoilPercent := 40
  myTemp := 24
  myHumi := 55
  oledMQ135ppm := 7
  distance := 300
  bladeState := 0
  soilPlantType := 1

def memoryOf (f : AttitudeFrame) : Memory := fun k => f.bytes.getD k 0

/-- The twentieth call sends the packet. -/
theorem obstacle_report_iff_right :
    let yaw := (boardSystem.run ([] ++ .attitude (memoryOf ⟨0, 0, 0, 0, 0x10, 0x20, 0, 0, 0⟩) ::
      (List.replicate 19 nearObstacle).map .send)).yaw
    ((-180 ≤ yaw ∧ yaw < 180) ∧ Reports (obstacleFrame 0x20 0x10 300) yaw nearObstacle.distance) ↔
      (0x20 : UInt8).toNat < 128 :=
  obstacle_report_iff [] (f := ⟨0, 0, 0, 0, 0x10, 0x20, 0, 0, 0⟩) rfl (by decide)
    (List.replicate 19 nearObstacle) (by decide) (by decide +kernel) rfl

/-- A yaw of −1.40625 degrees is reported as 358.59375. -/
theorem not_reported_left :
    (⟨0, 0, 0, 0, 0x00, 0xFF, 0, 0, 0⟩ : AttitudeFrame).NoInnerHeader ∧
      let b := boardSystem.run (.attitude (memoryOf ⟨0, 0, 0, 0, 0x00, 0xFF, 0, 0, 0⟩) ::
        (List.replicate 19 nearObstacle).map .send)
      (sendDataToPlantSoft nearObstacle b.telemetry).2 = [obstacleFrame 0xFF 0x00 300] ∧
        b.yaw = -(45 / 32) ∧ ¬ Reports (obstacleFrame 0xFF 0x00 300) b.yaw 300 := by
  have hyaw : (boardSystem.run (.attitude (memoryOf ⟨0, 0, 0, 0, 0x00, 0xFF, 0, 0, 0⟩) ::
      (List.replicate 19 nearObstacle).map .send)).yaw = -(45 / 32) := by decide +kernel
  refine ⟨by decide, by decide +kernel, hyaw, ?_⟩
  rw [hyaw, reports_obstacleFrame _ _ (by decide)]
  decide +kernel

end PlantAssistant.Link
