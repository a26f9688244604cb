import PlantAssistant.Firmware.Globals

/-! # Commands from the panel and telemetry to it

`plantSoftDataProc` is called on a frame cut out by the port and tests every
offset of it. `sendDataToPlantSoft` fills in all telemetry frames on every call
and sends one of the seven on every fourth.
-/

namespace PlantAssistant.Firmware

@[simp] abbrev plantSoftpackHead1 : UInt8 := 0xAA
@[simp] abbrev plantSoftpackTail : UInt8 := 0x55
@[simp] abbrev plantSoftCmdMaixMode : UInt8 := 0x10
@[simp] abbrev plantSoftCmdWaterCtrl : UInt8 := 0x20
@[simp] abbrev plantSoftCmdLightCtrl : UInt8 := 0x30
@[simp] abbrev plantSoftCmdSystemCtr : UInt8 := 0x40
@[simp] abbrev plantSoftCmdTime : UInt8 := 0x60
@[simp] abbrev plantSoftCmdPlantType : UInt8 := 0x70

/-! ## Received commands -/

def plantSoftMaixMode (value : UInt8) (g : Globals) : Globals :=
  let g := if value = 0x01 then
      { g with maixModeFlag := 1, plantleafInsflag := 1, starttimeCnt := 0 }
    else g
  if value = 0x02 then
    let g := if g.modestateLight = 5 then { g with modestateLight := 1 } else g
    { g with maixModeFlag := 2, starttimeCnt := 0 }
  else g

def plantSoftWaterCtrl (value : UInt8) (g : Globals) : Globals :=
  let g := if value = 0x00 then { g with waterFlag := 0 } else g
  if value = 0x01 then { g with waterFlag := 1 } else g

def plantSoftLightCtrl (value : UInt8) (g : Globals) : Globals :=
  let g := if value = 0x00 then { g with lightOnOffFlag := 0 } else g
  if value = 0x01 then { g with lightOnOffFlag := 1 } else g

def plantSoftSystemCtr (value : UInt8) (g : Globals) : Globals :=
  let g := if value = 0x01 then { g with motorFlag := 0 } else g
  if value = 0x00 then { g with motorFlag := 1 } else g

def plantSoftPlantType (value : UInt8) (g : Globals) : Globals :=
  let g := if value = 0x01 then { g with soilPlantType := uart4ModeShade } else g
  let g := if value = 0x02 then { g with soilPlantType := uart4ModeHalfShade } else g
  if value = 0x03 then { g with soilPlantType := uart4ModeSun } else g

/-- The command `cmd` with argument `value`, inside a matching head and tail. -/
def plantSoftCommand (cmd value : UInt8) (g : Globals) : Globals :=
  let g := if cmd = plantSoftCmdMaixMode then plantSoftMaixMode value g else g
  let g := if cmd = plantSoftCmdWaterCtrl then plantSoftWaterCtrl value g else g
  let g := if cmd = plantSoftCmdLightCtrl then plantSoftLightCtrl value g else g
  let g := if cmd = plantSoftCmdSystemCtr then plantSoftSystemCtr value g else g
  if cmd = plantSoftCmdPlantType then plantSoftPlantType value g else g

/-- The loop body of `PlantSoft_DataProc` at offset `i`. -/
def plantSoftStep (data : Memory) (g : Globals) (i : ℕ) : Globals :=
  let g := if data i = plantSoftpackHead1 ∧ data (i + 3) = plantSoftpackTail then
      plantSoftCommand (data (i + 1)) (data (i + 2)) g
    else g
  if data i = plantSoftpackHead1 ∧ data (i + 1) = plantSoftCmdTime ∧
      data (i + 8) = plantSoftpackTail then
    { g with
      year := data (i + 2)
      month := data (i + 3)
      day := data (i + 4)
      hour := data (i + 5)
      minute := data (i + 6)
      second := data (i + 7) }
  else g

def plantSoftDataProc (data : Memory) (size : ℕ) (g : Globals) : Globals :=
  (List.range (size - 1)).foldl (plantSoftStep data) g

/-- Offsets without the header byte leave everything as it is. -/
theorem plantSoftStep_of_ne_head {data : Memory} {i : ℕ} (hhead : data i ≠ plantSoftpackHead1)
    (g : Globals) : plantSoftStep data g i = g := by
  simp [plantSoftStep, hhead]

/-! ## What a command does to the mode -/

/-- What depends on none of the variables that the other commands set is changed
by mode commands only. -/
theorem view_plantSoftCommand {τ : Type} {view : Globals → τ}
    (hview : ∀ (g : Globals) (waterFlag lightOnOffFlag motorFlag soilPlantType : ℕ),
      view
        { g with
          waterFlag := waterFlag
          lightOnOffFlag := lightOnOffFlag
          motorFlag := motorFlag
          soilPlantType := soilPlantType } = view g)
    (cmd value : UInt8) (g : Globals) :
    view (plantSoftCommand cmd value g) =
      view (if cmd = plantSoftCmdMaixMode then plantSoftMaixMode value g else g) := by
  have hwater : ∀ g, view (plantSoftWaterCtrl value g) = view g := by
    intro g
    have hset := fun flag => hview g flag g.lightOnOffFlag g.motorFlag g.soilPlantType
    unfold plantSoftWaterCtrl
    dsimp only
    split_ifs <;> exact hset _
  have hlight : ∀ g, view (plantSoftLightCtrl value g) = view g := by
    intro g
    have hset := fun flag => hview g g.waterFlag flag g.motorFlag g.soilPlantType
    unfold plantSoftLightCtrl
    dsimp only
    split_ifs <;> exact hset _
  have hsystem : ∀ g, view (plantSoftSystemCtr value g) = view g := by
    intro g
    have hset := fun flag => hview g g.waterFlag g.lightOnOffFlag flag g.soilPlantType
    unfold plantSoftSystemCtr
    dsimp only
    split_ifs <;> exact hset _
  have htype : ∀ g, view (plantSoftPlantType value g) = view g := by
    intro g
    have hset := hview g g.waterFlag g.lightOnOffFlag g.motorFlag
    unfold plantSoftPlantType
    dsimp only
    split_ifs <;> exact hset _
  rw [plantSoftCommand]
  simp only [apply_ite view, htype, hsystem, hlight, hwater, ite_self]

theorem plantSoftMaixMode_modes (value : UInt8) (g : Globals) :
    KeepsModes g (plantSoftMaixMode value g) ∨
      (plantSoftMaixMode value g).maixModeFlag = 1 ∧
        (plantSoftMaixMode value g).plantleafInsflag = 1 ∨
      (plantSoftMaixMode value g).maixModeFlag = 2 ∧
        (plantSoftMaixMode value g).plantleafInsflag = g.plantleafInsflag := by
  unfold plantSoftMaixMode
  by_cases h1 : value = 0x01
  · exact .inr (.inl (by simp [h1]))
  · by_cases h2 : value = 0x02
    · exact .inr (.inr (by by_cases hstate : g.modestateLight = 5 <;> simp [h2, hstate]))
    · exact .inl ⟨by simp [h1, h2], by simp [h1, h2], by simp [h1, h2]⟩

/-- The commands to other devices come after the mode command. -/
theorem keepsModes_plantSoftCommand (cmd value : UInt8) (g : Globals) :
    KeepsModes (if cmd = plantSoftCmdMaixMode then plantSoftMaixMode value g else g)
      (plantSoftCommand cmd value g) :=
  ⟨view_plantSoftCommand (fun _ _ _ _ _ => rfl) cmd value g,
    view_plantSoftCommand (fun _ _ _ _ _ => rfl) cmd value g,
    view_plantSoftCommand (fun _ _ _ _ _ => rfl) cmd value g⟩

/-- A step leaves the mode and the inspection flag alone, or it is a mode
command: mode 1 also asks for an inspection. -/
theorem plantSoftStep_modes (data : Memory) (g : Globals) (i : ℕ) :
    KeepsModes g (plantSoftStep data g i) ∨
      (plantSoftStep data g i).maixModeFlag = 1 ∧ (plantSoftStep data g i).plantleafInsflag = 1 ∨
      (plantSoftStep data g i).maixModeFlag = 2 ∧
        (plantSoftStep data g i).plantleafInsflag = g.plantleafInsflag := by
  have hclock : KeepsModes
      (if data i = plantSoftpackHead1 ∧ data (i + 3) = plantSoftpackTail then
        plantSoftCommand (data (i + 1)) (data (i + 2)) g
      else g) (plantSoftStep data g i) := by
    unfold plantSoftStep
    exact keepsModes_ite (f := fun g =>
      { g with
        year := data (i + 2)
        month := data (i + 3)
        day := data (i + 4)
        hour := data (i + 5)
        minute := data (i + 6)
        second := data (i + 7) }) (fun g => ⟨rfl, rfl, rfl⟩) _
  by_cases hframe : data i = plantSoftpackHead1 ∧ data (i + 3) = plantSoftpackTail
  · rw [if_pos hframe] at hclock
    have hkeeps := (keepsModes_plantSoftCommand (data (i + 1)) (data (i + 2)) g).trans hclock
    by_cases hcmd : data (i + 1) = plantSoftCmdMaixMode
    · rw [if_pos hcmd] at hkeeps
      rcases plantSoftMaixMode_modes (data (i + 2)) g with hsame | ⟨hone, hasked⟩ | ⟨htwo, hkept⟩
      · exact .inl (hsame.trans hkeeps)
      · exact .inr (.inl ⟨hkeeps.1.trans hone, hkeeps.2.trans hasked⟩)
      · exact .inr (.inr ⟨hkeeps.1.trans htwo, hkeeps.2.trans hkept⟩)
    · rw [if_neg hcmd] at hkeeps
      exact .inl hkeeps
  · rw [if_neg hframe] at hclock
    exact .inl hclock

/-- What every step of the handler preserves, the handler preserves. -/
theorem plantSoftDataProc_induction {P : Globals → Prop} {data : Memory}
    (hstep : ∀ g i, P g → P (plantSoftStep data g i)) (size : ℕ) {g : Globals} (hg : P g) :
    P (plantSoftDataProc data size g) := by
  unfold plantSoftDataProc
  induction List.range (size - 1) generalizing g with
  | nil => exact hg
  | cons i rest ih => exact ih (hstep g i hg)

/-! ## Sent telemetry -/

/-- The frames `SendData_to_PlantSoft` keeps between calls, and its counter. -/
structure Telemetry where
  soilpack : List UInt8 := [0xAA, 0x10, 0x10, 0x00, 0x00, 0x55]
  temppack : List UInt8 := [0xAA, 0x10, 0x11, 0x00, 0x00, 0x55]
  humipack : List UInt8 := [0xAA, 0x10, 0x12, 0x00, 0x00, 0x55]
  airpack : List UInt8 := [0xAA, 0x10, 0x13, 0x00, 0x00, 0x55]
  obspack : List UInt8 := [0xAA, 0x20, 0x00, 0x00, 0x00, 0x00, 0x55]
  plantstatepack : List UInt8 := [0xAA, 0x30, 0x00, 0x55]
  plantTypepack : List UInt8 := [0xAA, 0x70, 0x00, 0x55]
  cnt : ℕ := 0
deriving DecidableEq, Repr

/-- What one call reads: sensor values in `float`, the distance, the state and
type bytes. -/
structure TelemetryInput (F : Type) where
  oledSoilPercent : F
  myTemp : F
  myHumi : F
  oledMQ135ppm : F
  distance : ℕ
  bladeState : UInt8
  soilPlantType : ℕ

section Send

variable {F : Type} [CFloat F]

/-- All frames with the current values filled in. -/
def fillPacks (input : TelemetryInput F) (t : Telemetry) : Telemetry :=
  let percentSoil := CFloat.toUInt16 (input.oledSoilPercent * CFloat.lit 10)
  let airppm := CFloat.toUInt16 input.oledMQ135ppm
  { t with
    soilpack := (t.soilpack.set 3 (hiByte percentSoil)).set 4 (loByte percentSoil)
    temppack := (t.temppack.set 3 (hiByte (CFloat.toUInt16 input.myTemp * 10))).set 4
      (loByte (CFloat.toUInt16 input.myTemp * 10))
    humipack := (t.humipack.set 3 (hiByte (CFloat.toUInt16 input.myHumi * 10))).set 4
      (loByte (CFloat.toUInt16 input.myHumi * 10))
    airpack := (t.airpack.set 3 (hiByte airppm)).set 4 (loByte airppm)
    obspack := (t.obspack.set 4 (hiByte input.distance)).set 5 (loByte input.distance)
    plantstatepack := t.plantstatepack.set 2 input.bladeState
    plantTypepack := t.plantTypepack.set 2 (UInt8.ofNat input.soilPlantType) }

/-- `SendData_to_PlantSoft`: the updated frames and the ones written to the
port in this call. -/
def sendDataToPlantSoft (input : TelemetryInput F) (t : Telemetry) :
    Telemetry × List (List UInt8) :=
  let t := fillPacks input t
  let cnt := (t.cnt + 1) % 2 ^ 8
  let sent :=
    (if cnt = 1 * 4 then [t.soilpack] else []) ++
    (if cnt = 2 * 4 then [t.temppack] else []) ++
    (if cnt = 3 * 4 then [t.humipack] else []) ++
    (if cnt = 4 * 4 then [t.airpack] else []) ++
    (if cnt = 5 * 4 then [t.obspack] else []) ++
    (if cnt = 6 * 4 then [t.plantstatepack] else []) ++
    (if cnt = 7 * 4 then [t.plantTypepack] else [])
  ({ t with cnt := cnt % 28 }, sent)

end Send

end PlantAssistant.Firmware
