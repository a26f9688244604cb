import PlantAssistant.Firmware.Globals

/-! # Handler of the vision module's packets

`maixcamDataProc` is called on a packet cut out by the port, and tests every
offset of it against all four packet formats. In the other direction go mode
frames, three at a time.
-/

namespace PlantAssistant.Firmware

@[simp] abbrev uart4FrameHead1 : UInt8 := 0xa3
@[simp] abbrev uart4FrameHead2Loc : UInt8 := 0xb1
@[simp] abbrev uart4FrameHead2Sta : UInt8 := 0xb2
@[simp] abbrev uart4FrameHead2Typ : UInt8 := 0xb3
@[simp] abbrev uart4FrameHead2Led : UInt8 := 0xb4
@[simp] abbrev uart4FrameTail1 : UInt8 := 0xc3

def maixcamLocation (data : Memory) (i : ℕ) (g : Globals) : Globals :=
  if data i = uart4FrameHead1 ∧ data (i + 1) = uart4FrameHead2Loc ∧
      data (i + 6) = uart4FrameTail1 then
    { g with
      sourceX := beWord (data (i + 2)) (data (i + 3))
      sourceY := beWord (data (i + 4)) (data (i + 5))
      findingFlag := 1
      lightOnOffFlag := 0 }
  else g

def maixcamState (data : Memory) (i : ℕ) (g : Globals) : Globals :=
  if data i = uart4FrameHead1 ∧ data (i + 1) = uart4FrameHead2Sta ∧
      data (i + 3) = uart4FrameTail1 then
    { g with bladeState := data (i + 2) }
  else g

def maixcamType (data : Memory) (i : ℕ) (g : Globals) : Globals :=
  if data i = uart4FrameHead1 ∧ data (i + 1) = uart4FrameHead2Typ ∧
      data (i + 3) = uart4FrameTail1 then
    let g := if data (i + 2) = 0x04 then { g with soilPlantType := uart4ModeShade } else g
    let g := if data (i + 2) = 0x05 then { g with soilPlantType := uart4ModeHalfShade } else g
    if data (i + 2) = 0x06 then { g with soilPlantType := uart4ModeSun } else g
  else g

def maixcamLed (data : Memory) (i : ℕ) (g : Globals) : Globals :=
  if data i = uart4FrameHead1 ∧ data (i + 1) = uart4FrameHead2Led ∧
      data (i + 2) = uart4FrameTail1 then
    { g with lightOnOffFlag := 1, findingFlag := 0 }
  else g

/-- The loop body of `Maixcam_DataProc` at offset `i`. -/
def maixcamStep (data : Memory) (g : Globals) (i : ℕ) : Globals :=
  maixcamLed data i (maixcamType data i (maixcamState data i (maixcamLocation data i g)))

def maixcamDataProc (data : Memory) (size : ℕ) (g : Globals) : Globals :=
  (List.range (size - 1)).foldl (maixcamStep data) g

/-- What depends on none of the variables that packets set is kept by them. -/
theorem view_maixcamDataProc {τ : Type} {view : Globals → τ}
    (hview : ∀ (g : Globals) (sourceX sourceY findingFlag lightOnOffFlag : ℕ) (bladeState : UInt8)
      (soilPlantType : ℕ),
      view
        { g with
          sourceX := sourceX
          sourceY := sourceY
          findingFlag := findingFlag
          lightOnOffFlag := lightOnOffFlag
          bladeState := bladeState
          soilPlantType := soilPlantType } = view g)
    (data : Memory) (size : ℕ) (g : Globals) : view (maixcamDataProc data size g) = view g := by
  have hstep : ∀ g i, view (maixcamStep data g i) = view g := by
    intro g i
    have hlocation : view (maixcamLocation data i g) = view g := by
      unfold maixcamLocation
      split
      · exact hview g _ _ _ _ g.bladeState g.soilPlantType
      · rfl
    have hstate : ∀ g, view (maixcamState data i g) = view g := by
      intro g
      unfold maixcamState
      split
      · exact hview g g.sourceX g.sourceY g.findingFlag g.lightOnOffFlag _ g.soilPlantType
      · rfl
    have htype : ∀ g, view (maixcamType data i g) = view g := by
      intro g
      have hset := hview g g.sourceX g.sourceY g.findingFlag g.lightOnOffFlag g.bladeState
      unfold maixcamType
      dsimp only
      split_ifs <;> exact hset _
    have hled : ∀ g, view (maixcamLed data i g) = view g := by
      intro g
      unfold maixcamLed
      split
      · exact hview g g.sourceX g.sourceY _ _ g.bladeState g.soilPlantType
      · rfl
    rw [maixcamStep, hled, htype, hstate, hlocation]
  unfold maixcamDataProc
  induction List.range (size - 1) generalizing g with
  | nil => rfl
  | cons i rest ih => exact (ih _).trans (hstep g i)

/-- No packet changes the mode, asks for an inspection or moves the search. -/
theorem keepsModes_maixcamDataProc (data : Memory) (size : ℕ) (g : Globals) :
    KeepsModes g (maixcamDataProc data size g) where
  maixModeFlag := view_maixcamDataProc (fun _ _ _ _ _ _ _ => rfl) data size g
  plantleafInsflag := view_maixcamDataProc (fun _ _ _ _ _ _ _ => rfl) data size g
  modestateLight := view_maixcamDataProc (fun _ _ _ _ _ _ _ => rfl) data size g

/-- Offsets without the header byte leave everything as it is. -/
theorem maixcamStep_of_ne_head {data : Memory} {i : ℕ} (hhead : data i ≠ uart4FrameHead1)
    (g : Globals) : maixcamStep data g i = g := by
  simp [maixcamStep, maixcamLocation, maixcamState, maixcamType, maixcamLed, hhead]

/-! ## Sent modes -/

/-- `MaixCam_Mode`. -/
def maixCamMode : List (List UInt8) :=
  [[0xa4, 0xb4, 0x01, 0xc4, 0xa4, 0xb4, 0x01, 0xc4, 0xa4, 0xb4, 0x01, 0xc4],
    [0xa4, 0xb4, 0x02, 0xc4, 0xa4, 0xb4, 0x02, 0xc4, 0xa4, 0xb4, 0x02, 0xc4]]

/-- `Maixcam_SetMode` with its static `cnt`: the counter after the call, and the
bytes sent in it. -/
def maixcamSetMode (mode cnt : ℕ) : ℕ × List UInt8 :=
  let cnt := uint16 (cnt + 1)
  if 2 ≤ cnt then
    (0, (if mode = 1 then maixCamMode.getD (mode - 1) [] else []) ++
      (if mode = 2 then maixCamMode.getD (mode - 1) [] else []))
  else (cnt, [])

end PlantAssistant.Firmware
