import PlantAssistant.Firmware.CFloat

/-! # Variables shared between the receive threads and the scheduler

The byte handlers of the serial ports write these variables; the ten
millisecond task reads them. The values are the ones `main` starts with.
-/

namespace PlantAssistant.Firmware

/-- Memory as a receive handler sees it: the bytes from its first argument on,
including whatever lies behind the received ones. -/
abbrev Memory := ℕ → UInt8

structure Globals where
  motorFlag : ℕ := 1
  maixModeFlag : ℕ := 2
  waterFlag : ℕ := 1
  lightOnOffFlag : ℕ := 0
  plantleafInsflag : ℕ := 1
  modestateLight : ℕ := 1
  starttimeCnt : ℕ := 0
  findingFlag : ℕ := 0
  sourceX : ℕ := 0
  sourceY : ℕ := 0
  bladeState : UInt8 := 3
  soilPlantType : ℕ := 1
  year : UInt8 := 0
  month : UInt8 := 0
  day : UInt8 := 0
  hour : UInt8 := 0
  minute : UInt8 := 0
  second : UInt8 := 0
deriving DecidableEq, Repr

/-- `UART4_MODE_SHADE`, `UART4_MODE_HALF_SHADE` and `UART4_MODE_SUN`. -/
abbrev uart4ModeShade : ℕ := 1
abbrev uart4ModeHalfShade : ℕ := 2
abbrev uart4ModeSun : ℕ := 3

inductive PlantType where
  | shade
  | halfShade
  | sun
deriving DecidableEq, Repr

/-- The value of `Soil_PlantType`. -/
def PlantType.mode : PlantType → ℕ
  | .shade => uart4ModeShade
  | .halfShade => uart4ModeHalfShade
  | .sun => uart4ModeSun

/-- The byte that stands for it in the frames. -/
def PlantType.code (type : PlantType) : UInt8 := UInt8.ofNat type.mode

/-- Neither the mode, the request for an inspection nor the search for light
changes. -/
structure KeepsModes (g g' : Globals) : Prop where
  maixModeFlag : g'.maixModeFlag = g.maixModeFlag
  plantleafInsflag : g'.plantleafInsflag = g.plantleafInsflag
  modestateLight : g'.modestateLight = g.modestateLight

theorem KeepsModes.trans {g g' g'' : Globals} (hfirst : KeepsModes g g')
    (hsecond : KeepsModes g' g'') : KeepsModes g g'' :=
  ⟨hsecond.1.trans hfirst.1, hsecond.2.trans hfirst.2, hsecond.3.trans hfirst.3⟩

theorem keepsModes_ite {c : Prop} [Decidable c] {f : Globals → Globals}
    (hkeeps : ∀ g, KeepsModes g (f g)) (g : Globals) : KeepsModes g (if c then f g else g) := by
  split
  · exact hkeeps g
  · exact ⟨rfl, rfl, rfl⟩

end PlantAssistant.Firmware
