import PlantAssistant.Firmware.EmmV5
import PlantAssistant.Motion.Inspection

/-! # What the stepper motors are told

The commands come back to back on the third port, of different lengths and
without a length or a start mark of their own. They can be told apart all the
same: the function code and the auxiliary code settle which fields follow.
-/

namespace PlantAssistant.Motion

open Framing Transition PlantAssistant.Firmware

/-! ## The format -/

/-- A function code with its auxiliary code. -/
inductive StepperHeader where
  | resetCurPosToZero
  | resetClogPro
  | readSysParams (s : SysParams)
  | modifyCtrlMode
  | enControl
  | velControl
  | posControl
  | stopNow
  | synchronousMotion
  | originSetO
  | originModifyParams
  | originTriggerReturn
  | originInterrupt
deriving DecidableEq

def StepperHeader.code : StepperHeader → List UInt8
  | .resetCurPosToZero => [0x0A, 0x6D]
  | .resetClogPro => [0x0E, 0x52]
  | .readSysParams s => EmmV5.sysParamsCode s
  | .modifyCtrlMode => [0x46, 0x69]
  | .enControl => [0xF3, 0xAB]
  | .velControl => [0xF6]
  | .posControl => [0xFD]
  | .stopNow => [0xFE, 0x98]
  | .synchronousMotion => [0xFF, 0x66]
  | .originSetO => [0x93, 0x88]
  | .originModifyParams => [0x4C, 0xAE]
  | .originTriggerReturn => [0x9A]
  | .originInterrupt => [0x9C, 0x48]

def StepperHeader.all : List StepperHeader :=
  [.resetCurPosToZero, .resetClogPro, .modifyCtrlMode, .enControl, .velControl, .posControl,
    .stopNow, .synchronousMotion, .originSetO, .originModifyParams, .originTriggerReturn,
    .originInterrupt] ++
  [.ver, .rl, .pid, .vbus, .cpha, .encl, .tpos, .vel, .cpos, .perr, .flag, .conf, .state,
    .org].map .readSysParams

/-- The fields behind a header, in their order. -/
abbrev StepperHeader.Fields : StepperHeader → Type
  | .modifyCtrlMode => Bool × UInt8
  | .enControl => Bool × Bool
  | .velControl => UInt8 × UInt16 × UInt8 × Bool
  | .posControl => UInt8 × UInt16 × UInt8 × UInt32 × Bool × Bool
  | .stopNow | .originSetO => Bool
  | .originModifyParams =>
      Bool × UInt8 × UInt8 × UInt16 × UInt32 × UInt16 × UInt16 × UInt16 × Bool
  | .originTriggerReturn => UInt8 × Bool
  | _ => Unit

def StepperHeader.fields : ∀ header : StepperHeader, Codec header.Fields UInt8
  | .modifyCtrlMode => Codec.flag.pair Codec.byte
  | .enControl => Codec.flag.pair Codec.flag
  | .velControl => Codec.byte.pair (Codec.word.pair (Codec.byte.pair Codec.flag))
  | .posControl =>
      Codec.byte.pair (Codec.word.pair (Codec.byte.pair
        (Codec.dword.pair (Codec.flag.pair Codec.flag))))
  | .stopNow | .originSetO => Codec.flag
  | .originModifyParams =>
      Codec.flag.pair (Codec.byte.pair (Codec.byte.pair (Codec.word.pair (Codec.dword.pair
        (Codec.word.pair (Codec.word.pair (Codec.word.pair Codec.flag)))))))
  | .originTriggerReturn => Codec.byte.pair Codec.flag
  | .resetCurPosToZero | .resetClogPro | .readSysParams _ | .synchronousMotion
  | .originInterrupt => Codec.unit

theorem StepperHeader.mem_all (header : StepperHeader) : header ∈ StepperHeader.all := by
  cases header with
  | readSysParams s => cases s <;> decide
  | _ => decide

theorem StepperHeader.code_free :
    ∀ header ∈ StepperHeader.all, ∀ header' ∈ StepperHeader.all,
      header.code <+: header'.code → header = header' := by
  decide

/-- A call as its header and its fields. -/
def callEquiv : (Σ header : StepperHeader, header.Fields) ≃ EmmV5.Call where
  toFun
    | ⟨.resetCurPosToZero, ()⟩ => .resetCurPosToZero
    | ⟨.resetClogPro, ()⟩ => .resetClogPro
    | ⟨.readSysParams s, ()⟩ => .readSysParams s
    | ⟨.modifyCtrlMode, svF, ctrlMode⟩ => .modifyCtrlMode svF ctrlMode
    | ⟨.enControl, state, snF⟩ => .enControl state snF
    | ⟨.velControl, dir, vel, acc, snF⟩ => .velControl dir vel acc snF
    | ⟨.posControl, dir, vel, acc, clk, raF, snF⟩ => .posControl dir vel acc clk raF snF
    | ⟨.stopNow, snF⟩ => .stopNow snF
    | ⟨.synchronousMotion, ()⟩ => .synchronousMotion
    | ⟨.originSetO, svF⟩ => .originSetO svF
    | ⟨.originModifyParams, svF, oMode, oDir, oVel, oTm, slVel, slMa, slMs, potF⟩ =>
        .originModifyParams ⟨svF, oMode, oDir, oVel, oTm, slVel, slMa, slMs, potF⟩
    | ⟨.originTriggerReturn, oMode, snF⟩ => .originTriggerReturn oMode snF
    | ⟨.originInterrupt, ()⟩ => .originInterrupt
  invFun
    | .resetCurPosToZero => ⟨.resetCurPosToZero, ()⟩
    | .resetClogPro => ⟨.resetClogPro, ()⟩
    | .readSysParams s => ⟨.readSysParams s, ()⟩
    | .modifyCtrlMode svF ctrlMode => ⟨.modifyCtrlMode, svF, ctrlMode⟩
    | .enControl state snF => ⟨.enControl, state, snF⟩
    | .velControl dir vel acc snF => ⟨.velControl, dir, vel, acc, snF⟩
    | .posControl dir vel acc clk raF snF => ⟨.posControl, dir, vel, acc, clk, raF, snF⟩
    | .stopNow snF => ⟨.stopNow, snF⟩
    | .synchronousMotion => ⟨.synchronousMotion, ()⟩
    | .originSetO svF => ⟨.originSetO, svF⟩
    | .originModifyParams ⟨svF, oMode, oDir, oVel, oTm, slVel, slMa, slMs, potF⟩ =>
        ⟨.originModifyParams, svF, oMode, oDir, oVel, oTm, slVel, slMa, slMs, potF⟩
    | .originTriggerReturn oMode snF => ⟨.originTriggerReturn, oMode, snF⟩
    | .originInterrupt => ⟨.originInterrupt, ()⟩
  left_inv := by
    rintro ⟨header, value⟩
    cases header <;> rfl
  right_inv := by
    intro call
    cases call <;> rfl

/-- An address, a header, its fields and the check byte. -/
def stepperCodec : Codec (UInt8 × EmmV5.Call) UInt8 :=
  (Codec.byte.pair
    (((Codec.table StepperHeader.all StepperHeader.code StepperHeader.mem_all
      StepperHeader.code_free).tagged StepperHeader.fields).iso callEquiv)).terminated 0x6B

/-- The bytes of some calls, one after the other. -/
def sentToSteppers (calls : List (UInt8 × EmmV5.Call)) : List UInt8 :=
  calls.flatMap fun call => call.2.bytes call.1

/-! ## Bytes -/

theorem encode_word (value : UInt16) :
    Codec.word.encode value = [(value >>> 8).toUInt8, (value >>> 0).toUInt8] := by
  have hzero : value >>> 0 = value := by
    apply UInt16.toNat_inj.mp
    simp
  rw [hzero]
  rfl

theorem encode_dword (value : UInt32) :
    Codec.dword.encode value =
      [(value >>> 24).toUInt8, (value >>> 16).toUInt8, (value >>> 8).toUInt8,
        (value >>> 0).toUInt8] := by
  change Codec.word.encode (value >>> 16).toUInt16 ++ Codec.word.encode value.toUInt16 = _
  have hvalue := value.toNat_lt
  have hbyte3 : ((value >>> 16).toUInt16 >>> 8).toUInt8 = (value >>> 24).toUInt8 := by
    apply UInt8.toNat_inj.mp
    simp [Nat.shiftRight_eq_div_pow]
    omega
  have hbyte2 : ((value >>> 16).toUInt16 >>> 0).toUInt8 = (value >>> 16).toUInt8 := by
    apply UInt8.toNat_inj.mp
    simp [Nat.shiftRight_eq_div_pow]
  have hbyte1 : (value.toUInt16 >>> 8).toUInt8 = (value >>> 8).toUInt8 := by
    apply UInt8.toNat_inj.mp
    simp [Nat.shiftRight_eq_div_pow]
    omega
  have hbyte0 : (value.toUInt16 >>> 0).toUInt8 = (value >>> 0).toUInt8 := by
    apply UInt8.toNat_inj.mp
    simp
  rw [encode_word, encode_word, hbyte3, hbyte2, hbyte1, hbyte0]
  rfl

theorem encode_stepperCodec (addr : UInt8) (call : EmmV5.Call) :
    stepperCodec.encode (addr, call) = call.bytes addr := by
  cases call with
  | readSysParams s => cases s <;> rfl
  | posControl dir vel acc clk raF snF =>
      change [addr] ++ ([0xFD] ++ ([dir] ++ (Codec.word.encode vel ++ ([acc] ++
        (Codec.dword.encode clk ++ ([raF.toUInt8] ++ [snF.toUInt8])))))) ++ [0x6B] = _
      rw [encode_word, encode_dword]
      rfl
  | originModifyParams p =>
      change [addr] ++ ([0x4C, 0xAE] ++ ([p.svF.toUInt8] ++ ([p.oMode] ++ ([p.oDir] ++
        (Codec.word.encode p.oVel ++ (Codec.dword.encode p.oTm ++
          (Codec.word.encode p.slVel ++ (Codec.word.encode p.slMa ++
            (Codec.word.encode p.slMs ++ [p.potF.toUInt8]))))))))) ++ [0x6B] = _
      rw [encode_word, encode_word, encode_word, encode_word, encode_dword]
      rfl
  | _ => rfl

theorem encode_stepperCodec_ne_nil (call : UInt8 × EmmV5.Call) : stepperCodec.encode call ≠ [] := by
  change _ ++ [0x6B] ≠ []
  exact List.append_ne_nil_of_right_ne_nil _ (List.cons_ne_nil _ _)

theorem sentToSteppers_eq (calls : List (UInt8 × EmmV5.Call)) :
    sentToSteppers calls = calls.flatMap stepperCodec.encode := by
  unfold sentToSteppers
  congr 1
  funext call
  exact (encode_stepperCodec call.1 call.2).symm

/-- The bytes of some calls begin those of others exactly if the calls do. -/
theorem sentToSteppers_prefix_iff (calls calls' : List (UInt8 × EmmV5.Call)) :
    sentToSteppers calls <+: sentToSteppers calls' ↔ calls <+: calls' := by
  rw [sentToSteppers_eq, sentToSteppers_eq]
  exact stepperCodec.flatMap_encode_prefix_iff encode_stepperCodec_ne_nil

/-! ## The commands of the sport mode -/

/-- The call for a command, with its arguments at the widths of the parameters. -/
def stepperCall (command : StepperCommand) : UInt8 × EmmV5.Call :=
  (UInt8.ofNat command.addr,
    .posControl (UInt8.ofNat command.dir) (UInt16.ofNat command.vel) (UInt8.ofNat command.acc)
      (UInt32.ofNat command.clk) command.raF command.snF)

/-- The position command that a call is. -/
def positionCommand? : UInt8 × EmmV5.Call → Option StepperCommand
  | (addr, .posControl dir vel acc clk raF snF) =>
      some ⟨addr.toNat, dir.toNat, vel.toNat, acc.toNat, clk.toNat, raF, snF⟩
  | _ => none

/-- Every argument has room in its parameter. -/
structure FitsStepper (command : StepperCommand) : Prop where
  addr : command.addr < 2 ^ 8
  dir : command.dir < 2 ^ 8
  vel : command.vel < 2 ^ 16
  acc : command.acc < 2 ^ 8
  clk : command.clk < 2 ^ 32

theorem FitsStepper.positionCommand? {command : StepperCommand} (hfits : FitsStepper command) :
    positionCommand? (stepperCall command) = some command := by
  obtain ⟨haddr, hdir, hvel, hacc, hclk⟩ := hfits
  simp only [Motion.positionCommand?, stepperCall]
  rw [UInt8.toNat_ofNat_of_lt' haddr, UInt8.toNat_ofNat_of_lt' hdir,
    UInt16.toNat_ofNat_of_lt' hvel, UInt8.toNat_ofNat_of_lt' hacc, UInt32.toNat_ofNat_of_lt' hclk]

section Car

variable {F : Type} [CFloat F]

variable (F) in
/-- `BuJinMotor_PitchView(2, 0, 100, Pitch)`, which turns the view while the car
searches for light. -/
def lightView (pitch : ℚ) : StepperCommand :=
  let pitch : F := CFloat.lit 3200 * (CFloat.lit pitch / CFloat.lit 360)
  ⟨2, 0, 100, 0, CFloat.toUInt16 pitch, true, false⟩

variable (F) in
/-- The five commands there are. -/
def carCommands : List StepperCommand :=
  [pitchView F, forwardTurn, backwardTurn, lightView F 0, lightView F 35]

/-- Nothing but these commands was sent. -/
def SendsCarCommands (s : Car F) : Prop := ∀ command ∈ s.steppers, command ∈ carCommands F

theorem toUInt16_lt (x : F) : CFloat.toUInt16 x < 2 ^ 16 := by
  unfold CFloat.toUInt16
  omega

theorem fitsStepper_view {dir : ℕ} (hdir : dir < 2 ^ 8) (pitch : F) :
    FitsStepper ⟨2, dir, 100, 0, CFloat.toUInt16 pitch, true, false⟩ := by
  have haddr : 2 < 2 ^ 8 := by decide
  have hvel : 100 < 2 ^ 16 := by decide
  exact ⟨haddr, hdir, hvel, Nat.two_pow_pos 8, (toUInt16_lt pitch).trans (by decide)⟩

theorem fitsStepper_carCommands {command : StepperCommand} (hcommand : command ∈ carCommands F) :
    FitsStepper command := by
  simp only [carCommands, List.mem_cons, List.not_mem_nil, or_false] at hcommand
  rcases hcommand with rfl | rfl | rfl | rfl | rfl
  · exact fitsStepper_view (by decide) _
  · exact ⟨by decide, by decide, by decide, by decide, by decide⟩
  · exact ⟨by decide, by decide, by decide, by decide, by decide⟩
  · exact fitsStepper_view (by decide) _
  · exact fitsStepper_view (by decide) _

/-! ## Whole runs -/

theorem SendsCarCommands.congr {s t : Car F} (hsends : SendsCarCommands s)
    (hsame : t.steppers = s.steppers) : SendsCarCommands t := by
  rwa [SendsCarCommands, hsame]

theorem SendsCarCommands.append {s t : Car F} (hsends : SendsCarCommands s)
    {command : StepperCommand} (hcommand : command ∈ carCommands F)
    (hsteppers : t.steppers = s.steppers ++ [command]) : SendsCarCommands t := by
  intro sent hsent
  rw [hsteppers, List.mem_append, List.mem_singleton] at hsent
  rcases hsent with hbefore | rfl
  · exact hsends sent hbefore
  · exact hcommand

theorem SendsCarCommands.plantleafIns {s : Car F} (hsends : SendsCarCommands s) :
    SendsCarCommands s.plantleafIns := by
  have hpitch : pitchView F ∈ carCommands F := by simp [carCommands]
  have hforward : forwardTurn ∈ carCommands F := by simp [carCommands]
  have hbackward : backwardTurn ∈ carCommands F := by simp [carCommands]
  unfold Car.plantleafIns
  dsimp only
  split_ifs
  · exact hsends.append hpitch rfl
  · exact hsends.append hforward rfl
  · exact hsends.append hbackward rfl
  · exact hsends
  · exact hsends

theorem SendsCarCommands.findingLight {s : Car F} (hsends : SendsCarCommands s) :
    SendsCarCommands s.findingLight := by
  have hlevel : lightView F 0 ∈ carCommands F := by simp [carCommands]
  have hraised : lightView F 35 ∈ carCommands F := by simp [carCommands]
  have hcase : SendsCarCommands s.findingLightCase := by
    unfold Car.findingLightCase
    split
    case h_2 =>
      dsimp only
      split_ifs
      all_goals first
        | exact hsends
        | exact hsends.append hlevel rfl
        | exact hsends.append hraised rfl
    case h_4 => exact hsends.append hlevel rfl
    case h_1 | h_3 | h_5 => exact hsends
  obtain ⟨-, hlight⟩ | ⟨-, hlight⟩ | ⟨-, -, hlight⟩ := findingLight_guards s <;> rw [hlight]
  · exact hcase
  · exact hsends
  · exact hsends

theorem SendsCarCommands.maixCamSport {s : Car F} (hmode : InMode s)
    (hsends : SendsCarCommands s) : SendsCarCommands s.maixCamSport := by
  have hcounted : SendsCarCommands s.countStarttime := hsends
  rcases hmode with hmode | hmode
  · have hinspected : SendsCarCommands (inspected s) := by
      unfold inspected
      split
      · exact hcounted.plantleafIns
      · exact hcounted
    rw [maixCamSport_mode1 hmode]
    exact hinspected.congr (keepsGlobals_findingObs _).steppers
  · have hsearched : SendsCarCommands (searched s) := by
      unfold searched
      split
      · exact hcounted.findingLight
      · exact hcounted
    rw [maixCamSport_mode2 hmode]
    split
    · exact hsearched.congr (keepsGlobals_findingObs _).steppers
    · exact hsearched

theorem sendsCarCommands_invariant :
    (carSystem F).Invariant fun s => InMode s ∧ SendsCarCommands s where
  init := ⟨.inr rfl, fun _ hsent => absurd hsent List.not_mem_nil⟩
  step s event hinv := by
    obtain ⟨hmode, hsends⟩ := hinv
    refine ⟨carSystem_inMode.step s event hmode, ?_⟩
    cases event with
    | plantSoft | maixcam | distance | yaw | encoder => exact hsends
    | tick =>
        have hcleared : SendsCarCommands (cleared s) := hsends
        exact hcleared.maixCamSport hmode

/-- Whatever happens, the bytes on the port of the motors read back as the commands
that the sport mode gave, with nothing cut off, and these are among five. -/
theorem steppers_read_back (events : List (CarEvent F)) :
    let steppers := ((carSystem F).run events).steppers
    (∀ command ∈ steppers, command ∈ carCommands F) ∧
      (stepperCodec.decodeAll (sentToSteppers (steppers.map stepperCall))).map
          (fun calls => calls.map positionCommand?) = some (steppers.map some) := by
  obtain ⟨-, hsends⟩ := sendsCarCommands_invariant.run events
  refine ⟨hsends, ?_⟩
  rw [(stepperCodec.decodeAll_eq_some_iff encode_stepperCodec_ne_nil).mpr (sentToSteppers_eq _),
    Option.map_some, List.map_map]
  congr 1
  apply List.map_congr_left
  intro command hcommand
  exact (fitsStepper_carCommands (hsends command hcommand)).positionCommand?

end Car

end PlantAssistant.Motion
