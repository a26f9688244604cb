import PlantAssistant.Climate.Driver
import PlantAssistant.Control.Orders
import PlantAssistant.Link.ModeLink
import PlantAssistant.Link.ObstacleReport
import PlantAssistant.Motion.Obstacles
import PlantAssistant.Transition.Simulation

/-! # The parts of the firmware

What has been shown of the sport mode, the telemetry, the mode link, the fill
light, the voice alarms, the climate sensor and the soil alarm each on its own
holds of the whole firmware, as each part follows it.
-/

namespace PlantAssistant.Control

open Transition PlantAssistant.Climate PlantAssistant.Firmware PlantAssistant.Light
open PlantAssistant.Link PlantAssistant.Motion

section Float

variable {F : Type} [CFloat F] (powf : F → F → F) (clock : UInt32)

/-- The car sees the frames, the new yaw and distance, the encoder task and the
calls of the sport mode. -/
def carPart : Simulation (controlSystem F powf clock) (carSystem F) where
  related s car := s.car = car
  events s
    | .plantSoft data size => [.plantSoft data size]
    | .maixcam data size => [.maixcam data size]
    | .hwt101 data => [.yaw (hwt101DataProc data hwt101FrameLen s.attitude).yaw]
    | .vl53 data size => [.distance (UInt16.ofNat (vl53DataProc data size s.ranging).distance)]
    | .call reads =>
        match s.next with
        | .getSpeedMilleage =>
            [.encoder reads.counter1 reads.counter1' reads.counter2 reads.counter2']
        | .maixCamSport => [.tick]
        | _ => []
    | _ => []
  init := rfl
  step s car event hrelated := by
    subst hrelated
    cases event with
    | plantSoft | maixcam | hwt101 | exti | buzzer => rfl
    | vl53 data size =>
        have hword : (UInt16.ofNat (vl53DataProc data size s.ranging).distance).toNat =
            (vl53DataProc data size s.ranging).distance := by
          rw [UInt16.toNat_ofNat', Nat.mod_eq_of_lt]
          exact Nat.mod_lt _ (by decide)
        exact congrArg (fun distance => ({ s.car with distance := distance } : Car F)) hword.symm
    | call reads =>
        change (s.perform powf reads s.next).car = _
        cases s.next <;> rfl

theorem inMode_step {s : Controller F} (hmode : InMode s.car) (event : ControlEvent) :
    InMode (s.step powf event).car := by
  have hcar : (s.step powf event).car = (carSystem F).runFrom s.car _ :=
    (carPart powf 0).step s s.car event rfl
  rw [hcar]
  exact carSystem_inMode.runFrom hmode _

/-- The voice alarms see the calls of `Check_vioce`. -/
def voicePart : Simulation (controlSystem F powf clock) (voiceSystem F) where
  related s voice := s.voice = voice
  events s
    | .call _ => if s.next = .checkVioce then [s.voiceInput] else []
    | _ => []
  init := rfl
  step s voice event hrelated := by
    subst hrelated
    cases event with
    | plantSoft | maixcam | hwt101 | vl53 | exti | buzzer => rfl
    | call reads =>
        change (s.perform powf reads s.next).voice = _
        cases s.next <;> rfl

/-- The driver of the climate sensor sees the edges and its own ticks. -/
def driverPart : Simulation (controlSystem F powf clock) (driverSystem F clock) where
  related s observed := s.dht11 = observed.driver
  events s
    | .exti gpioPin level nowCycle => [.edge gpioPin level nowCycle]
    | .call _ => if s.next = .dht11Task10ms then [.tick] else []
    | _ => []
  init := rfl
  step s observed event hrelated := by
    cases event with
    | plantSoft | maixcam | hwt101 | vl53 | buzzer => exact hrelated
    | exti gpioPin level nowCycle =>
        exact congrArg (Dht11.extiCallback gpioPin level nowCycle) hrelated
    | call reads =>
        change (s.perform powf reads s.next).dht11 = _
        cases s.next
        case dht11Task10ms => exact congrArg Dht11.task10ms hrelated
        all_goals exact hrelated

/-- The vision module is sent what the calls of `Maixcam_SetMode` send. Here nothing
of it is read. -/
def modePart : Simulation (controlSystem F powf clock) modeSystem where
  related s link := (s.modeCnt = link.cnt ∧ s.uart4Sent = link.wire) ∧ link.received = 0
  events s
    | .call _ => if s.next = .maixcamSetMode then [.setMode s.car.maixModeFlag] else []
    | _ => []
  init := ⟨⟨rfl, rfl⟩, rfl⟩
  step s link event hrelated := by
    obtain ⟨⟨hcnt, hwire⟩, hunread⟩ := hrelated
    cases event with
    | plantSoft | maixcam | hwt101 | vl53 | exti | buzzer => exact ⟨⟨hcnt, hwire⟩, hunread⟩
    | call reads =>
        change ((s.perform powf reads s.next).modeCnt = _ ∧
          (s.perform powf reads s.next).uart4Sent = _) ∧ _
        cases s.next
        case maixcamSetMode =>
          refine ⟨?_, hunread⟩
          change (maixcamSetMode s.car.maixModeFlag s.modeCnt).1 = _ ∧
            s.uart4Sent ++ (maixcamSetMode s.car.maixModeFlag s.modeCnt).2 = _
          rw [hcnt, hwire]
          exact ⟨rfl, rfl⟩
        all_goals exact ⟨⟨hcnt, hwire⟩, hunread⟩

/-- The fill light sees the frames and the calls of `LightContral`. -/
def lightPart : Simulation (controlSystem F powf clock) lightSystem where
  related s light := SameOrders s.car.toGlobals light.globals ∧ s.lamp = light.lamp
  events s
    | .plantSoft data size => [.plantSoft data size]
    | .maixcam data size => [.maixcam data size]
    | .call _ => if s.next = .lightContral then [.tick] else []
    | _ => []
  init := ⟨.refl _, rfl⟩
  step s light event hrelated := by
    obtain ⟨horders, hlamp⟩ := hrelated
    cases event with
    | plantSoft data size =>
        exact ⟨actsOnOrders_plantSoftDataProc data size _ _ horders, hlamp⟩
    | maixcam data size => exact ⟨actsOnOrders_maixcamDataProc data size _ _ horders, hlamp⟩
    | hwt101 | vl53 | exti | buzzer => exact ⟨horders, hlamp⟩
    | call reads =>
        change SameOrders (s.perform powf reads s.next).car.toGlobals _ ∧
          (s.perform powf reads s.next).lamp = _
        cases s.next
        case lightContral =>
          refine ⟨horders, ?_⟩
          change s.lamp.lightContral s.car.lightOnOffFlag s.car.soilPlantType =
            light.lamp.lightContral light.globals.lightOnOffFlag light.globals.soilPlantType
          rw [hlamp, horders.lightOnOffFlag, horders.soilPlantType]
        case maixCamSport =>
          -- the sport mode has left the orders as they were
          obtain ⟨hwater, hlight, htype⟩ := sameOrders_tick s.car
          exact ⟨⟨horders.1.trans hwater.symm, horders.2.trans hlight.symm,
            horders.3.trans htype.symm⟩, hlamp⟩
        all_goals exact ⟨horders, hlamp⟩

end Float

section Exact

variable (powf : ℚ → ℚ → ℚ) (clock : UInt32)

/-- The obstacle packet sees the attitude frames and the calls of
`SendData_to_PlantSoft`. -/
def boardPart : Simulation (controlSystem ℚ powf clock) boardSystem where
  related s board := InMode s.car ∧
    board = { roll := s.roll, pitch := s.pitch, yaw := s.car.yaw, telemetry := s.telemetry }
  events s
    | .hwt101 data => [.attitude data]
    | .call _ => if s.next = .sendDataToPlantSoft then [.send s.telemetryInput] else []
    | _ => []
  init := ⟨.inr rfl, rfl⟩
  step s board event hrelated := by
    obtain ⟨hmode, rfl⟩ := hrelated
    refine ⟨inMode_step powf hmode event, ?_⟩
    cases event with
    | plantSoft | maixcam | hwt101 | vl53 | exti | buzzer => rfl
    | call reads =>
        change _ = Board.mk (s.perform powf reads s.next).roll (s.perform powf reads s.next).pitch
          (s.perform powf reads s.next).car.yaw (s.perform powf reads s.next).telemetry
        cases s.next
        case maixCamSport =>
          change _ = Board.mk s.roll s.pitch (tick s.car).yaw s.telemetry
          rw [yaw_tick hmode]
          rfl
        all_goals rfl

/-- The type that a value of `Soil_PlantType` stands for. -/
def typeOf (soilPlantType : ℕ) : PlantType :=
  if soilPlantType = uart4ModeHalfShade then .halfShade
  else if soilPlantType = uart4ModeSun then .sun
  else .shade

theorem typeOf_mode (type : PlantType) : typeOf type.mode = type := by
  cases type <;> rfl

/-- The soil alarm sees the percentages measured, with the type of that moment. -/
def soilPart : Simulation (controlSystem ℚ powf clock) soilSystem where
  related s soil := s.soil = soil ∧ TypeKnown s.car.toGlobals
  events s
    | .call reads =>
        if s.next = .refresh then [⟨.measured reads.soil, typeOf s.car.soilPlantType⟩] else []
    | _ => []
  init := ⟨rfl, .shade, rfl⟩
  step s soil event hrelated := by
    obtain ⟨rfl, hknown⟩ := hrelated
    cases event with
    | plantSoft data size => exact ⟨rfl, typeKnown_plantSoftDataProc data size hknown⟩
    | maixcam data size =>
        exact ⟨rfl, typeKnown_light.step ⟨s.car.toGlobals, {}⟩ (.maixcam data size) hknown⟩
    | hwt101 | vl53 | exti | buzzer => exact ⟨rfl, hknown⟩
    | call reads =>
        change (s.perform powf reads s.next).soil = _ ∧
          TypeKnown (s.perform powf reads s.next).car.toGlobals
        cases s.next
        case refresh =>
          obtain ⟨type, htype⟩ := hknown
          refine ⟨?_, type, htype⟩
          change soilUpdateAlarmFlag s.car.soilPlantType _ =
            Soil.step s.soil ⟨.measured reads.soil, typeOf s.car.soilPlantType⟩
          rw [htype, typeOf_mode]
          rfl
        case maixCamSport =>
          obtain ⟨type, htype⟩ := hknown
          exact ⟨rfl, type, (sameOrders_tick s.car).soilPlantType.trans htype⟩
        all_goals exact ⟨rfl, hknown⟩

end Exact

end PlantAssistant.Control
