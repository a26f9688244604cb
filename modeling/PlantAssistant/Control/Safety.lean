import PlantAssistant.Control.Parts
import PlantAssistant.Motion.DutyLimit
import PlantAssistant.Voice.Alarms
import PlantAssistant.Watering.Relay

/-! # What always holds of the firmware

The invariants of the parts hold in every state of the whole firmware, and with
them what depends on more than one part: the frames it sends to either side.
-/

namespace PlantAssistant.Control

open Transition PlantAssistant.Climate PlantAssistant.Firmware PlantAssistant.Light
open PlantAssistant.Link PlantAssistant.Motion PlantAssistant.Vision PlantAssistant.Watering

variable (powf : ℚ → ℚ → ℚ) (clock : UInt32)

/-- Values that the sensors can deliver. -/
structure Delivered (values : OledValues ℚ) : Prop where
  mq2 : InPpmRange values.oledMQ2ppm
  mq135 : InPpmRange values.oledMQ135ppm
  soil : 0 ≤ values.oledSoilPercent ∧ values.oledSoilPercent ≤ 100
  temp : 0 ≤ values.myTemp ∧ values.myTemp ≤ 280.5
  humi : 0 ≤ values.myHumi ∧ values.myHumi ≤ 280.5

/-- What every state of the firmware keeps. -/
structure Safe (s : Controller ℚ) : Prop where
  mode : InMode s.car
  duties : DutiesLimited s.car.motors
  plantType : TypeKnown s.car.toGlobals
  lamp : Driven s.lamp
  flags : FlagsInRange s
  voice : ∀ voice, s.voice.flag voice ≤ 1
  /-- Temperature and humidity are zero or those of one valid capture. -/
  climate : ∃ published, PublishedValues s.dht11 published
  gasFlags : s.mq2AlarmFlag ≤ 1 ∧ s.mq135AlarmFlag ≤ 1
  dht11AlarmFlag : s.dht11AlarmFlag = 0
  oled : Delivered s.oled
  /-- The panel is sent whole frames only, the vision module modes only and the voice
  module alarms only. -/
  uart5Sent : ∀ frame ∈ s.uart5Sent, TelemetryFrame frame
  uart4Sent : ∃ modes : List Mode, s.uart4Sent = modes.flatMap modeFrame
  usart6Sent : ∃ alarms : List Voice, s.usart6Sent = alarms.flatMap asrVoice

/-! ## The frames sent -/

theorem uart5Sent_invariant :
    (controlSystem ℚ powf clock).Invariant fun s =>
      (InMode s.car ∧ Laid s.telemetry) ∧ ∀ frame ∈ s.uart5Sent, TelemetryFrame frame where
  init := ⟨⟨.inr rfl, laid_init⟩, fun frame hframe => by cases hframe⟩
  step s event hinv := by
    obtain ⟨⟨hmode, hlaid⟩, hsent⟩ := hinv
    have hboard := (boardPart powf clock).step s _ event ⟨hmode, rfl⟩
    have hlaid' : Laid (boardSystem.runFrom ⟨s.roll, s.pitch, s.car.yaw, s.telemetry⟩
        ((boardPart powf clock).events s event)).telemetry :=
      boardSystem_invariant.runFrom hlaid _
    rw [hboard.2] at hlaid'
    refine ⟨⟨hboard.1, hlaid'⟩, ?_⟩
    cases event with
    | plantSoft | maixcam | hwt101 | vl53 | exti | buzzer => exact hsent
    | call reads =>
        change ∀ frame ∈ (s.perform powf reads s.next).uart5Sent, TelemetryFrame frame
        cases s.next
        case sendDataToPlantSoft =>
          intro frame hframe
          rcases List.mem_append.mp hframe with hold | hnew
          · exact hsent frame hold
          · exact (hlaid.send s.telemetryInput).2 frame hnew
        all_goals exact hsent

theorem uart4Sent_run (events : List ControlEvent) :
    ∃ modes : List Mode,
      ((controlSystem ℚ powf clock).run events).uart4Sent = modes.flatMap modeFrame := by
  obtain ⟨link, ⟨⟨-, hwire⟩, hunread⟩, hlink, -⟩ :=
    (modePart powf clock).invariant modeSystem_invariant events
  have hbuffer : link.rx.rxModeBuffer = [] := by
    apply List.eq_nil_of_length_eq_zero
    rw [hlink.length, hunread]
  have hstream := hlink.stream
  rw [hbuffer, hunread, List.nil_append, ← hwire] at hstream
  exact ⟨_, hstream⟩

theorem usart6Sent_invariant :
    (controlSystem ℚ powf clock).Invariant fun s =>
      ∃ alarms : List Voice, s.usart6Sent = alarms.flatMap asrVoice where
  init := ⟨[], rfl⟩
  step s event hinv := by
    obtain ⟨alarms, hsent⟩ := hinv
    cases event with
    | plantSoft | maixcam | hwt101 | vl53 | exti | buzzer => exact ⟨alarms, hsent⟩
    | call reads =>
        change ∃ alarms : List Voice, (s.perform powf reads s.next).usart6Sent = _
        cases s.next
        case checkVioce =>
          refine ⟨alarms ++ (s.voice.checkVioce s.voiceInput).2, ?_⟩
          rw [List.flatMap_append, ← hsent]
          rfl
        all_goals exact ⟨alarms, hsent⟩

/-! ## The sensors -/

theorem dht11AlarmFlag_invariant :
    (controlSystem ℚ powf clock).Invariant fun s => s.dht11AlarmFlag = 0 where
  init := rfl
  step s event hinv := by
    cases event with
    | plantSoft | maixcam | hwt101 | vl53 | exti | buzzer => exact hinv
    | call reads =>
        change (s.perform powf reads s.next).dht11AlarmFlag = 0
        cases s.next <;> first | exact hinv | rfl

theorem gasFlags_invariant :
    (controlSystem ℚ powf clock).Invariant fun s =>
      s.mq2AlarmFlag ≤ 1 ∧ s.mq135AlarmFlag ≤ 1 where
  init := ⟨Nat.zero_le 1, Nat.zero_le 1⟩
  step s event hinv := by
    cases event with
    | plantSoft | maixcam | hwt101 | vl53 | exti | buzzer => exact hinv
    | call reads =>
        change (s.perform powf reads s.next).mq2AlarmFlag ≤ 1 ∧
          (s.perform powf reads s.next).mq135AlarmFlag ≤ 1
        cases s.next
        case refresh => exact ⟨gasAlarmFlag_le _ _, gasAlarmFlag_le _ _⟩
        all_goals exact hinv

theorem publishedValues_range {s : Dht11 ℚ} {published : Option (List Bool)}
    (hvalues : PublishedValues s published) :
    (0 ≤ s.temperatureC ∧ s.temperatureC ≤ 280.5) ∧ (0 ≤ s.humidityRh ∧ s.humidityRh ≤ 280.5) := by
  cases published with
  | none =>
      obtain ⟨hhumidity, htemperature⟩ := hvalues
      rw [hhumidity, htemperature]
      exact ⟨⟨le_refl 0, by norm_num⟩, le_refl 0, by norm_num⟩
  | some bits =>
      obtain ⟨-, -, hhumidity, htemperature⟩ := hvalues
      rw [hhumidity, htemperature]
      exact ⟨bytesAndTenths_range _ _, bytesAndTenths_range _ _⟩

/-- What is displayed and sent as telemetry is in the range of its sensor. -/
theorem delivered_invariant :
    (controlSystem ℚ powf clock).Invariant fun s =>
      (∃ observed : Observed ℚ, s.dht11 = observed.driver ∧ observed.Sound) ∧
        Delivered s.oled where
  init := by
    have hppm : InPpmRange 0 := ⟨le_refl 0, by norm_num⟩
    have hpercent : (0 : ℚ) ≤ 0 ∧ (0 : ℚ) ≤ 100 := by norm_num
    have hclimate : (0 : ℚ) ≤ 0 ∧ (0 : ℚ) ≤ 280.5 := by norm_num
    exact ⟨((driverPart powf clock).lift (driverSystem_invariant clock)).init,
      hppm, hppm, hpercent, hclimate, hclimate⟩
  step s event hinv := by
    obtain ⟨hsound, hdelivered⟩ := hinv
    refine ⟨((driverPart powf clock).lift (driverSystem_invariant clock)).step s event hsound, ?_⟩
    cases event with
    | plantSoft | maixcam | hwt101 | vl53 | exti | buzzer => exact hdelivered
    | call reads =>
        change Delivered (s.perform powf reads s.next).oled
        cases s.next
        case refresh =>
          obtain ⟨observed, hobserved, hsound⟩ := hsound
          have hclimate := publishedValues_range hsound.published
          rw [← hobserved] at hclimate
          let percent := Percent.measured reads.soil
          exact ⟨inPpmRange_mq2GetDataPPM _, inPpmRange_mq135GetDataPPM _,
            ⟨percent.nonneg, percent.le_hundred⟩, hclimate.1, hclimate.2⟩
        all_goals exact hdelivered

/-! ## Every state -/

/-- In every run, whatever frames, edges and sensor values it brings and wherever
the other threads interrupt the task, the firmware is in a safe state. -/
theorem firmware_safe (events : List ControlEvent) :
    Safe ((controlSystem ℚ powf clock).run events) := by
  obtain ⟨car, rfl, hmode, hduties⟩ := (carPart powf clock).invariant dutiesLimited_invariant events
  obtain ⟨light, ⟨-, hlamp⟩, hdriven⟩ := (lightPart powf clock).invariant driven_light events
  obtain ⟨voice, rfl, hvoice⟩ := (voicePart powf clock).invariant Voice.flag_le_one events
  obtain ⟨observed, hobserved, hsound⟩ :=
    (driverPart powf clock).invariant (driverSystem_invariant clock) events
  exact {
    mode := hmode
    duties := hduties
    plantType := (typeKnown_invariant powf clock).run events
    lamp := hlamp ▸ hdriven
    flags := (flagsInRange_invariant powf clock).run events
    voice := hvoice
    climate := ⟨observed.published, hobserved ▸ hsound.published⟩
    gasFlags := (gasFlags_invariant powf clock).run events
    dht11AlarmFlag := (dht11AlarmFlag_invariant powf clock).run events
    oled := ((delivered_invariant powf clock).run events).2
    uart5Sent := ((uart5Sent_invariant powf clock).run events).2
    uart4Sent := uart4Sent_run powf clock events
    usart6Sent := (usart6Sent_invariant powf clock).run events }

end PlantAssistant.Control
