import PlantAssistant.Panel.Dashboard

/-! # Three copies of the pump's state

The pump button, the flag the automation works with and the last pump command
handed to the port are meant to agree. The only handler that can part them is
the one for typed commands.
-/

namespace PlantAssistant.Watering

open Transition PlantAssistant.Panel

/-! ## Pump commands -/

/-- The state that a payload commands, if it is a pump command `AA 20 v 55`. -/
def pumpCommand (payload : Text) : Option Bool :=
  match fromHex (strip payload) with
  | none => none
  | some data =>
      if data.length = 4 ∧ data.getD 0 0 = 0xAA ∧ data.getD 1 0 = 0x20 ∧ data.getD 3 0 = 0x55 then
        some (data.getD 2 0 = 0x01)
      else none

/-- The last pump command among the payloads, or off. -/
def lastPump (payloads : List Text) : Bool :=
  (payloads.filterMap pumpCommand).getLastD false

theorem lastPump_append (payloads : List Text) (payload : Text) :
    lastPump (payloads ++ [payload]) = (pumpCommand payload).getD (lastPump payloads) := by
  unfold lastPump
  rw [List.filterMap_append]
  cases hcommand : pumpCommand payload with
  | none => simp [hcommand]
  | some enabled => simp [hcommand]

theorem pumpCommand_frame (command value : UInt8) :
    pumpCommand (frame command value) =
      if command = 0x20 then some (decide (value = 0x01)) else none := by
  rw [pumpCommand, frame_eq_hexText, strip_hexText, fromHex_hexText]
  simp

theorem pumpCommand_other {command : UInt8} (hother : command ≠ 0x20) (value : UInt8) :
    pumpCommand (frame command value) = none := by
  rw [pumpCommand_frame, if_neg hother]

theorem pumpCommand_pump (enabled : Bool) :
    pumpCommand (frame 0x20 (if enabled then 0x01 else 0x00)) = some enabled := by
  rw [pumpCommand_frame]
  cases enabled <;> rfl

theorem pumpCommand_timestamp (now : DateTime) :
    pumpCommand (hexText (timestampFrame now)) = none := by
  rw [pumpCommand, strip_hexText, fromHex_hexText]
  simp [timestampFrame]

theorem syncActuatorStateFromPayload_eq (payload : Text) (d : Dashboard) :
    d.syncActuatorStateFromPayload payload =
      { d with pumpEnabled := (pumpCommand payload).getD d.pumpEnabled } := by
  unfold Dashboard.syncActuatorStateFromPayload pumpCommand
  cases fromHex (strip payload) with
  | none => rfl
  | some data =>
      dsimp only
      generalize data.length = size, data.getD 0 0 = head, data.getD 1 0 = command,
        data.getD 2 0 = value, data.getD 3 0 = tail
      split_ifs <;> simp_all

/-! ## Agreement -/

/-- The button, the flag and the last command handed over are the same. -/
structure PumpAgrees (d : Dashboard) : Prop where
  smartPump : d.smartPump = d.pumpEnabled
  lastPump : lastPump (d.sent.map Prod.fst) = d.pumpEnabled

/-- Nothing of the pump changes. -/
structure KeepsPump (d d' : Dashboard) : Prop where
  smartPump : d'.smartPump = d.smartPump
  pumpEnabled : d'.pumpEnabled = d.pumpEnabled
  pumpManualOverride : d'.pumpManualOverride = d.pumpManualOverride
  sent : d'.sent = d.sent

theorem KeepsPump.agrees {d d' : Dashboard} (hkeeps : KeepsPump d d') (hagrees : PumpAgrees d) :
    PumpAgrees d' := by
  obtain ⟨hbutton, hflag, -, hsent⟩ := hkeeps
  exact ⟨by rw [hbutton, hflag, hagrees.smartPump], by rw [hsent, hflag, hagrees.lastPump]⟩

variable (port : SerialPort)

theorem lastPump_sendPayload (payload : Text) (d : Dashboard) :
    lastPump ((d.sendPayload port payload).sent.map Prod.fst) =
      (pumpCommand payload).getD (lastPump (d.sent.map Prod.fst)) := by
  rw [Dashboard.sendPayload, List.map_append]
  exact lastPump_append _ payload

theorem PumpAgrees.sendPayload {d : Dashboard} (hagrees : PumpAgrees d) {payload : Text}
    (hother : pumpCommand payload = none) : PumpAgrees (d.sendPayload port payload) where
  smartPump := hagrees.smartPump
  lastPump := by
    rw [lastPump_sendPayload, hother]
    exact hagrees.lastPump

/-- A pump command makes the flag and the last command agree, and leaves the
button as it is. -/
theorem pumpAgrees_handleSendCommand {payload : Text} {enabled : Bool}
    (hcommand : pumpCommand payload = some enabled) (d : Dashboard) :
    PumpAgrees (d.handleSendCommand port payload) ↔ d.smartPump = enabled := by
  rw [Dashboard.handleSendCommand, syncActuatorStateFromPayload_eq, hcommand, Option.getD_some]
  constructor
  · intro hagrees
    exact hagrees.smartPump
  · intro hbutton
    have hlast := lastPump_sendPayload port payload d
    rw [hcommand, Option.getD_some] at hlast
    exact ⟨hbutton, hlast⟩

theorem PumpAgrees.handleSendCommand {d : Dashboard} (hagrees : PumpAgrees d) {payload : Text}
    (hother : pumpCommand payload = none) : PumpAgrees (d.handleSendCommand port payload) := by
  rw [Dashboard.handleSendCommand, syncActuatorStateFromPayload_eq, hother, Option.getD_none]
  exact hagrees.sendPayload port hother

theorem pumpAgrees_setPumpState (enabled : Bool) (d : Dashboard) :
    PumpAgrees (d.setPumpState port enabled) := by
  rw [Dashboard.setPumpState, pumpAgrees_handleSendCommand port (pumpCommand_pump enabled)]

theorem PumpAgrees.updatePumpAutomation {d : Dashboard} (hagrees : PumpAgrees d) :
    PumpAgrees (d.updatePumpAutomation port) := by
  unfold Dashboard.updatePumpAutomation
  split_ifs
  case neg => exact pumpAgrees_setPumpState port _ _
  all_goals exact hagrees

theorem keepsPump_keepLastValidFloat (value : ℚ) (last : Option ℚ) (sensorType : SensorType)
    (allowZero : Bool) (d : Dashboard) :
    KeepsPump d (d.keepLastValidFloat value last sensorType allowZero).2 := by
  unfold Dashboard.keepLastValidFloat
  split
  · split <;> exact ⟨rfl, rfl, rfl, rfl⟩
  · exact ⟨rfl, rfl, rfl, rfl⟩

/-- Reading a packet changes nothing of the pump. -/
theorem keepsPump_readSensorPacket (packet : Packet) (d : Dashboard) :
    KeepsPump d (d.readSensorPacket packet) := by
  have hkeeps := keepsPump_keepLastValidFloat
  unfold Dashboard.readSensorPacket
  split
  case h_1 | h_2 | h_3 | h_4 =>
    obtain ⟨hbutton, hflag, hoverride, hsent⟩ := hkeeps _ _ _ _ d
    exact ⟨hbutton, hflag, hoverride, hsent⟩
  case h_5 angle distance _ =>
    obtain ⟨hbutton, hflag, hoverride, hsent⟩ := hkeeps distance d.currentObstacleDistance
      .obstacle false { d with currentObstacleAngle := some angle }
    exact ⟨hbutton, hflag, hoverride, hsent⟩
  case h_6 => exact ⟨rfl, rfl, rfl, rfl⟩
  case h_7 =>
    dsimp only
    unfold Dashboard.syncPlantTypeUi
    split_ifs <;> exact ⟨rfl, rfl, rfl, rfl⟩

/-- A reconnect hands over the state of the button. -/
theorem lastPump_syncDeviceStateAfterConnect (d : Dashboard) :
    lastPump ((d.syncDeviceStateAfterConnect port).sent.map Prod.fst) = d.smartPump := by
  unfold Dashboard.syncDeviceStateAfterConnect
  rw [lastPump_sendPayload, lastPump_sendPayload, lastPump_sendPayload,
    pumpCommand_other (by decide), pumpCommand_other (by decide), pumpCommand_pump]
  rfl

theorem PumpAgrees.syncDeviceStateAfterConnect {d : Dashboard} (hagrees : PumpAgrees d) :
    PumpAgrees (d.syncDeviceStateAfterConnect port) := by
  have hbutton : (d.syncDeviceStateAfterConnect port).smartPump = d.smartPump := by
    simp [Dashboard.syncDeviceStateAfterConnect]
  have hflag : (d.syncDeviceStateAfterConnect port).pumpEnabled = d.pumpEnabled := by
    simp [Dashboard.syncDeviceStateAfterConnect]
  constructor
  · rw [hbutton, hflag, hagrees.smartPump]
  · rw [lastPump_syncDeviceStateAfterConnect, hflag, hagrees.smartPump]

theorem PumpAgrees.selectGuard {d : Dashboard} (hagrees : PumpAgrees d) (index : Fin 3) :
    PumpAgrees (d.selectGuard port index) := by
  unfold Dashboard.selectGuard
  split
  · exact hagrees
  · have hselected : PumpAgrees { d with guardIndex := index } := ⟨hagrees.1, hagrees.2⟩
    have hsent := hselected.handleSendCommand port
      (pumpCommand_other (by decide : (0x70 : UInt8) ≠ 0x20) (plantTypeOptions.get index).1)
    unfold Dashboard.sendSelectedPlantType Dashboard.handlePlantTypeChanged
    apply PumpAgrees.updatePumpAutomation
    exact ⟨hsent.1, hsent.2⟩

/-! ## Runs -/

/-- A typed pump command commands what the button shows. -/
def TypedAgrees (d : Dashboard) : PanelEvent → Prop
  | .typed text => ∀ enabled, pumpCommand (strip text) = some enabled → d.smartPump = enabled
  | _ => True

theorem pumpAgrees_sendManualText {d : Dashboard} (hagrees : PumpAgrees d) (text : Text) :
    PumpAgrees (d.sendManualText port text) ↔ TypedAgrees d (.typed text) := by
  unfold Dashboard.sendManualText TypedAgrees
  dsimp only
  split
  next hempty =>
    -- nothing is sent, and nothing is no command
    have hnone : pumpCommand [] = none := by decide
    rw [hempty, hnone]
    refine iff_of_true hagrees ?_
    intro enabled hsome
    cases hsome
  next =>
    cases hcommand : pumpCommand (strip text) with
    | none =>
        refine iff_of_true (hagrees.handleSendCommand port hcommand) ?_
        intro enabled hsome
        cases hsome
    | some enabled =>
        rw [pumpAgrees_handleSendCommand port hcommand]
        constructor
        · rintro hbutton _ ⟨⟩
          exact hbutton
        · intro htyped
          exact htyped enabled rfl

theorem pumpAgrees_step {d : Dashboard} (hagrees : PumpAgrees d) (event : PanelEvent) :
    PumpAgrees (d.step port event) ↔ TypedAgrees d event := by
  cases event with
  | typed text => exact pumpAgrees_sendManualText port hagrees text
  | pumpToggled => exact iff_of_true (pumpAgrees_setPumpState port _ _) trivial
  | sensorPacket packet =>
      have hread := (keepsPump_readSensorPacket packet d).agrees hagrees
      exact iff_of_true (hread.updatePumpAutomation port) trivial
  | guardSelected index => exact iff_of_true (hagrees.selectGuard port index) trivial
  | overrideExpired =>
      refine iff_of_true ?_ trivial
      change PumpAgrees (d.clearManualPumpOverride port)
      unfold Dashboard.clearManualPumpOverride
      split
      · apply PumpAgrees.updatePumpAutomation
        exact ⟨hagrees.1, hagrees.2⟩
      · exact hagrees
  | autoSeekClicked =>
      have hset : PumpAgrees { d with autoSeekMode := if d.autoSeekMode ≠ 1 then 1 else 2 } :=
        ⟨hagrees.1, hagrees.2⟩
      exact iff_of_true (hset.handleSendCommand port (pumpCommand_other (by decide) _)) trivial
  | fillLightToggled =>
      have hset : PumpAgrees { d with fillLight := !d.fillLight } :=
        ⟨hagrees.1, hagrees.2⟩
      exact iff_of_true (hset.handleSendCommand port (pumpCommand_other (by decide) _)) trivial
  | emergencyToggled =>
      have hset : PumpAgrees { d with emergency := !d.emergency } :=
        ⟨hagrees.1, hagrees.2⟩
      exact iff_of_true (hset.handleSendCommand port (pumpCommand_other (by decide) _)) trivial
  | timestamp now =>
      exact iff_of_true (hagrees.sendPayload port (pumpCommand_timestamp now)) trivial
  | connected => exact iff_of_true (hagrees.syncDeviceStateAfterConnect port) trivial

/-- After the event the three copies agree, and a reconnect would hand over the
state the automation works with. -/
def PumpCoherent (d : Dashboard) (event : PanelEvent) : Prop :=
  PumpAgrees (d.step port event) ∧
    ∀ later : SerialPort,
      lastPump (((d.step port event).syncDeviceStateAfterConnect later).sent.map Prod.fst) =
        (d.step port event).pumpEnabled

/-- The copies agree throughout a run if and only if every pump command typed
into the panel commands what the button shows. -/
theorem pump_coherent_iff (events : List PanelEvent) :
    (dashboardSystem port).Along (PumpCoherent port) events ↔
      (dashboardSystem port).Along TypedAgrees events := by
  apply System.along_congr_of_kept PumpAgrees
  · exact ⟨rfl, rfl⟩
  · intro d event hagrees
    rw [← pumpAgrees_step port hagrees]
    constructor
    · exact And.left
    · intro hafter
      refine ⟨hafter, ?_⟩
      intro later
      rw [lastPump_syncDeviceStateAfterConnect, hafter.smartPump]
  · intro d event _ hcoherent
    exact hcoherent.1

/-- The pump is switched on by a typed command, and the button stays off. -/
theorem typed_pump_parts :
    ¬ (dashboardSystem fun _ => true).Along (PumpCoherent fun _ => true)
      [.typed "AA 20 01 55".toList] := by
  intro hcoherent
  have htyped := (pumpAgrees_step (fun _ => true) ⟨rfl, rfl⟩ _).mp hcoherent.1.1
  have hcommand : pumpCommand (strip "AA 20 01 55".toList) = some true := by decide +kernel
  have hbutton : false = true := htyped true hcommand
  cases hbutton

end PlantAssistant.Watering
