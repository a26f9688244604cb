import PlantAssistant.Watering.PumpState

/-! # Pump commands that could not be written

The automation compares its decision with the flag it has set itself, also when
the command was lost. Every automatic command reverses the flag, so the flag is
off the device's state after an odd number of lost commands.
-/

namespace PlantAssistant.Watering

open Transition PlantAssistant.Panel

/-- What drives the automation: a packet, a chosen plant type, or the end of a
manual override. -/
inductive AutomaticEvent where
  | sensorPacket (packet : Packet)
  | guardSelected (index : Fin 3)
  | overrideExpired

def AutomaticEvent.event : AutomaticEvent → PanelEvent
  | .sensorPacket packet => .sensorPacket packet
  | .guardSelected index => .guardSelected index
  | .overrideExpired => .overrideExpired

def automaticSystem (port : SerialPort) : System Dashboard AutomaticEvent where
  init := Dashboard.initial
  step d event := d.step port event.event

/-! ## What was written -/

/-- The last pump command that was written, or off. -/
def lastWritten (sent : List (Text × Bool)) : Bool :=
  lastPump ((sent.filter Prod.snd).map Prod.fst)

/-- One more payload: how many pump commands have been lost since one was written. -/
def countLost (lost : ℕ) (payload : Text × Bool) : ℕ :=
  if (pumpCommand payload.1).isSome then if payload.2 then 0 else lost + 1 else lost

def lostSince (sent : List (Text × Bool)) : ℕ := sent.foldl countLost 0

theorem lastWritten_append (sent : List (Text × Bool)) (payload : Text) (written : Bool) :
    lastWritten (sent ++ [(payload, written)]) =
      if written then (pumpCommand payload).getD (lastWritten sent) else lastWritten sent := by
  unfold lastWritten
  rw [List.filter_append, List.map_append]
  cases written with
  | false => simp
  | true => exact lastPump_append _ payload

theorem lostSince_append (sent : List (Text × Bool)) (payload : Text × Bool) :
    lostSince (sent ++ [payload]) = countLost (lostSince sent) payload :=
  List.foldl_concat _ _ _ _

/-! ## The automation -/

variable (port : SerialPort)

theorem setPumpState_eq (enabled : Bool) (d : Dashboard) :
    d.setPumpState port enabled =
      { d with
        smartPump := enabled
        pumpEnabled := enabled
        sent := d.sent ++
          [(frame 0x20 (if enabled then 0x01 else 0x00), port d.sent.length)] } := by
  rw [Dashboard.setPumpState, Dashboard.handleSendCommand, syncActuatorStateFromPayload_eq,
    pumpCommand_pump]
  rfl

/-- Outside an override the automation either has nothing to do, or commands the
opposite of its flag. -/
theorem updatePumpAutomation_cases {d : Dashboard} (hoverride : d.pumpManualOverride = false) :
    (.reading .soilMoisture ∈ d.receivedSensorTypes → d.shouldEnable = d.pumpEnabled) ∧
        d.updatePumpAutomation port = d ∨
      .reading .soilMoisture ∈ d.receivedSensorTypes ∧ d.shouldEnable = (!d.pumpEnabled) ∧
        d.updatePumpAutomation port =
          { d with
            smartPump := d.shouldEnable
            pumpEnabled := d.shouldEnable
            sent := d.sent ++
              [(frame 0x20 (if d.shouldEnable then 0x01 else 0x00), port d.sent.length)] } := by
  unfold Dashboard.updatePumpAutomation
  rw [hoverride]
  by_cases hreceived : .reading .soilMoisture ∈ d.receivedSensorTypes
  · by_cases hsame : d.shouldEnable = d.pumpEnabled
    · exact .inl ⟨fun _ => hsame, by simp [hreceived, hsame]⟩
    · refine .inr ⟨hreceived, ?_, ?_⟩
      · exact Bool.eq_not.mpr hsame
      · simp [hreceived, hsame, setPumpState_eq]
  · exact .inl ⟨fun hmem => absurd hmem hreceived, by simp [hreceived]⟩

/-- The flag is the last command written, reversed by every one lost since. -/
structure FlagFollows (d : Dashboard) : Prop where
  pumpManualOverride : d.pumpManualOverride = false
  pumpEnabled : d.pumpEnabled = (lastWritten d.sent ^^ decide (lostSince d.sent % 2 = 1))

theorem FlagFollows.updatePumpAutomation {d : Dashboard} (hfollows : FlagFollows d) :
    FlagFollows (d.updatePumpAutomation port) := by
  obtain ⟨hoverride, hflag⟩ := hfollows
  obtain ⟨-, hsame⟩ | ⟨-, hdecision, hsent⟩ := updatePumpAutomation_cases port hoverride
  · rw [hsame]
    exact ⟨hoverride, hflag⟩
  · rw [hsent]
    refine ⟨hoverride, ?_⟩
    rw [lastWritten_append, lostSince_append, countLost, pumpCommand_pump]
    have hparity : ∀ n : ℕ, decide ((n + 1) % 2 = 1) = !decide (n % 2 = 1) := by
      intro n
      rcases Nat.mod_two_eq_zero_or_one n with hn | hn <;> simp [hn, Nat.add_mod]
    dsimp only
    rw [hdecision, hflag]
    cases port d.sent.length with
    | false => simp [hparity]
    | true => simp

/-- A payload that is no pump command changes nothing. -/
theorem FlagFollows.handleSendCommand {d : Dashboard} (hfollows : FlagFollows d) {payload : Text}
    (hother : pumpCommand payload = none) : FlagFollows (d.handleSendCommand port payload) := by
  rw [Dashboard.handleSendCommand, syncActuatorStateFromPayload_eq, hother, Option.getD_none]
  refine ⟨hfollows.1, ?_⟩
  rw [Dashboard.sendPayload, lastWritten_append, lostSince_append, countLost, hother]
  simpa using hfollows.2

theorem flagFollows_step {d : Dashboard} (hfollows : FlagFollows d) (event : AutomaticEvent) :
    FlagFollows (d.step port event.event) := by
  cases event with
  | sensorPacket packet =>
      obtain ⟨-, hflag, hoverride, hsent⟩ := keepsPump_readSensorPacket packet d
      apply FlagFollows.updatePumpAutomation
      exact ⟨by rw [hoverride, hfollows.1], by rw [hflag, hsent, hfollows.2]⟩
  | guardSelected index =>
      change FlagFollows (d.selectGuard port index)
      unfold Dashboard.selectGuard
      split
      · exact hfollows
      · have hselected : FlagFollows { d with guardIndex := index } := ⟨hfollows.1, hfollows.2⟩
        have hsent := hselected.handleSendCommand port
          (pumpCommand_other (by decide : (0x70 : UInt8) ≠ 0x20) (plantTypeOptions.get index).1)
        unfold Dashboard.sendSelectedPlantType Dashboard.handlePlantTypeChanged
        apply FlagFollows.updatePumpAutomation
        exact ⟨hsent.1, hsent.2⟩
  | overrideExpired =>
      change FlagFollows (d.clearManualPumpOverride port)
      unfold Dashboard.clearManualPumpOverride
      rw [hfollows.1]
      exact hfollows

theorem automaticSystem_flagFollows : (automaticSystem port).Invariant FlagFollows where
  init := ⟨rfl, rfl⟩
  step _ event hfollows := flagFollows_step port hfollows event

/-! ## Delivery -/

/-- After a packet, once soil moisture was received and if the packet's own write
succeeded, the last command written is the decision of the automation. -/
def Delivered (d : Dashboard) : AutomaticEvent → Prop
  | .sensorPacket packet =>
      let d' := d.handleSensorPacket port packet
      .reading .soilMoisture ∈ d'.receivedSensorTypes →
        (∀ payload ∈ d'.sent.drop d.sent.length, payload.2 = true) →
        lastWritten d'.sent = d'.shouldEnable
  | _ => True

/-- A packet that leaves the automation nothing to do finds an even number of
commands lost since one was written. -/
def LostEven (d : Dashboard) : AutomaticEvent → Prop
  | .sensorPacket packet =>
      let d' := d.readSensorPacket packet
      .reading .soilMoisture ∈ d'.receivedSensorTypes → d'.shouldEnable = d.pumpEnabled →
        lostSince d.sent % 2 = 0
  | _ => True

theorem delivered_iff {d : Dashboard} (hfollows : FlagFollows d) (packet : Packet) :
    Delivered port d (.sensorPacket packet) ↔ LostEven d (.sensorPacket packet) := by
  obtain ⟨-, hflag, hoverride, hsent⟩ := keepsPump_readSensorPacket packet d
  unfold Delivered LostEven Dashboard.handleSensorPacket
  dsimp only
  generalize d.readSensorPacket packet = d' at hflag hoverride hsent ⊢
  obtain ⟨hidle, hsame⟩ | ⟨hreceived, hdecision, hwritten⟩ :=
    updatePumpAutomation_cases port (hoverride.trans hfollows.1)
  · -- nothing is sent, so the flag must follow the last command written
    rw [hsame, hsent, List.drop_length]
    have hflags := hfollows.pumpEnabled
    constructor
    · intro hdelivered hreceived hdecision
      have hlast : lastWritten d.sent = d.pumpEnabled :=
        (hdelivered hreceived (List.forall_mem_nil _)).trans hdecision
      rw [hlast] at hflags
      by_contra hodd
      have hone : lostSince d.sent % 2 = 1 := Nat.mod_two_ne_zero.mp hodd
      simp [hone] at hflags
    · intro heven hreceived _
      have hdecision := (hidle hreceived).trans hflag
      have hzero := heven hreceived hdecision
      rw [hdecision, hflags, hzero]
      simp
  · -- the write makes the decision the last command, whatever was lost before
    rw [hwritten]
    refine iff_of_true ?_ ?_
    · intro _ hsucceeded
      dsimp only at hsucceeded ⊢
      rw [← hsent, List.drop_left] at hsucceeded
      have hport : port d'.sent.length = true := hsucceeded _ (List.mem_singleton_self _)
      rw [lastWritten_append, hport, if_pos rfl, pumpCommand_pump]
      rfl
    · intro _ hequal
      rw [hequal, hflag] at hdecision
      exact absurd hdecision (by simp)

/-- Every packet meets a delivered decision if and only if no packet leaves the
automation nothing to do after an odd number of lost commands. -/
theorem pump_delivered_iff (events : List AutomaticEvent) :
    (automaticSystem port).Along (Delivered port) events ↔
      (automaticSystem port).Along LostEven events := by
  apply (automaticSystem_flagFollows port).along_congr
  intro d event hfollows
  cases event with
  | sensorPacket packet => exact delivered_iff port hfollows packet
  | guardSelected | overrideExpired => exact Iff.rfl

/-- A packet from dry soil. -/
def drySoil : AutomaticEvent := .sensorPacket (.reading .soilMoisture 3 [])

/-- A lost command: the next packet from the dry soil sends nothing. -/
theorem lost_command_not_resent :
    ¬ (automaticSystem fun _ => false).Along (Delivered fun _ => false) [drySoil, drySoil] := by
  rintro ⟨-, hsecond, -⟩
  have hstart : FlagFollows Dashboard.initial := ⟨rfl, rfl⟩
  have hfollows := flagFollows_step (fun _ => false) hstart drySoil
  have heven := (delivered_iff _ hfollows _).mp hsecond
  exact absurd (heven (by decide +kernel) (by decide +kernel)) (by decide +kernel)

end PlantAssistant.Watering
