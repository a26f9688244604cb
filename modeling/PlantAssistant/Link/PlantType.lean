import PlantAssistant.Link.PanelReceive
import PlantAssistant.Link.VisionLink
import PlantAssistant.Panel.Dashboard
import PlantAssistant.Transition.Stamped

/-! # The plant type on either side

The user chooses a type on the panel, the vision module recognises one, and the
firmware reports the one it works with. Commands and reports travel through a
channel each. A report that was generated after the last change brings the two
sides together.
-/

namespace PlantAssistant.Link

open Transition PlantAssistant.Firmware PlantAssistant.Panel PlantAssistant.Vision

/-! ## The firmware -/

/-- What a handler finds in memory: its frame, and behind it anything. -/
def frameIn (bytes : List UInt8) (behind : Memory) : Memory := fun k => bytes.getD k (behind k)

theorem map_frameIn (bytes : List UInt8) (behind : Memory) :
    (List.range bytes.length).map (frameIn bytes behind) = bytes := by
  apply List.ext_getElem
  · simp
  · intro k _ hk
    simp [frameIn, hk]

/-- `PlantTypepack`, as `SendData_to_PlantSoft` fills it in. -/
def plantTypeReport (soilPlantType : ℕ) : List UInt8 :=
  [0xAA, 0x70, UInt8.ofNat soilPlantType, 0x55]

/-- `Soil_PlantType` is one of the three types. -/
def TypeKnown (g : Globals) : Prop := ∃ type : PlantType, g.soilPlantType = type.mode

theorem typeKnown_plantSoftPlantType (value : UInt8) {g : Globals} (hknown : TypeKnown g) :
    TypeKnown (plantSoftPlantType value g) := by
  have hset : ∀ (argument : UInt8) (type : PlantType) (g : Globals), TypeKnown g →
      TypeKnown (if value = argument then { g with soilPlantType := type.mode } else g) := by
    intro argument type g hknown
    split
    · exact ⟨type, rfl⟩
    · exact hknown
  have hshade := hset 0x01 .shade g hknown
  have hhalf := hset 0x02 .halfShade _ hshade
  exact hset 0x03 .sun _ hhalf

theorem typeKnown_ite {c : Prop} [Decidable c] {f : Globals → Globals}
    (hf : ∀ g, TypeKnown g → TypeKnown (f g)) (g : Globals) (hknown : TypeKnown g) :
    TypeKnown (if c then f g else g) := by
  split
  · exact hf g hknown
  · exact hknown

/-- The other commands leave the type as it is. -/
theorem typeKnown_plantSoftCommand (cmd value : UInt8) {g : Globals} (hknown : TypeKnown g) :
    TypeKnown (plantSoftCommand cmd value g) := by
  have hother : ∀ f ∈ [plantSoftMaixMode value, plantSoftWaterCtrl value,
      plantSoftLightCtrl value, plantSoftSystemCtr value],
      ∀ g, TypeKnown g → TypeKnown (f g) := by
    intro f hmem g hknown
    simp only [List.mem_cons, List.not_mem_nil, or_false] at hmem
    rcases hmem with rfl | rfl | rfl | rfl
    all_goals
      simp only [plantSoftMaixMode, plantSoftWaterCtrl, plantSoftLightCtrl, plantSoftSystemCtr]
      split_ifs <;> exact hknown
  unfold plantSoftCommand
  apply typeKnown_ite
  · intro g
    exact typeKnown_plantSoftPlantType value
  apply typeKnown_ite (hother (plantSoftSystemCtr value) (by simp))
  apply typeKnown_ite (hother (plantSoftLightCtrl value) (by simp))
  apply typeKnown_ite (hother (plantSoftWaterCtrl value) (by simp))
  exact typeKnown_ite (hother (plantSoftMaixMode value) (by simp)) g hknown

theorem typeKnown_plantSoftDataProc (data : Memory) (size : ℕ) {g : Globals}
    (hknown : TypeKnown g) : TypeKnown (plantSoftDataProc data size g) := by
  refine plantSoftDataProc_induction ?_ size hknown
  intro g i hknown
  unfold plantSoftStep
  dsimp only
  have hcommand : TypeKnown
      (if data i = plantSoftpackHead1 ∧ data (i + 3) = plantSoftpackTail then
        plantSoftCommand (data (i + 1)) (data (i + 2)) g
      else g) := typeKnown_ite (fun g => typeKnown_plantSoftCommand _ _) g hknown
  split
  · exact hcommand
  · exact hcommand

/-- The vision module's plant packet sets the type. -/
theorem typeKnown_maixcamDataProc (code : PlantCode) (behind : Memory) (g : Globals) :
    TypeKnown (maixcamDataProc (frameIn (sendPlantTypePacket code.code) behind)
      (sendPlantTypePacket code.code).length g) := by
  have hclean : CleanPacket (.plantType code) := trivial
  have hmeaning := maixcamDataProc_bytes hclean
    (frameIn (sendPlantTypePacket code.code) behind) g (map_frameIn _ behind)
  change maixcamDataProc _ (sendPlantTypePacket code.code).length g = _ at hmeaning
  rw [hmeaning]
  cases code with
  | shade => exact ⟨.shade, rfl⟩
  | halfSun => exact ⟨.halfShade, rfl⟩
  | fullSun => exact ⟨.sun, rfl⟩

/-! ## The panel -/

/-- The panel's code and its combo box are those of the firmware's type. -/
def TypesAgree (d : Dashboard) (g : Globals) : Prop :=
  ∃ type : PlantType, g.soilPlantType = type.mode ∧ d.currentPlantTypeCode = type.code ∧
    (plantTypeOptions.get d.guardIndex).1 = type.code

theorem plantType_syncActuatorStateFromPayload (payload : Text) (d : Dashboard) :
    (d.syncActuatorStateFromPayload payload).currentPlantTypeCode = d.currentPlantTypeCode ∧
      (d.syncActuatorStateFromPayload payload).guardIndex = d.guardIndex := by
  unfold Dashboard.syncActuatorStateFromPayload
  split
  · exact ⟨rfl, rfl⟩
  · split_ifs <;> exact ⟨rfl, rfl⟩

/-- The automation does not choose plant types. -/
theorem plantType_updatePumpAutomation (port : SerialPort) (d : Dashboard) :
    (d.updatePumpAutomation port).currentPlantTypeCode = d.currentPlantTypeCode ∧
      (d.updatePumpAutomation port).guardIndex = d.guardIndex := by
  unfold Dashboard.updatePumpAutomation
  split_ifs
  case neg => exact plantType_syncActuatorStateFromPayload _ _
  all_goals exact ⟨rfl, rfl⟩

/-- `_handle_frame`, and the dashboard's slot for what it emits. -/
def receiveFrame (port : SerialPort) (frame : List UInt8) (d : Dashboard) : Dashboard :=
  (handleFrame frame).foldl (fun d packet => d.handleSensorPacket port packet) d

theorem handleFrame_plantTypeReport (soilPlantType : ℕ) :
    handleFrame (plantTypeReport soilPlantType) =
      [.plantType (UInt8.ofNat soilPlantType) (plantTypeText (UInt8.ofNat soilPlantType))
        (hexText (plantTypeReport soilPlantType))] := rfl

theorem plantType_handleSensorPacket (port : SerialPort) (type : PlantType) (text : String)
    (frame : Text) (d : Dashboard) :
    let d' := d.handleSensorPacket port (.plantType type.code text frame)
    d'.currentPlantTypeCode = type.code ∧ (plantTypeOptions.get d'.guardIndex).1 = type.code := by
  intro d'
  obtain ⟨hcode, hindex⟩ := plantType_updatePumpAutomation port
    (d.readSensorPacket (.plantType type.code text frame))
  change d'.currentPlantTypeCode = _ at hcode
  change d'.guardIndex = _ at hindex
  rw [hcode, hindex]
  cases type <;> exact ⟨rfl, rfl⟩

/-- A report of the firmware's type makes the panel show it. -/
theorem typesAgree_receiveFrame (port : SerialPort) (d : Dashboard) {g : Globals}
    (hknown : TypeKnown g) :
    TypesAgree (receiveFrame port (plantTypeReport g.soilPlantType) d) g := by
  obtain ⟨type, htype⟩ := hknown
  refine ⟨type, htype, ?_⟩
  unfold receiveFrame
  rw [handleFrame_plantTypeReport, htype, List.foldl_cons, List.foldl_nil]
  exact plantType_handleSensorPacket port type _ _ d

/-! ## The system -/

/-- A report the panel has processed. -/
structure Processed where
  generatedAt : ℕ
  processedAt : ℕ
deriving DecidableEq, Repr

/-- Both sides and both channels. The last four fields record when things
happened; a change of the type that a report makes is not counted as one. -/
structure PlantLink where
  d : Dashboard := Dashboard.initial
  g : Globals := {}
  commands : List (List UInt8) := []
  reports : List (Stamped (List UInt8)) := []
  now : ℕ := 1
  changedAt : ℕ := 0
  selectedAt : ℕ := 0
  processed : List Processed := []

inductive PlantEvent where
  | guardSelected (index : Fin 3)
  | commandDelivered (behind : Memory)
  | plantPacket (code : PlantCode) (behind : Memory)
  | reportSent
  | reportDelivered

/-- What the panel has written since `d`. A payload that could not be written is
dropped. -/
def written (d d' : Dashboard) : List (List UInt8) :=
  ((d'.sent.drop d.sent.length).filter Prod.snd).map fun payload => payloadBytes payload.1

namespace PlantLink

variable (port : SerialPort)

/-- The firmware's variables are now `g`. -/
def setGlobals (g : Globals) (s : PlantLink) : PlantLink :=
  { s with
    g := g
    changedAt := if g.soilPlantType = s.g.soilPlantType then s.changedAt else s.now
    now := s.now + 1 }

def step (s : PlantLink) : PlantEvent → PlantLink
  | .guardSelected index =>
      let d := s.d.selectGuard port index
      { s with
        d := d
        commands := s.commands ++ written s.d d
        changedAt :=
          if d.currentPlantTypeCode = s.d.currentPlantTypeCode then s.changedAt else s.now
        selectedAt := if d.guardIndex = s.d.guardIndex then s.selectedAt else s.now
        now := s.now + 1 }
  | .commandDelivered behind =>
      match s.commands with
      | [] => s
      | bytes :: commands =>
          { s with commands := commands }.setGlobals
            (plantSoftDataProc (frameIn bytes behind) bytes.length s.g)
  | .plantPacket code behind =>
      let bytes := sendPlantTypePacket code.code
      s.setGlobals (maixcamDataProc (frameIn bytes behind) bytes.length s.g)
  | .reportSent =>
      { s with
        reports := s.reports ++ [⟨plantTypeReport s.g.soilPlantType, s.now⟩]
        now := s.now + 1 }
  | .reportDelivered =>
      match s.reports with
      | [] => s
      | report :: reports =>
          let d := receiveFrame port report.value s.d
          { s with
            d := d
            commands := s.commands ++ written s.d d
            reports := reports
            processed := s.processed ++ [⟨report.takenAt, s.now⟩]
            now := s.now + 1 }

end PlantLink

def plantSystem (port : SerialPort) : System PlantLink PlantEvent where
  init := {}
  step := PlantLink.step port

/-- The reports under way show the firmware's type unless it has changed since,
none of them is older than one processed before, and after a report of the type
as it is the two sides agree. -/
structure PlantLinkInv (s : PlantLink) : Prop where
  known : TypeKnown s.g
  underway : Underway (plantTypeReport s.g.soilPlantType) s.changedAt s.now s.reports
  ordered : ∀ p ∈ s.processed, ∀ report ∈ s.reports, p.generatedAt ≤ report.takenAt
  past : ∀ p ∈ s.processed, p.generatedAt < s.now ∧ p.processedAt < s.now
  agree : ∀ p ∈ s.processed, s.changedAt < p.generatedAt → s.selectedAt < p.processedAt →
    TypesAgree s.d s.g

theorem PlantLinkInv.past_later {s : PlantLink} (hinv : PlantLinkInv s) :
    ∀ p ∈ s.processed, p.generatedAt < s.now + 1 ∧ p.processedAt < s.now + 1 := by
  intro p hmem
  obtain ⟨hgenerated, hprocessed⟩ := hinv.past p hmem
  exact ⟨Nat.lt_succ_of_lt hgenerated, Nat.lt_succ_of_lt hprocessed⟩

/-- The firmware acts, and the panel does not. -/
theorem PlantLinkInv.setGlobals {s : PlantLink} (hinv : PlantLinkInv s) {g : Globals}
    (hknown : TypeKnown g) : PlantLinkInv (s.setGlobals g) where
  known := hknown
  underway := by
    apply hinv.underway.step
    by_cases hsame : g.soilPlantType = s.g.soilPlantType
    · refine .inl ⟨congrArg plantTypeReport hsame, ?_⟩
      exact le_of_eq (if_pos hsame).symm
    · exact .inr (le_of_eq (if_neg hsame).symm)
  ordered := hinv.ordered
  past := hinv.past_later
  agree := by
    intro p hmem hgenerated hprocessed
    dsimp only [PlantLink.setGlobals] at hgenerated hprocessed ⊢
    by_cases hsame : g.soilPlantType = s.g.soilPlantType
    · rw [if_pos hsame] at hgenerated
      obtain ⟨type, htype, hpanel⟩ := hinv.agree p hmem hgenerated hprocessed
      exact ⟨type, hsame.trans htype, hpanel⟩
    · rw [if_neg hsame] at hgenerated
      have hpast := (hinv.past p hmem).1
      omega

theorem PlantLinkInv.guardSelected {s : PlantLink} (hinv : PlantLinkInv s) (port : SerialPort)
    (index : Fin 3) : PlantLinkInv (s.step port (.guardSelected index)) where
  known := hinv.known
  underway := by
    apply hinv.underway.step
    dsimp only [PlantLink.step]
    split
    · exact .inl ⟨rfl, le_refl _⟩
    · exact .inr (le_refl _)
  ordered := hinv.ordered
  past := hinv.past_later
  agree := by
    intro p hmem hgenerated hprocessed
    have hpast := hinv.past p hmem
    dsimp only [PlantLink.step] at hgenerated hprocessed ⊢
    -- a choice that moved the combo box or the code is newer than every report
    split at hgenerated
    next hcode =>
      split at hprocessed
      next hindex =>
        obtain ⟨type, htype, hpanel, hcombo⟩ := hinv.agree p hmem hgenerated hprocessed
        exact ⟨type, htype, hcode.trans hpanel, by rw [hindex, hcombo]⟩
      next => omega
    next => omega

theorem PlantLinkInv.reportSent {s : PlantLink} (hinv : PlantLinkInv s) (port : SerialPort) :
    PlantLinkInv (s.step port .reportSent) where
  known := hinv.known
  underway := hinv.underway.append
  ordered := by
    intro p hmem report hreport
    rcases List.mem_append.mp hreport with hold | hnew
    · exact hinv.ordered p hmem report hold
    · rw [List.mem_singleton.mp hnew]
      exact Nat.le_of_lt (hinv.past p hmem).1
  past := hinv.past_later
  agree := hinv.agree

/-- The panel processes the oldest report under way. -/
theorem PlantLinkInv.reportDelivered {s : PlantLink} (hinv : PlantLinkInv s) (port : SerialPort)
    {report : Stamped (List UInt8)} {reports : List (Stamped (List UInt8))}
    (hreports : s.reports = report :: reports) :
    PlantLinkInv (s.step port .reportDelivered) := by
  have hunderway := hinv.underway
  rw [hreports] at hunderway
  have hpast := hunderway.past report List.mem_cons_self
  simp only [PlantLink.step, hreports]
  refine ⟨hinv.known, ?_, ?_, ?_, ?_⟩
  · exact hunderway.tail.step (.inl ⟨rfl, le_refl _⟩)
  · intro p hmem later hlater
    rcases List.mem_append.mp hmem with hold | hnew
    · exact hinv.ordered p hold later (hreports ▸ List.mem_cons_of_mem report hlater)
    · rw [List.mem_singleton.mp hnew]
      exact hunderway.head_le hlater
  · intro p hmem
    rcases List.mem_append.mp hmem with hold | hnew
    · exact hinv.past_later p hold
    · rw [List.mem_singleton.mp hnew]
      exact ⟨Nat.lt_succ_of_lt hpast, Nat.lt_succ_self _⟩
  · intro p hmem hgenerated _
    -- this report is at least as new as any processed before it
    have hnewer : s.changedAt < report.takenAt := by
      rcases List.mem_append.mp hmem with hold | hnew
      · have hle := hinv.ordered p hold report (hreports ▸ List.mem_cons_self)
        exact lt_of_lt_of_le hgenerated hle
      · rwa [List.mem_singleton.mp hnew] at hgenerated
    have hvalue := hunderway.current report List.mem_cons_self hnewer
    rw [hvalue]
    exact typesAgree_receiveFrame port s.d hinv.known

theorem plantSystem_invariant (port : SerialPort) : (plantSystem port).Invariant PlantLinkInv where
  init := {
    known := ⟨.shade, rfl⟩
    underway := .nil
    ordered := by simp [plantSystem]
    past := by simp [plantSystem]
    agree := by simp [plantSystem] }
  step s event hinv := by
    cases event with
    | guardSelected index => exact hinv.guardSelected port index
    | commandDelivered behind =>
        change PlantLinkInv (s.step port (.commandDelivered behind))
        cases hcommands : s.commands with
        | nil =>
            have hidle : s.step port (.commandDelivered behind) = s := by
              simp only [PlantLink.step, hcommands]
            rwa [hidle]
        | cons bytes commands =>
            have hkept : PlantLinkInv { s with commands := commands } :=
              ⟨hinv.known, hinv.underway, hinv.ordered, hinv.past, hinv.agree⟩
            simp only [PlantLink.step, hcommands]
            exact hkept.setGlobals (typeKnown_plantSoftDataProc _ _ hinv.known)
    | plantPacket code behind =>
        exact hinv.setGlobals (typeKnown_maixcamDataProc code behind s.g)
    | reportSent => exact hinv.reportSent port
    | reportDelivered =>
        change PlantLinkInv (s.step port .reportDelivered)
        cases hreports : s.reports with
        | nil =>
            have hidle : s.step port .reportDelivered = s := by
              simp only [PlantLink.step, hreports]
            rwa [hidle]
        | cons report reports => exact hinv.reportDelivered port hreports

/-! ## Agreement -/

/-- No command is in flight, and the panel has processed a report generated
after the last change of the type, with no choice of the user since. -/
structure Settled (s : PlantLink) : Prop where
  noneInFlight : s.commands = []
  reported : ∃ p ∈ s.processed, s.changedAt < p.generatedAt ∧ s.selectedAt < p.processedAt

/-- In every settled state the panel's code, its combo box and the firmware have
the same plant type. -/
theorem plant_types_agree (port : SerialPort) (events : List PlantEvent)
    (hsettled : Settled ((plantSystem port).run events)) :
    TypesAgree ((plantSystem port).run events).d ((plantSystem port).run events).g := by
  obtain ⟨p, hmem, hgenerated, hprocessed⟩ := hsettled.reported
  exact ((plantSystem_invariant port).run events).agree p hmem hgenerated hprocessed

/-- The user chooses a plant that needs sun, and the firmware reports it back. -/
def sunChosen : List PlantEvent :=
  [.guardSelected (Fin.last 2), .commandDelivered fun _ => 0, .reportSent, .reportDelivered]

theorem plant_types_agree_sun :
    TypesAgree ((plantSystem fun _ => true).run sunChosen).d
      ((plantSystem fun _ => true).run sunChosen).g :=
  plant_types_agree (fun _ => true) sunChosen
    ⟨by decide +kernel, ⟨3, 4⟩, by decide +kernel, by decide +kernel⟩

end PlantAssistant.Link
