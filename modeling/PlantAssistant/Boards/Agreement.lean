import PlantAssistant.Boards.TwoBoards
import PlantAssistant.Link.VisionLink

/-! # What the two boards know of each other

In every interleaving the firmware has the leaf state and the light position of
the packets that have reached it completely, and the script is in the mode of
the last command that has reached it.
-/

namespace PlantAssistant.Boards

open Framing Transition PlantAssistant.Control PlantAssistant.Firmware PlantAssistant.Link
open PlantAssistant.Motion PlantAssistant.Vision

/-! ## What only the vision module tells -/

/-- The state of the leaves and the position of the light. -/
def reports (g : Globals) : UInt8 × ℕ × ℕ := (g.bladeState, g.sourceX, g.sourceY)

theorem reports_meaning (packet : Packet) {g g' : Globals} (hsame : reports g = reports g') :
    reports (meaning packet g) = reports (meaning packet g') := by
  simp only [reports, Prod.mk.injEq] at hsame
  obtain ⟨hstate, hx, hy⟩ := hsame
  cases packet with
  | lightCenter x y => exact congrArg (fun state => (state, clampWord x, clampWord y)) hstate
  | lightNotFound | plantType =>
      change (g.bladeState, g.sourceX, g.sourceY) = (g'.bladeState, g'.sourceX, g'.sourceY)
      rw [hstate, hx, hy]
  | state stateId =>
      change (packByte stateId, g.sourceX, g.sourceY) = (packByte stateId, g'.sourceX, g'.sourceY)
      rw [hx, hy]

theorem reports_foldl (packets : List Packet) {g g' : Globals} (hsame : reports g = reports g') :
    reports (packets.foldl (fun g packet => meaning packet g) g) =
      reports (packets.foldl (fun g packet => meaning packet g) g') := by
  induction packets generalizing g g' with
  | nil => exact hsame
  | cons packet packets ih => exact ih (reports_meaning packet hsame)

theorem reports_plantSoftDataProc (data : Memory) (size : ℕ) (g : Globals) :
    reports (plantSoftDataProc data size g) = reports g := by
  have hmode (value : UInt8) (g : Globals) : reports (plantSoftMaixMode value g) = reports g := by
    unfold plantSoftMaixMode
    dsimp only
    split_ifs <;> rfl
  refine plantSoftDataProc_induction (P := fun g' => reports g' = reports g) ?_ size rfl
  intro g' i hsame
  have hcommand : reports (if data i = plantSoftpackHead1 ∧ data (i + 3) = plantSoftpackTail then
      plantSoftCommand (data (i + 1)) (data (i + 2)) g' else g') = reports g' := by
    split
    · have hview : reports (plantSoftCommand (data (i + 1)) (data (i + 2)) g') = reports _ :=
        view_plantSoftCommand (fun _ _ _ _ _ => rfl) _ _ g'
      rw [hview]
      split
      · exact hmode _ g'
      · rfl
    · rfl
  unfold plantSoftStep
  dsimp only
  split <;> exact hcommand.trans hsame

section Firmware

variable {F : Type} [CFloat F] {powf : F → F → F}

/-- Nothing but the vision module's packets changes what they report. -/
theorem reports_step (s : Controller F) {event : ControlEvent}
    (hother : ∀ data size, event ≠ .maixcam data size) :
    reports (s.step powf event).car.toGlobals = reports s.car.toGlobals := by
  cases event with
  | plantSoft data size => exact reports_plantSoftDataProc data size _
  | maixcam data size => exact absurd rfl (hother data size)
  | hwt101 | vl53 | exti | buzzer => rfl
  | call reads =>
      have hkeeps : SportKeeps reports := fun _ _ _ _ => rfl
      change reports (s.perform powf reads s.next).car.toGlobals = _
      cases s.next
      case maixCamSport => exact hkeeps.tick s.car
      all_goals rfl

end Firmware

/-! ## The packets of the script -/

/-- A packet that says where in an image of this size the light is. -/
def Within (width height : ℕ) : Packet → Prop
  | .lightCenter x y => 0 ≤ x ∧ x ≤ width ∧ 0 ≤ y ∧ y ≤ height
  | _ => True

theorem hiByte_lt {word : ℕ} (hlt : word < 0xA300) : hiByte word < 0xA3 := by
  have hbyte : (word >>> 8) &&& 0xff = word / 256 := by
    rw [Nat.shiftRight_eq_div_pow, Nat.and_two_pow_sub_one_eq_mod _ 8, Nat.mod_eq_of_lt]
    omega
  rw [hiByte, hbyte, UInt8.lt_iff_toNat_lt, UInt8.toNat_ofNat', Nat.mod_eq_of_lt (by omega)]
  change word / 256 < 163
  omega

/-- In an image that is not too large all coordinates are clean. -/
theorem cleanPacket_of_within {width height : ℕ} (hwidth : width < 0xA300)
    (hheight : height < 0xA300) {packet : Packet} (hwithin : Within width height packet) :
    CleanPacket packet := by
  cases packet with
  | lightCenter x y =>
      obtain ⟨hx, hx', hy, hy'⟩ := hwithin
      have hhix : hiByte (clampWord x) < 0xA3 := hiByte_lt (by unfold clampWord; omega)
      have hhiy : hiByte (clampWord y) < 0xA3 := hiByte_lt (by unfold clampWord; omega)
      change ¬ SpellsPacket _ _ _ _
      generalize hiByte (clampWord x) = d2 at hhix ⊢
      generalize hiByte (clampWord y) = d4 at hhiy ⊢
      -- each of the sequences needs a high byte from 0xA3 on
      rintro (⟨rfl, -⟩ | ⟨-, rfl | rfl | ⟨rfl, -⟩ | ⟨rfl, -⟩⟩ | ⟨rfl, -⟩)
      · exact absurd hhix (by decide)
      all_goals exact absurd hhiy (by decide)
  | lightNotFound | state | plantType => trivial

section Script

variable {width height : ℕ}

theorem within_frame (loop : ModeLoop) (view : View width height) :
    ∀ packet ∈ (loop.frame view).2, Within width height packet := by
  cases loop with
  | plant loop =>
      intro packet hpacket
      obtain ⟨state, -, rfl⟩ := Option.map_eq_some_iff.mp hpacket
      trivial
  | light loop =>
      intro packet hpacket
      change packet ∈ (loop.frame view.center view.nowMs).2 at hpacket
      unfold LightLoop.frame at hpacket
      split at hpacket
      next cx cy hcenter =>
        split at hpacket
        · obtain ⟨region, -, hregion⟩ := Option.map_eq_some_iff.mp hcenter
          obtain ⟨hx, hy⟩ := region.center_le
          rw [hregion] at hx hy
          cases hpacket
          exact ⟨Int.natCast_nonneg _, Int.ofNat_le.mpr hx, Int.natCast_nonneg _,
            Int.ofNat_le.mpr hy⟩
        · cases hpacket
      next =>
        split at hpacket
        · cases hpacket
          trivial
        · cases hpacket

theorem sent_send (s : Script) {packets : Option Packet} (nowMs : ℤ) (sendOk : Bool)
    (hwithin : ∀ packet ∈ packets, Within width height packet) :
    ∃ more, (s.send packets nowMs sendOk).sent = s.sent ++ more ∧
      ∀ report ∈ more, Within width height report.packet := by
  refine ⟨_, rfl, fun report hreport => ?_⟩
  split at hreport
  · obtain ⟨packet, hpacket, rfl⟩ := List.mem_map.mp hreport
    exact hwithin packet (Option.mem_toList.mp hpacket)
  · cases hreport

/-- An action of the script adds to what it has sent. -/
theorem sent_step (s : Script) (event : ScriptEvent width height) :
    ∃ more, (s.step event).sent = s.sent ++ more ∧
      ∀ report ∈ more, Within width height report.packet := by
  have hnothing : ∃ more, s.sent = s.sent ++ more ∧
      ∀ report ∈ more, Within width height report.packet :=
    ⟨[], (List.append_nil _).symm, nofun⟩
  unfold Script.step
  split
  · split
    · dsimp only
      split
      · refine sent_send s _ _ fun packet hpacket => ?_
        cases hpacket
        trivial
      · exact hnothing
    · exact hnothing
  · split
    · split
      · exact hnothing
      · split <;> exact hnothing
    · exact hnothing
  · split
    next loop _ => exact sent_send s _ _ (within_frame loop _)
    next => exact hnothing

theorem within_invariant : (scriptSystem width height).Invariant fun s =>
    ∀ report ∈ s.sent, Within width height report.packet where
  init := nofun
  step s event hwithin := by
    obtain ⟨more, hsent, hmore⟩ := sent_step s event
    change ∀ report ∈ (s.step event).sent, Within width height report.packet
    rw [hsent]
    intro report hreport
    rcases List.mem_append.mp hreport with hold | hnew
    · exact hwithin report hold
    · exact hmore report hnew

end Script

/-! ## Either board on its own -/

section Boards

variable {F : Type} [CFloat F] (powf : F → F → F) (clock : UInt32) {width height : ℕ}

/-- What the script does in a step of the boards. -/
def scriptPart : Simulation (boardsSystem F powf clock width height)
    (scriptSystem width height) where
  related s script := s.script = script
  events s
    | .touch tp nowMs nowMs' sendOk => [.touch tp nowMs nowMs' sendOk]
    | .poll sizes =>
        match s.script.phase with
        | .running loop point =>
            if point = .reporting then []
            else [.poll (recvModeSwitch recvNext loop.mode ((s.rx, s.toScript), sizes)).1]
        | .selecting _ => []
    | .frame view => [.frame view]
    | _ => []
  init := rfl
  step s script event hrelated := by
    subst hrelated
    cases event with
    | touch | frame | uart4Read => rfl
    | control event => cases event <;> rfl
    | poll sizes =>
        change (match s.script.phase with
          | .running loop point => _
          | .selecting _ => _ : TwoBoards F).script = _
        dsimp only
        split
        · split <;> rfl
        · rfl

/-- What every call of the handler keeps, a read keeps. -/
theorem rxEntry_keeps {σ : Type} (dataProc : Memory → ℕ → σ → σ) (property : σ → Prop)
    (hkeeps : ∀ data size s, property s → property (dataProc data size s)) (b : RxBuffer) (s : σ)
    (chunk : List UInt8) (hs : property s) :
    property (uart4Port.rxEntry dataProc (b, s) chunk).2 := by
  have hparse (b : RxBuffer) (i : ℕ) (s : σ) :
      property s → property (uart4Port.tryParseFrom dataProc b i s).2 := by
    induction b, i, s using uart4Port.tryParse_induction dataProc with
    | skip b i s _ _ hloop ih =>
        rw [hloop]
        exact ih
    | accept b i s size _ _ hloop ih =>
        rw [hloop]
        exact fun hs => ih (hkeeps _ _ _ hs)
    | wait b i s _ hloop | stop b i s _ _ hloop =>
        rw [hloop]
        exact id
  unfold Port.rxEntry
  split
  · exact hparse _ _ _ hs
  · exact hs

/-- A state of the firmware on its own. -/
def Reached (firmware : Controller F) : Prop :=
  ∃ controls, firmware = (controlSystem F powf clock).run controls

theorem Reached.step {firmware : Controller F} (hreached : Reached powf clock firmware)
    (event : ControlEvent) : Reached powf clock (firmware.step powf event) := by
  obtain ⟨controls, rfl⟩ := hreached
  refine ⟨controls ++ [event], ?_⟩
  rw [System.run_concat]
  rfl

theorem reached_invariant : (boardsSystem F powf clock width height).Invariant fun s =>
    Reached powf clock s.firmware where
  init := ⟨[], rfl⟩
  step s event hreached := by
    cases event with
    | touch | frame => exact hreached
    | uart4Read size =>
        exact rxEntry_keeps (TwoBoards.maixcam powf) (Reached powf clock)
          (fun data size firmware hfirmware => hfirmware.step powf clock (.maixcam data size))
          s.uart4 s.firmware _ hreached
    | control event =>
        cases event with
        | maixcam => exact hreached
        | plantSoft data size => exact hreached.step powf clock (.plantSoft data size)
        | hwt101 data => exact hreached.step powf clock (.hwt101 data)
        | vl53 data size => exact hreached.step powf clock (.vl53 data size)
        | exti pin level nowCycle => exact hreached.step powf clock (.exti pin level nowCycle)
        | buzzer => exact hreached.step powf clock .buzzer
        | call reads => exact hreached.step powf clock (.call reads)
    | poll sizes =>
        change Reached powf clock (match s.script.phase with
          | .running loop point => _
          | .selecting _ => _ : TwoBoards F).firmware
        dsimp only
        split
        · split <;> exact hreached
        · exact hreached

/-! ## From the script to the firmware -/

/-- `handled` are the packets that have arrived completely, and have been taken
into account once each; `pending` are those of which bytes are still missing. -/
structure Delivers (s : TwoBoards F) (handled pending : List Packet) : Prop where
  sent : s.script.sent.map Report.packet = handled ++ pending
  stream : s.uart4.content ++ s.toFirmware = (pending.map Packet.bytes).flatten
  head : ∀ packet ∈ pending.head?, s.uart4.length < packet.bytes.length
  reported : reports s.firmware.car.toGlobals =
    reports (handled.foldl (fun g packet => meaning packet g) {})

variable {powf}

theorem bytes_length_pos (packet : Packet) : 0 < packet.bytes.length :=
  (framed_packet packet).length_pos

omit [CFloat F] in
/-- With nothing on the way, nothing is pending. -/
theorem Delivers.pending_nil {s : TwoBoards F} {handled pending : List Packet}
    (hdelivers : Delivers s handled pending) (hread : s.toFirmware = []) : pending = [] := by
  cases pending with
  | nil => rfl
  | cons packet rest =>
      have hshort := hdelivers.head packet rfl
      have hlength := congrArg List.length hdelivers.stream
      rw [hread, List.append_nil, RxBuffer.length_content, List.map_cons, List.flatten_cons,
        List.length_append] at hlength
      omega

omit [CFloat F] in
theorem Delivers.act {s : TwoBoards F} {handled pending : List Packet}
    (hdelivers : Delivers s handled pending) (event : ScriptEvent width height) :
    ∃ pending', Delivers (s.act event) handled pending' := by
  obtain ⟨more, hsent, -⟩ := sent_step s.script event
  refine ⟨pending ++ more.map Report.packet, ?_, ?_, ?_, hdelivers.reported⟩
  · change (s.script.step event).sent.map Report.packet = _
    rw [hsent, List.map_append, hdelivers.sent, List.append_assoc]
  · change s.uart4.content ++ (s.toFirmware ++ reportBytes (s.script.step event) _) = _
    rw [reportBytes, hsent, List.drop_left, ← List.append_assoc, hdelivers.stream, List.map_append,
      List.flatten_append, List.map_map]
    rfl
  · change ∀ packet ∈ (pending ++ more.map Report.packet).head?, s.uart4.length < _
    cases hpending : pending with
    | nil =>
        have hlength := congrArg List.length hdelivers.stream
        rw [hpending, List.length_append, RxBuffer.length_content] at hlength
        have hzero : s.uart4.length = 0 := Nat.eq_zero_of_add_eq_zero_right hlength
        intro packet _
        rw [hzero]
        exact bytes_length_pos packet
    | cons packet rest =>
        rw [hpending] at hdelivers
        exact hdelivers.head

theorem Delivers.control {s : TwoBoards F} {handled pending : List Packet}
    (hdelivers : Delivers s handled pending) {event : ControlEvent}
    (hother : ∀ data size, event ≠ .maixcam data size) :
    Delivers (s.control powf event) handled pending :=
  ⟨hdelivers.sent, hdelivers.stream, hdelivers.head,
    (reports_step s.firmware hother).trans hdelivers.reported⟩

variable (powf)

/-- The handler, on the bytes of a clean packet wherever they stand. -/
theorem maixcam_bytes {packet : Packet} (hclean : CleanPacket packet) (data : Memory)
    (firmware : Controller F) (hdata : (List.range packet.bytes.length).map data = packet.bytes) :
    (TwoBoards.maixcam powf data packet.bytes.length firmware) =
      { firmware with
        car := { firmware.car with toGlobals := meaning packet firmware.car.toGlobals } } := by
  unfold TwoBoards.maixcam Controller.step
  dsimp only
  rw [maixcamDataProc_bytes hclean data _ hdata]

theorem reports_handled (handled : List Packet) (firmware : Controller F)
    {frames : List (List UInt8)} (hframes : frames = handled.map Packet.bytes)
    (hclean : ∀ packet ∈ handled, CleanPacket packet) :
    reports (frames.foldl (fun firmware frame =>
      TwoBoards.maixcam powf (RxBuffer.ofList frame).bytes frame.length firmware) firmware
        ).car.toGlobals =
      reports (handled.foldl (fun g packet => meaning packet g) firmware.car.toGlobals) := by
  subst hframes
  induction handled generalizing firmware with
  | nil => rfl
  | cons packet handled ih =>
      have hfirst := maixcam_bytes powf (hclean packet List.mem_cons_self)
        (RxBuffer.ofList packet.bytes).bytes firmware (RxBuffer.content_ofList packet.bytes)
      rw [List.map_cons, List.foldl_cons, hfirst,
        ih _ fun packet hpacket => hclean packet (List.mem_cons_of_mem _ hpacket)]
      rfl

/-- A read that fits into the buffer. -/
theorem Delivers.read {s : TwoBoards F} {handled pending : List Packet}
    (hdelivers : Delivers s handled pending)
    (hclean : ∀ report ∈ s.script.sent, CleanPacket report.packet) {size : ℕ} (hsize : size ≤ 394) :
    ∃ handled' pending', Delivers (s.read powf size) handled' pending' := by
  have hcleanAll : ∀ packet ∈ handled ++ pending, CleanPacket packet := by
    intro packet hpacket
    rw [← hdelivers.sent] at hpacket
    obtain ⟨report, hreport, rfl⟩ := List.mem_map.mp hpacket
    exact hclean report hreport
  have hshort : s.uart4.length ≤ 6 := by
    cases hpending : pending with
    | nil =>
        have hlength := congrArg List.length hdelivers.stream
        rw [hpending, List.length_append, RxBuffer.length_content] at hlength
        have hzero : s.uart4.length = 0 := Nat.eq_zero_of_add_eq_zero_right hlength
        omega
    | cons packet rest =>
        have hhead := hdelivers.head packet (by rw [hpending]; rfl)
        have hle := length_bytes_le packet
        omega
  have hfits : s.uart4.length + (s.toFirmware.take size).length ≤ uartMaxLen := by
    have hmax : uartMaxLen = 400 := rfl
    rw [List.length_take]
    omega
  have hframed : ∀ frame ∈ pending.map Packet.bytes, uart4Port.rule.Framed frame := by
    intro frame hframe
    obtain ⟨packet, -, rfl⟩ := List.mem_map.mp hframe
    exact framed_packet packet
  have hstart : ∀ frame ∈ (pending.map Packet.bytes).head?, s.uart4.length < frame.length := by
    intro frame hframe
    rw [List.head?_map] at hframe
    obtain ⟨packet, hpacket, rfl⟩ := Option.map_eq_some_iff.mp hframe
    exact hdelivers.head packet hpacket
  have hstream := hdelivers.stream
  rw [← List.take_append_drop size s.toFirmware] at hstream
  have hread := uart4Port.rxEntry_framed (TwoBoards.maixcam powf)
    (fun frame firmware =>
      TwoBoards.maixcam powf (RxBuffer.ofList frame).bytes frame.length firmware) hframed
    (fun frame hframe data firmware hdata => by
      obtain ⟨packet, hpacket, rfl⟩ := List.mem_map.mp hframe
      have hcleanOne := hcleanAll packet (List.mem_append_right _ hpacket)
      rw [maixcam_bytes powf hcleanOne data firmware hdata,
        maixcam_bytes powf hcleanOne _ firmware (RxBuffer.content_ofList packet.bytes)])
    s.firmware hfits hstart hstream
  dsimp only at hread
  obtain ⟨frames, frames', hframes, hstream, hhead, hfirmware⟩ := hread
  obtain ⟨more, pending', hsplit, hmore, hpending'⟩ := List.map_eq_append_iff.mp hframes
  refine ⟨handled ++ more, pending', ?_, ?_, ?_, ?_⟩
  · rw [List.append_assoc, ← hsplit]
    exact hdelivers.sent
  · rw [hpending']
    exact hstream
  · intro packet hpacket
    refine hhead packet.bytes ?_
    rw [← hpending', List.head?_map, Option.mem_def.mp hpacket]
    rfl
  · have hreports := reports_handled powf more s.firmware hmore.symm fun packet hpacket =>
      hcleanAll packet (by rw [hsplit]; simp [hpacket])
    rw [← hfirmware] at hreports
    refine hreports.trans ?_
    rw [List.foldl_append]
    exact reports_foldl more hdelivers.reported

/-! ## From the firmware to the script -/

def scriptMode (s : Script) : Mode :=
  match s.phase with
  | .running loop _ => loop.mode
  | .selecting _ => defaultMode

theorem mode_enter (s : Script) (code : Mode) : scriptMode (s.enter code) = code := by
  cases code <;> rfl

/-- Touches and frames leave the mode. -/
theorem mode_step_of_touch (s : Script) (tp : Option Touch) (nowMs nowMs' : ℤ) (sendOk : Bool) :
    scriptMode (s.step (.touch tp nowMs nowMs' sendOk : ScriptEvent width height)) =
      scriptMode s := by
  cases hphase : s.phase with
  | running loop point =>
      unfold Script.step
      simp only [hphase]
  | selecting selection =>
      have hmode : scriptMode s = defaultMode := by rw [scriptMode, hphase]
      rw [hmode]
      obtain ⟨code, -, hstep⟩ | hstep := Script.step_touch hphase tp nowMs nowMs' sendOk
      · rw [hstep]
        exact mode_enter _ _
      · rw [hstep]
        rfl

theorem mode_step_of_frame (s : Script) (view : View width height) :
    scriptMode (s.step (.frame view)) = scriptMode s := by
  obtain ⟨phase, _, _⟩ := s
  cases phase with
  | selecting => rfl
  | running loop point =>
      cases point with
      | reporting => cases loop <;> rfl
      | _ => rfl

/-- A poll at its place changes to the mode it finds. -/
theorem mode_step_of_poll {s : Script} {loop : ModeLoop} {point : Point}
    (hphase : s.phase = .running loop point) (hpoint : point ≠ .reporting) (code : Option Mode) :
    scriptMode (s.step (.poll code : ScriptEvent width height)) = code.getD loop.mode := by
  rw [Script.step_poll hphase, if_neg hpoint]
  cases code with
  | none => rfl
  | some code => exact mode_enter _ _

section Poll

variable {σ τ : Type}

/-- A poll loop sees nothing of a state but what its receiver sees. -/
theorem pollMode_map {recv : σ → Option Mode × σ} {recv' : τ → Option Mode × τ} (f : σ → τ)
    (hrecv : ∀ ser, recv' (f ser) = ((recv ser).1, f (recv ser).2)) (currentMode : Mode)
    (remaining : ℕ) (ser : σ) :
    pollMode recv' currentMode remaining (f ser) =
      ((pollMode recv currentMode remaining ser).1,
        f (pollMode recv currentMode remaining ser).2) := by
  induction remaining generalizing ser with
  | zero => rfl
  | succ remaining ih =>
      unfold pollMode
      rw [hrecv]
      obtain ⟨code, ser'⟩ := recv ser
      cases code with
      | none => rfl
      | some code =>
          dsimp only
          split
          · rfl
          · exact ih ser'

theorem pollMode_keeps {recv : σ → Option Mode × σ} (f : σ → τ)
    (hrecv : ∀ ser, f (recv ser).2 = f ser) (currentMode : Mode) (remaining : ℕ) (ser : σ) :
    f (pollMode recv currentMode remaining ser).2 = f ser := by
  induction remaining generalizing ser with
  | zero => rfl
  | succ remaining ih =>
      have hone := hrecv ser
      unfold pollMode
      generalize recv ser = out at hone ⊢
      obtain ⟨code, ser'⟩ := out
      cases code with
      | none => exact hone
      | some code =>
          dsimp only
          split
          · exact hone
          · exact (ih ser').trans hone

end Poll

/-- The script's side of the link. -/
def scriptSide (ser : ModeLink × List ℕ) : (ModeRx × List UInt8) × List ℕ :=
  ((ser.1.rx, ser.1.wire), ser.2)

theorem recvNext_scriptSide (ser : ModeLink × List ℕ) :
    recvNext (scriptSide ser) =
      ((ModeLink.pollNext ser).1, scriptSide (ModeLink.pollNext ser).2) := by
  obtain ⟨link, sizes⟩ := ser
  unfold recvNext ModeLink.pollNext ModeLink.poll scriptSide
  dsimp only
  cases link.rx.rxModeQueue <;> rfl

/-- The firmware's side, which polls leave alone. -/
def firmwareSide (ser : ModeLink × List ℕ) : ℕ × List Mode × Mode :=
  (ser.1.cnt, ser.1.sent, ser.1.mode)

theorem firmwareSide_pollNext (ser : ModeLink × List ℕ) :
    firmwareSide (ModeLink.pollNext ser).2 = firmwareSide ser := by
  unfold ModeLink.pollNext ModeLink.poll firmwareSide
  dsimp only
  split <;> rfl

/-- The boards and the link between them, as it was looked at on its own. -/
structure Linked (s : TwoBoards F) (link : ModeLink) : Prop where
  cnt : link.cnt = s.firmware.modeCnt
  wire : link.wire = s.toScript
  rx : link.rx = s.rx
  mode : link.mode = scriptMode s.script
  sent : s.firmware.uart4Sent = link.sent.flatMap modeFrame

theorem Linked.call {s : TwoBoards F} {link : ModeLink} (hlinked : Linked s link) (reads : Reads)
    (hnext : s.firmware.next = .maixcamSetMode) :
    Linked (s.control powf (.call reads))
      (modeSystem.step link (.setMode s.firmware.car.maixModeFlag)) := by
  obtain ⟨hcnt, hwire, hrx, hmode, hsent⟩ := hlinked
  have hstep : s.firmware.step powf (.call reads) =
      { s.firmware.perform powf reads .maixcamSetMode with next := .lightContral } := by
    change { s.firmware.perform powf reads s.firmware.next with next := s.firmware.next.next } = _
    rw [hnext]
    rfl
  refine ⟨?_, ?_, hrx, hmode, ?_⟩
  · change _ = (s.firmware.step powf (.call reads)).modeCnt
    rw [hstep]
    change (maixcamSetMode _ link.cnt).1 = (maixcamSetMode _ s.firmware.modeCnt).1
    rw [hcnt]
  · change link.wire ++ _ = s.toScript ++
      (s.firmware.step powf (.call reads)).uart4Sent.drop s.firmware.uart4Sent.length
    rw [hstep]
    change link.wire ++ (maixcamSetMode _ link.cnt).2 = s.toScript ++
      (s.firmware.uart4Sent ++ (maixcamSetMode _ s.firmware.modeCnt).2).drop _
    rw [List.drop_left, hwire, hcnt]
  · change (s.firmware.step powf (.call reads)).uart4Sent = _
    rw [hstep]
    change s.firmware.uart4Sent ++ (maixcamSetMode _ s.firmware.modeCnt).2 =
      (link.sent ++
        if (maixcamSetMode _ link.cnt).2 = [] then [] else sentModes _).flatMap modeFrame
    rw [List.flatMap_append, ← maixcamSetMode_bytes, hsent, hcnt]

/-- The firmware's other steps send nothing to the script. -/
theorem sends_nothing (firmware : Controller F) {event : ControlEvent}
    (hother : ∀ reads, event = .call reads → firmware.next ≠ .maixcamSetMode) :
    (firmware.step powf event).modeCnt = firmware.modeCnt ∧
      (firmware.step powf event).uart4Sent = firmware.uart4Sent := by
  cases event with
  | plantSoft | maixcam | hwt101 | vl53 | exti | buzzer => exact ⟨rfl, rfl⟩
  | call reads =>
      change (firmware.perform powf reads firmware.next).modeCnt = _ ∧
        (firmware.perform powf reads firmware.next).uart4Sent = _
      cases hnext : firmware.next
      case maixcamSetMode => exact absurd hnext (hother reads rfl)
      all_goals exact ⟨rfl, rfl⟩

theorem Linked.control {s : TwoBoards F} {link : ModeLink} (hlinked : Linked s link)
    {event : ControlEvent} (hother : ∀ reads, event = .call reads →
      s.firmware.next ≠ .maixcamSetMode) : Linked (s.control powf event) link := by
  obtain ⟨hcnt, hwire, hrx, hmode, hsent⟩ := hlinked
  obtain ⟨hcnt', hsent'⟩ := sends_nothing powf s.firmware hother
  refine ⟨hcnt.trans hcnt'.symm, ?_, hrx, hmode, hsent'.trans hsent⟩
  change link.wire = s.toScript ++
    (s.firmware.step powf event).uart4Sent.drop s.firmware.uart4Sent.length
  rw [hsent', List.drop_length, List.append_nil, hwire]

omit [CFloat F] in
theorem Linked.poll {s : TwoBoards F} {link : ModeLink} (hlinked : Linked s link)
    (sizes : List ℕ) {loop : ModeLoop} {point : Point}
    (hphase : s.script.phase = .running loop point) (hpoint : point ≠ .reporting) :
    let out := recvModeSwitch recvNext loop.mode ((s.rx, s.toScript), sizes)
    Linked
      { s.act (.poll out.1 : ScriptEvent width height) with rx := out.2.1.1, toScript := out.2.1.2 }
      (modeSystem.step link (.recvModeSwitch sizes)) := by
  intro out
  obtain ⟨hcnt, hwire, hrx, hmode, hsent⟩ := hlinked
  have hloop : scriptMode s.script = loop.mode := by
    unfold scriptMode
    rw [hphase]
  have hside : ((s.rx, s.toScript), sizes) = scriptSide (link, sizes) := by
    rw [scriptSide, hrx, hwire]
  have hmap : out =
      ((recvModeSwitch ModeLink.pollNext loop.mode (link, sizes)).1,
        scriptSide (recvModeSwitch ModeLink.pollNext loop.mode (link, sizes)).2) := by
    change recvModeSwitch recvNext loop.mode _ = _
    rw [hside]
    exact pollMode_map scriptSide recvNext_scriptSide loop.mode _ _
  have hkeeps := pollMode_keeps firmwareSide firmwareSide_pollNext loop.mode
    modePollPacketsPerCall (link, sizes)
  simp only [firmwareSide, Prod.mk.injEq] at hkeeps
  have hlink : link.mode = loop.mode := hmode.trans hloop
  change Linked _ { (recvModeSwitch ModeLink.pollNext link.mode (link, sizes)).2.1 with mode := _ }
  rw [hlink]
  refine ⟨?_, ?_, ?_, ?_, ?_⟩
  · exact hkeeps.1.trans hcnt
  · rw [hmap]
    rfl
  · rw [hmap]
    rfl
  · change _ = scriptMode (s.script.step (.poll out.1 : ScriptEvent width height))
    rw [mode_step_of_poll hphase hpoint, hmap]
  · change s.firmware.uart4Sent = _
    rw [hsent]
    exact congrArg (List.flatMap modeFrame) hkeeps.2.1.symm

/-- What the link does in a step of the boards. -/
def linkPart : Simulation (boardsSystem F powf clock width height) modeSystem where
  related := Linked
  events s
    | .control (.call _) =>
        if s.firmware.next = .maixcamSetMode then [.setMode s.firmware.car.maixModeFlag] else []
    | .poll sizes =>
        match s.script.phase with
        | .running _ point => if point = .reporting then [] else [.recvModeSwitch sizes]
        | .selecting _ => []
    | _ => []
  init := ⟨rfl, rfl, rfl, rfl, rfl⟩
  step s link event hlinked := by
    cases event with
    | touch tp nowMs nowMs' sendOk =>
        have hmode : scriptMode (s.script.step
            (.touch tp nowMs nowMs' sendOk : ScriptEvent width height)) = scriptMode s.script :=
          mode_step_of_touch s.script tp nowMs nowMs' sendOk
        exact ⟨hlinked.cnt, hlinked.wire, hlinked.rx, hlinked.mode.trans hmode.symm, hlinked.sent⟩
    | frame view =>
        exact ⟨hlinked.cnt, hlinked.wire, hlinked.rx,
          hlinked.mode.trans (mode_step_of_frame s.script view).symm, hlinked.sent⟩
    | uart4Read size =>
        -- the handler neither sends nor counts
        have hquiet := rxEntry_keeps (TwoBoards.maixcam powf)
          (fun firmware => firmware.modeCnt = s.firmware.modeCnt ∧
            firmware.uart4Sent = s.firmware.uart4Sent)
          (fun _ _ _ hsame => hsame) s.uart4 s.firmware (s.toFirmware.take size) ⟨rfl, rfl⟩
        exact ⟨hlinked.cnt.trans hquiet.1.symm, hlinked.wire, hlinked.rx, hlinked.mode,
          hquiet.2.trans hlinked.sent⟩
    | control event =>
        cases event with
        | maixcam => exact hlinked
        | plantSoft | hwt101 | vl53 | exti | buzzer => exact hlinked.control powf nofun
        | call reads =>
            by_cases hnext : s.firmware.next = .maixcamSetMode
            · dsimp only
              rw [if_pos hnext]
              exact hlinked.call powf reads hnext
            · dsimp only
              rw [if_neg hnext]
              exact hlinked.control powf fun _ _ => hnext
    | poll sizes =>
        dsimp only
        change Linked (match s.script.phase with
          | .running loop point => _
          | .selecting _ => _ : TwoBoards F) _
        dsimp only
        split
        next loop point hphase =>
          by_cases hpoint : point = .reporting
          · rw [if_pos hpoint, if_pos hpoint]
            exact hlinked
          · rw [if_neg hpoint, if_neg hpoint]
            exact hlinked.poll sizes hphase hpoint
        next => exact hlinked

/-! ## Together -/

/-- A read of the vision module's port leaves room for the beginning of a packet. -/
def Modest : BoardEvent width height → Prop
  | .uart4Read size => size ≤ 394
  | _ => True

theorem delivers_invariant (hwidth : width < 0xA300) (hheight : height < 0xA300) :
    ((boardsSystem F powf clock width height).restrict Modest).Invariant fun s =>
      (∀ report ∈ s.script.sent, Within width height report.packet) ∧
        ∃ handled pending, Delivers s handled pending where
  init := ⟨nofun, [], [], rfl, rfl, nofun, rfl⟩
  step s event hinv := by
    obtain ⟨event, hmodest⟩ := event
    obtain ⟨hwithin, handled, pending, hdelivers⟩ := hinv
    refine ⟨?_, ?_⟩
    · let part : Simulation (boardsSystem F powf clock width height) _ := scriptPart powf clock
      have hscript := part.step s s.script event rfl
      have hkept := within_invariant.runFrom hwithin (part.events s event)
      rw [← hscript] at hkept
      exact hkept
    · cases event with
      | touch | frame => exact ⟨handled, hdelivers.act _⟩
      | uart4Read size =>
          exact hdelivers.read powf (fun report hreport =>
            cleanPacket_of_within hwidth hheight (hwithin report hreport)) hmodest
      | control event =>
          cases event with
          | maixcam => exact ⟨handled, pending, hdelivers⟩
          | plantSoft | hwt101 | vl53 | exti | buzzer | call =>
              exact ⟨handled, pending, hdelivers.control nofun⟩
      | poll sizes =>
          change ∃ handled pending, Delivers (match s.script.phase with
            | .running loop point => _
            | .selecting _ => _ : TwoBoards F) handled pending
          dsimp only
          split
          next loop point _ =>
            split
            · exact ⟨handled, pending, hdelivers⟩
            · obtain ⟨pending', hkept⟩ := hdelivers.act (.poll _ : ScriptEvent width height)
              exact ⟨handled, pending', hkept.sent, hkept.stream, hkept.head, hkept.reported⟩
          next => exact ⟨handled, pending, hdelivers⟩

/-- What the boards have of each other. -/
structure Agree (s : TwoBoards F) : Prop where
  /-- Leaf state and light position are those of the packets handled so far; with
  nothing on the way, these are all packets. -/
  packets : ∃ handled pending, Delivers s handled pending ∧ (s.toFirmware = [] → pending = [])
  /-- The mode is that of the last frame that has been read, once no code is
  queued. -/
  mode : ∃ (frames : List Mode) (received : ℕ),
    s.firmware.uart4Sent = frames.flatMap modeFrame ∧
      received + s.toScript.length = s.firmware.uart4Sent.length ∧
      (s.rx.rxModeQueue = [] →
        scriptMode s.script = (frames.take (received / 4)).getLast?.getD defaultMode)

/-- Whatever either board does and however slowly the bytes between them are read:
the firmware knows of leaves and light what the packets say that have arrived,
the script obeys the last mode command that has, and each board is in a state
that it could be in on its own. -/
theorem boards_agree (hwidth : width < 0xA300) (hheight : height < 0xA300)
    (events : List {event : BoardEvent width height // Modest event}) :
    let s := ((boardsSystem F powf clock width height).restrict Modest).run events
    Agree s ∧ (∃ controls, s.firmware = (controlSystem F powf clock).run controls) ∧
      ∃ acts, s.script = (scriptSystem width height).run acts := by
  intro s
  have hscript : (scriptSystem width height).Invariant fun script =>
      ∃ acts, script = (scriptSystem width height).run acts := {
    init := ⟨[], rfl⟩
    step := fun script event ⟨acts, hacts⟩ =>
      ⟨acts ++ [event], by rw [System.run_concat, hacts]⟩ }
  obtain ⟨-, handled, pending, hdelivers⟩ :=
    (delivers_invariant powf clock hwidth hheight).run events
  obtain ⟨link, hlinked, hlink, hmode⟩ :=
    (((linkPart powf clock).lift modeSystem_invariant).restrict Modest).run events
  refine ⟨⟨⟨handled, pending, hdelivers, hdelivers.pending_nil⟩, link.sent, link.received,
    hlinked.sent, ?_, fun hqueue => ?_⟩,
    ((reached_invariant powf clock).restrict Modest).run events, ?_⟩
  · have hlength := congrArg List.length hlink.stream
    rw [List.length_append, hlink.length, length_flatMap_blocks length_modeFrame,
      List.length_drop, hlinked.wire] at hlength
    have hcount := hlink.count
    rw [hlinked.sent, length_flatMap_blocks length_modeFrame]
    change link.received + s.toScript.length = _
    change link.received % 4 + s.toScript.length = _ at hlength
    omega
  · have hlast := hlink.last
    have hempty : link.rx.rxModeQueue = [] := hlinked.rx ▸ hqueue
    rw [hempty, List.append_nil] at hlast
    rw [← hlinked.mode, hmode, lastTaken, hlast]
    rfl
  · obtain ⟨script, hsame, hacts⟩ :=
      (((scriptPart powf clock).lift hscript).restrict Modest).run events
    exact hsame ▸ hacts

end Boards

/-- A plant type is chosen, and its packet read in two pieces. -/
theorem boards_agree_selected :
    let s := ((boardsSystem ℚ (fun _ _ => 0) 168000000 320 240).restrict Modest).run
      [⟨.touch (some ⟨100, 80, true⟩) 301 1102 true, trivial⟩,
        ⟨.uart4Read 3, Nat.le_of_ble_eq_true rfl⟩, ⟨.poll [4], trivial⟩,
        ⟨.uart4Read 3, Nat.le_of_ble_eq_true rfl⟩]
    Agree s ∧
      (∃ controls, s.firmware = (controlSystem ℚ (fun _ _ => 0) 168000000).run controls) ∧
      ∃ acts, s.script = (scriptSystem 320 240).run acts :=
  boards_agree (fun _ _ => 0) 168000000 (by decide) (by decide) _

end PlantAssistant.Boards
