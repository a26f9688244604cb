import PlantAssistant.Firmware.UartFrames

/-! # What the ports keep back

A receive loop returns at the first header at which it cannot take a frame. It
is the scan of the port's rule that decides what stays in the buffer, and a
complete frame can stay behind only behind such a header.
-/

namespace PlantAssistant.Link

open Framing PlantAssistant.Firmware

/-- A complete command frame of the panel. -/
inductive Uart5Frame : List UInt8 → Prop
  | command (cmd value : UInt8) :
      cmd ∈ [plantSoftCmdMaixMode, plantSoftCmdWaterCtrl, plantSoftCmdLightCtrl,
        plantSoftCmdSystemCtr, plantSoftCmdPlantType] →
      Uart5Frame [plantSoftpackHead1, cmd, value, plantSoftpackTail]
  | time (year month day hour minute second : UInt8) :
      Uart5Frame [plantSoftpackHead1, plantSoftCmdTime, year, month, day, hour, minute, second,
        plantSoftpackTail]

/-- A complete packet of the vision module. -/
inductive Uart4Frame : List UInt8 → Prop
  | location (d2 d3 d4 d5 : UInt8) :
      Uart4Frame [uart4FrameHead1, uart4FrameHead2Loc, d2, d3, d4, d5, uart4FrameTail1]
  | state (s : UInt8) : Uart4Frame [uart4FrameHead1, uart4FrameHead2Sta, s, uart4FrameTail1]
  | type (t : UInt8) : Uart4Frame [uart4FrameHead1, uart4FrameHead2Typ, t, uart4FrameTail1]
  | led : Uart4Frame [uart4FrameHead1, uart4FrameHead2Led, uart4FrameTail1]

/-- Some frame stands in `bytes`, at any offset. -/
def Contains (Frame : List UInt8 → Prop) (bytes : List UInt8) : Prop :=
  ∃ frame, Frame frame ∧ frame <:+: bytes

/-- Reading `bytes` from the left, other bytes and whole frames dropped, one
comes to a header at which no frame can be taken, followed by `tail`. -/
def StrayHeader (port : Port) (bytes tail : List UInt8) : Prop :=
  port.rule.Passes bytes (port.head :: tail) ∧ port.rule.verdict (port.head :: tail) = .wait

theorem uart5_verdict_frame {frame : List UInt8} (hframe : Uart5Frame frame) (more : List UInt8) :
    uart5Port.rule.verdict (frame ++ more) ≠ .wait := by
  cases hframe with
  | command cmd value hcmd =>
      simp only [Port.rule, uart5Port, RxBuffer.ofList, List.cons_append]
      split_ifs <;> simp_all
  | time => simp [Port.rule, uart5Port, RxBuffer.ofList]

theorem uart4_verdict_frame {frame : List UInt8} (hframe : Uart4Frame frame) (more : List UInt8) :
    uart4Port.rule.verdict (frame ++ more) ≠ .wait := by
  cases hframe <;> simp [Port.rule, uart4Port, RxBuffer.ofList]

/-- A frame in the residue of a scan stands behind the header the scan stopped
at. -/
theorem contains_residue_iff {port : Port} {Frame : List UInt8 → Prop}
    (haccepted : ∀ {frame}, Frame frame → ∀ more, port.rule.verdict (frame ++ more) ≠ .wait)
    (hnonempty : ¬ Frame []) (bytes : List UInt8) :
    Contains Frame (port.rule.scan bytes).2 ↔
      ∃ tail, StrayHeader port bytes tail ∧ Contains Frame tail := by
  have hwait := port.rule.scan_residue_wait bytes
  have hpasses := port.rule.passes_scan bytes
  constructor
  · rintro ⟨frame, hframe, hinside⟩
    generalize (port.rule.scan bytes).2 = residue at hwait hpasses hinside
    cases residue with
    | nil => exact absurd (List.infix_nil.mp hinside ▸ hframe) hnonempty
    | cons byte tail =>
        -- the scan can only have stopped at a header
        have hhead : byte = port.head := by
          by_contra hne
          simp [Port.rule, hne] at hwait
        subst hhead
        refine ⟨tail, ⟨hpasses, hwait⟩, frame, hframe, ?_⟩
        -- a frame that begins with this header would have been taken
        rcases List.infix_cons_iff.mp hinside with ⟨more, hmore⟩ | htail
        · exact absurd (hmore ▸ hwait) (haccepted hframe more)
        · exact htail
  · rintro ⟨tail, ⟨hstray, hstop⟩, frame, hframe, hinside⟩
    rw [← port.rule.eq_residue_of_passes hstray hstop]
    exact ⟨frame, hframe, hinside.trans (List.suffix_cons _ tail).isInfix⟩

/-- Where the loop keeps something other than the residue, it keeps one byte
that is no header. -/
theorem contains_tryParse_iff {port : Port} {σ : Type} (dataProc : Memory → ℕ → σ → σ)
    {Frame : List UInt8 → Prop} (hlong : ∀ {frame}, Frame frame → 1 < frame.length)
    (b : RxBuffer) (s : σ) :
    Contains Frame (port.tryParse dataProc b s).1.content ↔
      Contains Frame (port.rule.scan b.content).2 := by
  have hshort : ∀ bytes : List UInt8, bytes.length ≤ 1 → ¬ Contains Frame bytes := by
    rintro bytes hbytes ⟨frame, hframe, hinside⟩
    have hmin := hlong hframe
    have hmax := hinside.length_le
    omega
  have hout := port.content_tryParseFrom dataProc b 0 s (by omega)
  rw [List.drop_zero] at hout
  rcases hout with heq | ⟨hnil, ⟨byte, _, hbyte⟩, _⟩
  · rw [Port.tryParse, heq]
  · rw [Port.tryParse, hbyte, hnil]
    exact iff_of_false (hshort _ (by simp)) (hshort _ (by simp))

/-- No complete frame is left in either buffer if and only if no complete frame
follows a header at which the port cannot take one. -/
theorem tryParse_retains_no_frame_iff (b : RxBuffer) (g : Globals) :
    (¬ Contains Uart5Frame (uart5TryParse b g).1.content ↔
      ∀ tail, StrayHeader uart5Port b.content tail → ¬ Contains Uart5Frame tail) ∧
    (¬ Contains Uart4Frame (uart4TryParse b g).1.content ↔
      ∀ tail, StrayHeader uart4Port b.content tail → ¬ Contains Uart4Frame tail) := by
  constructor
  · rw [uart5TryParse, contains_tryParse_iff _ (by rintro _ ⟨⟩ <;> simp),
      contains_residue_iff (fun h => uart5_verdict_frame h) (by rintro ⟨⟩)]
    simp only [not_exists, not_and]
  · rw [uart4TryParse, contains_tryParse_iff _ (by rintro _ ⟨⟩ <;> simp),
      contains_residue_iff (fun h => uart4_verdict_frame h) (by rintro ⟨⟩)]
    simp only [not_exists, not_and]

/-- A damaged frame `AA 00 00` in front of the emergency stop `AA 40 01 55`: the
stop command has arrived, stays in the buffer and is not obeyed. -/
theorem uart5_stop_kept_back :
    let out := uart5TryParse (RxBuffer.ofList [0xAA, 0x00, 0x00, 0xAA, 0x40, 0x01, 0x55]) {}
    Contains Uart5Frame out.1.content ∧ out.2.motorFlag = 1 := by
  have hout : (uart5TryParse
      (RxBuffer.ofList [0xAA, 0x00, 0x00, 0xAA, 0x40, 0x01, 0x55]) {}).1.content =
      [0xAA, 0x00, 0x00, 0xAA, 0x40, 0x01, 0x55] := by decide +kernel
  refine ⟨⟨[0xAA, 0x40, 0x01, 0x55], .command 0x40 0x01 (by decide), ?_⟩, by decide +kernel⟩
  rw [hout]
  exact ⟨[0xAA, 0x00, 0x00], [], rfl⟩

end PlantAssistant.Link
