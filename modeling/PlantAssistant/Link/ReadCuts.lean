import PlantAssistant.Firmware.UsartFrames

/-! # Frames do not depend on the cutting into reads

The byte strings that a receive thread hands to its handler are those of one
scan of the whole stream.
-/

namespace PlantAssistant.Link

open Framing PlantAssistant.Firmware

variable {σ : Type}

/-- The byte strings that the passes of a receive loop hand to its handler. -/
def handed (rxEntry : RxBuffer × (σ × List (List UInt8)) → List UInt8 →
    RxBuffer × (σ × List (List UInt8))) (memory : Memory) (s : σ) (chunks : List (List UInt8)) :
    List (List UInt8) :=
  (chunks.foldl rxEntry (⟨memory, 0⟩, (s, []))).2.2

/-- From an empty buffer, reads that fit hand over the frames of the stream. -/
theorem handed_eq_scan
    {tryParse : RxBuffer → σ × List (List UInt8) → RxBuffer × (σ × List (List UInt8))}
    {rule : Rule UInt8}
    (hscans : Scans tryParse rule Prod.snd (fun frame log => log ++ [frame]))
    (hstable : rule.Stable) (memory : Memory) (s : σ) (chunks : List (List UInt8))
    (hfits : Fits tryParse (⟨memory, 0⟩, (s, [])) chunks) :
    handed (rxLoop tryParse) memory s chunks = (rule.scan chunks.flatten).1 := by
  have hempty : (RxBuffer.mk memory 0).content = [] := rfl
  have hview := hscans.view_foldl hstable chunks _ (by simp [hempty]) hfits
  rw [List.foldl_append_eq_append, ← List.flatMap_def, List.flatMap_singleton'] at hview
  rw [handed, hview, hempty]
  rfl

/-! ## UART4 -/

/-- A frame stays one when more is received behind it: the byte after the header
fits one frame length only. -/
theorem uart4_frameSize_append {bytes : List UInt8} {size : ℕ} (more : List UInt8)
    (hsize : uart4Port.frameSize (RxBuffer.ofList bytes) 0 = some size) :
    uart4Port.frameSize (RxBuffer.ofList (bytes ++ more)) 0 = some size := by
  have hbytes : ∀ k < bytes.length, (bytes ++ more).getD k 0 = bytes.getD k 0 := by
    intro k hk
    rw [List.getD_eq_getElem?_getD, List.getElem?_append_left hk, ← List.getD_eq_getElem?_getD]
  simp only [uart4Port, RxBuffer.ofList, Nat.zero_add, List.length_append] at hsize ⊢
  split_ifs at hsize with hloc hfour hled
  · obtain ⟨hlong, hhead, htail⟩ := hloc
    rw [hbytes 1 (by omega), hbytes 6 hlong, if_pos ⟨by omega, hhead, htail⟩, ← hsize]
  · obtain ⟨hlong, hhead, htail⟩ := hfour
    have hother : bytes.getD 1 0 ≠ uart4FrameHead2Loc := by
      rcases hhead with hhead | hhead <;> rw [hhead] <;> decide
    rw [hbytes 1 (by omega), hbytes 3 hlong, if_neg fun hloc => hother hloc.2.1,
      if_pos ⟨by omega, hhead, htail⟩, ← hsize]
  · obtain ⟨hlong, hhead, htail⟩ := hled
    have hother : bytes.getD 1 0 ≠ uart4FrameHead2Loc := by rw [hhead]; decide
    have hneither : ¬ (bytes.getD 1 0 = uart4FrameHead2Sta ∨
        bytes.getD 1 0 = uart4FrameHead2Typ) := by rw [hhead]; decide
    rw [hbytes 1 (by omega), hbytes 2 hlong, if_neg fun hloc => hother hloc.2.1,
      if_neg fun hfour => hneither hfour.2.1, if_pos ⟨by omega, hhead, htail⟩, ← hsize]

theorem stable_uart4 : uart4Port.rule.Stable := by
  intro bytes more hdecided
  cases bytes with
  | nil => exact absurd rfl hdecided
  | cons byte rest =>
      by_cases hhead : byte = uart4Port.head
      · subst hhead
        cases hsize : uart4Port.frameSize (RxBuffer.ofList (uart4Port.head :: rest)) 0 with
        | none => simp [Port.rule, hsize] at hdecided
        | some size =>
            have hmore := uart4_frameSize_append more hsize
            rw [List.cons_append] at hmore ⊢
            simp [Port.rule, hsize, hmore]
      · simp [Port.rule, hhead]

/-- Two cuttings of a stream that fits into the buffer lead to the same frames. -/
theorem uart4_handed_eq (memory memory' : Memory) (g g' : Globals)
    (first second : List (List UInt8)) (hstream : first.flatten = second.flatten)
    (hlength : first.flatten.length ≤ uartMaxLen) :
    handed (uart4Port.rxEntry (traced maixcamDataProc)) memory g first =
      handed (uart4Port.rxEntry (traced maixcamDataProc)) memory' g' second := by
  have hscans := uart4Port.scans maixcamDataProc
  have hscan : ∀ (memory : Memory) (g : Globals) (chunks : List (List UInt8)),
      chunks.flatten.length ≤ uartMaxLen →
      handed (rxLoop (uart4Port.tryParse (traced maixcamDataProc))) memory g chunks =
        (uart4Port.rule.scan chunks.flatten).1 := by
    intro memory g chunks hlength
    apply handed_eq_scan hscans stable_uart4
    exact hscans.fits_of_length chunks _ (by simpa using hlength)
  rw [Port.rxEntry_eq, hscan memory g first hlength,
    hscan memory' g' second (hstream ▸ hlength), hstream]

/-- A blade state split inside its header or read at once is one frame. -/
theorem uart4_handed_eq_split :
    handed (uart4Port.rxEntry (traced maixcamDataProc)) (fun _ => 0) {}
        [[0x11, 0xA3], [0xB2, 0x01, 0xC3]] =
      handed (uart4Port.rxEntry (traced maixcamDataProc)) (fun _ => 0) {}
        [[0x11, 0xA3, 0xB2, 0x01, 0xC3]] :=
  uart4_handed_eq _ _ _ _ _ _ rfl (by decide)

/-! ## USART1 and USART2 -/

/-- `65 3A . . . . 6D`. -/
def rangePattern : Pattern UInt8 where
  size := 7
  size_pos := by decide
  isMatch
    | 0x65 :: 0x3A :: _ :: _ :: _ :: _ :: 0x6D :: _ => true
    | _ => false

/-- `55 53` and nine data bytes. -/
def attitudePattern : Pattern UInt8 where
  size := 11
  size_pos := by decide
  isMatch
    | 0x55 :: 0x53 :: _ => true
    | _ => false

theorem pattern_usart1 : usart1Port.pattern = rangePattern := by
  unfold UsartPort.pattern rangePattern
  congr
  funext window
  change vl53IsFrame (RxBuffer.ofList window).bytes = _
  split
  next => rfl
  next hother =>
    rw [vl53IsFrame, decide_eq_false_iff_not]
    rintro ⟨h0, h1, h6⟩
    -- seven bytes, as the tail is not zero
    obtain _ | ⟨_, _ | ⟨_, _ | ⟨d2, _ | ⟨d3, _ | ⟨d4, _ | ⟨d5, _ | ⟨_, rest⟩⟩⟩⟩⟩⟩⟩ := window
    case cons.cons.cons.cons.cons.cons.cons =>
      obtain rfl : _ = vl53packHead1 := h0
      obtain rfl : _ = vl53packHead2 := h1
      obtain rfl : _ = vl53packTail := h6
      exact hother _ _ _ _ _ rfl
    all_goals simp [RxBuffer.ofList] at h6

theorem pattern_usart2 : usart2Port.pattern = attitudePattern := by
  unfold UsartPort.pattern attitudePattern
  congr
  funext window
  change hwt101IsFrame (RxBuffer.ofList window).bytes = _
  split
  next => rfl
  next hother =>
    rw [hwt101IsFrame, decide_eq_false_iff_not]
    rintro ⟨h0, h1⟩
    obtain _ | ⟨_, _ | ⟨_, rest⟩⟩ := window <;> simp_all [RxBuffer.ofList]

/-- What a window port hands over, and what it keeps. -/
theorem UsartPort.handed_leftmost (port : UsartPort) (dataProc : Memory → ℕ → σ → σ)
    (memory : Memory) (s : σ) (chunks : List (List UInt8))
    (hreads : ∀ chunk ∈ chunks, chunk.length + port.frameLen ≤ uartMaxLen + 1) :
    (∃ positions, port.pattern.Leftmost chunks.flatten 0 positions ∧
        handed (port.rxEntry (traced dataProc)) memory s chunks =
          positions.map (port.pattern.window chunks.flatten)) ∧
      (chunks.foldl (port.rxEntry dataProc) (⟨memory, 0⟩, s)).1.length < port.frameLen := by
  constructor
  · have hfits := fits_of_keeps_few (port.length_tryParse_lt (traced dataProc)) chunks
      (⟨memory, 0⟩, (s, [])) port.frameLen_pos hreads
    have hscans := port.scans (traced dataProc) Prod.snd (fun frame log => log ++ [frame])
      (fun _ _ _ => rfl)
    have hscan := handed_eq_scan hscans port.pattern.stable_rule memory s chunks hfits
    obtain ⟨positions, hleftmost, hwindows⟩ := port.pattern.scan_leftmost chunks.flatten 0
    rw [List.drop_zero] at hwindows
    exact ⟨positions, hleftmost, hscan.trans hwindows⟩
  · exact length_foldl_rxLoop (port.length_tryParse_lt dataProc) chunks _ port.frameLen_pos

/-- Both sensors' handlers are given the leftmost matches of the whole stream,
and after the reads less than one window is retained. -/
theorem usart_handed_leftmost {F : Type} [CFloat F] (memory : Memory) (r : Ranging)
    (a : Attitude F) (chunks : List (List UInt8))
    (hreads : ∀ chunk ∈ chunks, 1 ≤ chunk.length ∧ chunk.length ≤ 390) :
    ((∃ positions, rangePattern.Leftmost chunks.flatten 0 positions ∧
        handed (usart1Port.rxEntry (traced vl53DataProc)) memory r chunks =
          positions.map (rangePattern.window chunks.flatten)) ∧
      (chunks.foldl usart1RxEntry (⟨memory, 0⟩, r)).1.length < 7) ∧
    ((∃ positions, attitudePattern.Leftmost chunks.flatten 0 positions ∧
        handed (usart2Port.rxEntry (traced hwt101DataProc)) memory a chunks =
          positions.map (attitudePattern.window chunks.flatten)) ∧
      (chunks.foldl usart2RxEntry (⟨memory, 0⟩, a)).1.length < 11) := by
  have hroom : ∀ port : UsartPort, port.frameLen ≤ 11 →
      ∀ chunk ∈ chunks, chunk.length + port.frameLen ≤ uartMaxLen + 1 := by
    intro port hlen chunk hmem
    have hread := (hreads chunk hmem).2
    have hmax : uartMaxLen = 400 := rfl
    omega
  rw [← pattern_usart1, ← pattern_usart2]
  exact ⟨UsartPort.handed_leftmost usart1Port vl53DataProc memory r chunks
      (hroom _ (by decide)),
    UsartPort.handed_leftmost usart2Port hwt101DataProc memory a chunks (hroom _ (by decide))⟩

/-- A distance of 1234 and an attitude, each of them cut by a read. -/
def splitFrames : List (List UInt8) :=
  [[0x65, 0x3A, 0x31], [0x32, 0x33, 0x34, 0x6D, 0x55, 0x53], [0, 0, 0, 0, 0, 0x40, 0, 0, 0xE8]]

theorem usart_handed_leftmost_split :
    ((∃ positions, rangePattern.Leftmost splitFrames.flatten 0 positions ∧
        handed (usart1Port.rxEntry (traced vl53DataProc)) (fun _ => 0) {} splitFrames =
          positions.map (rangePattern.window splitFrames.flatten)) ∧
      (splitFrames.foldl usart1RxEntry (⟨fun _ => 0, 0⟩, {})).1.length < 7) ∧
    ((∃ positions, attitudePattern.Leftmost splitFrames.flatten 0 positions ∧
        handed (usart2Port.rxEntry (traced hwt101DataProc)) (fun _ => 0)
            (⟨0, 0, 0, .replicate 7 0⟩ : Attitude ℚ) splitFrames =
          positions.map (attitudePattern.window splitFrames.flatten)) ∧
      (splitFrames.foldl usart2RxEntry
        (⟨fun _ => 0, 0⟩, (⟨0, 0, 0, .replicate 7 0⟩ : Attitude ℚ))).1.length < 11) :=
  usart_handed_leftmost (fun _ => 0) {} ⟨0, 0, 0, .replicate 7 0⟩ splitFrames (by decide)

end PlantAssistant.Link
