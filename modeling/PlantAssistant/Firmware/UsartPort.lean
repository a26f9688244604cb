import PlantAssistant.Framing.Window
import PlantAssistant.Firmware.RxLoop

/-! # Receive threads of USART1 and USART2

Both look at a window of fixed size, hand it to their handler when it is a
frame, and move on by one byte when it is not. They differ in the size and in
the test.
-/

namespace PlantAssistant.Firmware

open Framing

/-- A port's frame length and its test for a frame, which only looks at the
bytes of the frame. -/
structure UsartPort where
  frameLen : ℕ
  frameLen_pos : 0 < frameLen
  isFrame : Memory → Bool
  isFrame_congr {data data' : Memory} :
    (∀ k < frameLen, data k = data' k) → isFrame data = isFrame data'

namespace UsartPort

variable (port : UsartPort) {σ : Type*} (dataProc : Memory → ℕ → σ → σ)

/-- The loop of `usart1_try_parse` and `usart2_try_parse` from index `i` on. -/
def tryParseFrom (b : RxBuffer) (i : ℕ) (s : σ) : RxBuffer × σ :=
  if _hfits : i + port.frameLen ≤ b.length then
    if port.isFrame (fun k => b.bytes (i + k)) then
      tryParseFrom (b.shiftLeft (i + port.frameLen)) 0
        (dataProc (fun k => b.bytes (i + k)) port.frameLen s)
    else tryParseFrom b (i + 1) s
  else (if 0 < i then b.shiftLeft i else b, s)
termination_by b.length + (b.length - i)
decreasing_by
  · have hpos := port.frameLen_pos
    rw [RxBuffer.length_shiftLeft]
    omega
  · have hpos := port.frameLen_pos
    omega

def tryParse (b : RxBuffer) (s : σ) : RxBuffer × σ :=
  port.tryParseFrom dataProc b 0 s

/-- The loop body of `usart1_rx_entry` and `usart2_rx_entry`. -/
def rxEntry (state : RxBuffer × σ) (chunk : List UInt8) : RxBuffer × σ :=
  rxLoop (port.tryParse dataProc) state chunk

/-! ## The loop as a scan -/

/-- The window the port looks for. -/
def pattern : Pattern UInt8 where
  size := port.frameLen
  size_pos := port.frameLen_pos
  isMatch window := port.isFrame (RxBuffer.ofList window).bytes

variable (b : RxBuffer) (i : ℕ) (s : σ)

/-- The verdict at index `i` of a buffer. -/
theorem verdict_drop :
    port.pattern.rule.verdict (b.content.drop i) =
      if i + port.frameLen ≤ b.length then
        if port.isFrame (fun k => b.bytes (i + k)) then .accept port.frameLen else .skip
      else .wait := by
  have hpos := port.frameLen_pos
  split
  next hfits =>
    have hlong : port.pattern.size ≤ (b.content.drop i).length := by
      change port.frameLen ≤ _
      rw [List.length_drop, RxBuffer.length_content]
      omega
    have htest : port.pattern.isMatch ((b.content.drop i).take port.pattern.size) =
        port.isFrame (fun k => b.bytes (i + k)) := by
      change port.isFrame (RxBuffer.ofList ((b.content.drop i).take port.frameLen)).bytes = _
      rw [b.take_drop_content hfits]
      apply port.isFrame_congr
      intro k hk
      simp [RxBuffer.ofList, List.getD_eq_getElem?_getD, hk]
    rw [Pattern.verdict_of_le _ hlong, htest]
    rfl
  next hshort =>
    apply Pattern.verdict_of_lt
    change _ < port.frameLen
    rw [List.length_drop, RxBuffer.length_content]
    omega

/-- What the loop leaves is the residue of the scan. -/
theorem content_tryParseFrom :
    (port.tryParseFrom dataProc b i s).1.content =
      (port.pattern.rule.scan (b.content.drop i)).2 := by
  induction b, i, s using tryParseFrom.induct port dataProc with
  | case1 b i s hfits hframe ih =>
      have hverdict := port.verdict_drop b i
      rw [if_pos hfits, if_pos hframe] at hverdict
      rw [tryParseFrom, dif_pos hfits, if_pos hframe, ih, Rule.scan_accept _ hverdict,
        RxBuffer.content_shiftLeft, List.drop_zero, List.drop_drop]
  | case2 b i s hfits hframe ih =>
      have hverdict := port.verdict_drop b i
      rw [if_pos hfits, if_neg hframe] at hverdict
      rw [tryParseFrom, dif_pos hfits, if_neg hframe, ih, Rule.scan_skip _ hverdict,
        List.tail_drop]
  | case3 b i s hfits =>
      have hverdict := port.verdict_drop b i
      rw [if_neg hfits] at hverdict
      rw [tryParseFrom, dif_neg hfits, Rule.scan_wait _ hverdict]
      split
      · exact RxBuffer.content_shiftLeft i b
      · obtain rfl : i = 0 := by omega
        rfl

/-- The handler runs once on each frame of the scan, in order. `meaning` is the
effect such a frame has, wherever it stands in memory, on what `view` shows of
the handler's variables. -/
theorem state_tryParseFrom {τ : Type*} (view : σ → τ) (meaning : List UInt8 → τ → τ)
    (hmeaning : ∀ (data : Memory) (s : σ), port.isFrame data →
      view (dataProc data port.frameLen s) =
        meaning ((List.range port.frameLen).map data) (view s)) :
    view (port.tryParseFrom dataProc b i s).2 =
      (port.pattern.rule.scan (b.content.drop i)).1.foldl (fun t frame => meaning frame t)
        (view s) := by
  induction b, i, s using tryParseFrom.induct port dataProc with
  | case1 b i s hfits hframe ih =>
      have hverdict := port.verdict_drop b i
      rw [if_pos hfits, if_pos hframe] at hverdict
      rw [tryParseFrom, dif_pos hfits, if_pos hframe, ih, Rule.scan_accept _ hverdict,
        RxBuffer.content_shiftLeft, List.drop_zero, List.drop_drop, List.foldl_cons,
        b.take_drop_content hfits, hmeaning _ s hframe]
  | case2 b i s hfits hframe ih =>
      have hverdict := port.verdict_drop b i
      rw [if_pos hfits, if_neg hframe] at hverdict
      rw [tryParseFrom, dif_pos hfits, if_neg hframe, ih, Rule.scan_skip _ hverdict,
        List.tail_drop]
  | case3 b i s hfits =>
      have hverdict := port.verdict_drop b i
      rw [if_neg hfits] at hverdict
      rw [tryParseFrom, dif_neg hfits, Rule.scan_wait _ hverdict]
      rfl

theorem scans {τ : Type*} (view : σ → τ) (meaning : List UInt8 → τ → τ)
    (hmeaning : ∀ (data : Memory) (s : σ), port.isFrame data →
      view (dataProc data port.frameLen s) =
        meaning ((List.range port.frameLen).map data) (view s)) :
    Scans (port.tryParse dataProc) port.pattern.rule view meaning where
  handled b s := by
    have hstate := port.state_tryParseFrom dataProc b 0 s view meaning hmeaning
    rwa [List.drop_zero] at hstate
  kept b s := by
    rw [tryParse, content_tryParseFrom, List.drop_zero]
    exact Rule.scan_wait _ (Rule.scan_residue_wait _ _)
  length_le b s := by
    have hle := port.pattern.rule.length_residue_le b.content
    rw [tryParse, ← RxBuffer.length_content, content_tryParseFrom, List.drop_zero]
    rwa [RxBuffer.length_content] at hle

/-- A map that commutes with the handlers commutes with the loop. -/
theorem tryParseFrom_map {τ : Type*} (dataProc' : Memory → ℕ → τ → τ) {f : σ → τ}
    (hcomm : ∀ data size s, f (dataProc data size s) = dataProc' data size (f s)) :
    port.tryParseFrom dataProc' b i (f s) = Prod.map id f (port.tryParseFrom dataProc b i s) := by
  induction b, i, s using tryParseFrom.induct port dataProc with
  | case1 b i s hfits hframe ih =>
      rw [tryParseFrom, dif_pos hfits, if_pos hframe, ← hcomm, ih]
      conv_rhs => rw [tryParseFrom, dif_pos hfits, if_pos hframe]
  | case2 b i s hfits hframe ih =>
      rw [tryParseFrom, dif_pos hfits, if_neg hframe, ih]
      conv_rhs => rw [tryParseFrom, dif_pos hfits, if_neg hframe]
  | case3 b i s hfits =>
      rw [tryParseFrom, dif_neg hfits, tryParseFrom, dif_neg hfits]
      rfl

/-- Less than one frame stays behind. -/
theorem length_tryParse_lt : (port.tryParse dataProc b s).1.length < port.frameLen := by
  rw [tryParse, ← RxBuffer.length_content, content_tryParseFrom]
  exact port.pattern.length_residue_lt _

end UsartPort

end PlantAssistant.Firmware
