import PlantAssistant.Firmware.UartFrames

/-! # Receive loops as scanners

Every receive thread appends a read to its buffer and parses it. What its
handler is given over many reads is the scan of the whole stream, as long as no
read overflows the buffer.
-/

namespace PlantAssistant.Firmware

open Framing

variable {σ : Type*}

/-- The handler, recording the byte string of each call behind its own state. -/
def traced (dataProc : Memory → ℕ → σ → σ) (data : Memory) (size : ℕ)
    (s : σ × List (List UInt8)) : σ × List (List UInt8) :=
  (dataProc data size s.1, s.2 ++ [(List.range size).map data])

/-- One pass of a receive thread's loop over a read. -/
def rxLoop (tryParse : RxBuffer → σ → RxBuffer × σ) (state : RxBuffer × σ) (chunk : List UInt8) :
    RxBuffer × σ :=
  if 0 < chunk.length then tryParse (state.1.append chunk) state.2 else state

theorem Port.rxEntry_eq (port : Port) (dataProc : Memory → ℕ → σ → σ) :
    port.rxEntry dataProc = rxLoop (port.tryParse dataProc) := rfl

section Loop

variable {τ : Type*} (tryParse : RxBuffer → σ → RxBuffer × σ)

/-- No read meets a buffer that has no room for it. -/
def Fits : RxBuffer × σ → List (List UInt8) → Prop
  | _, [] => True
  | state, chunk :: chunks =>
      state.1.length + chunk.length ≤ uartMaxLen ∧ Fits (rxLoop tryParse state chunk) chunks

/-- The parser calls its handler on the frames of the scan, in order, and keeps
nothing from which the scan would not come to the same residue. `meaning` is the
effect of a frame on what `view` shows of the handler's variables. -/
structure Scans (rule : Rule UInt8) (view : σ → τ) (meaning : List UInt8 → τ → τ) : Prop where
  handled (b : RxBuffer) (s : σ) :
    view (tryParse b s).2 =
      (rule.scan b.content).1.foldl (fun t frame => meaning frame t) (view s)
  kept (b : RxBuffer) (s : σ) :
    rule.scan (tryParse b s).1.content = ([], (rule.scan b.content).2)
  length_le (b : RxBuffer) (s : σ) : (tryParse b s).1.length ≤ b.length

variable {tryParse} {rule : Rule UInt8} {view : σ → τ} {meaning : List UInt8 → τ → τ}

/-- Reading in pieces handles the frames of the whole stream. -/
theorem Scans.view_foldl (hscans : Scans tryParse rule view meaning) (hstable : rule.Stable)
    (chunks : List (List UInt8)) (state : RxBuffer × σ)
    (hstate : (rule.scan state.1.content).1 = []) (hfits : Fits tryParse state chunks) :
    view (chunks.foldl (rxLoop tryParse) state).2 =
      (rule.scan (state.1.content ++ chunks.flatten)).1.foldl (fun t frame => meaning frame t)
        (view state.2) := by
  induction chunks generalizing state with
  | nil => simp [hstate]
  | cons chunk chunks ih =>
      obtain ⟨hroom, hrest⟩ := hfits
      by_cases hempty : 0 < chunk.length
      · have hstep : rxLoop tryParse state chunk = tryParse (state.1.append chunk) state.2 :=
          if_pos hempty
        have hcontent := RxBuffer.content_append hroom
        rw [hstep] at hrest
        have hkept := hscans.kept (state.1.append chunk) state.2
        rw [List.foldl_cons, hstep, ih _ (by rw [hkept]) hrest, hscans.handled,
          List.flatten_cons, ← List.append_assoc state.1.content, ← hcontent,
          rule.scan_append hstable (state.1.append chunk).content,
          rule.scan_append hstable (tryParse _ _).1.content, hkept]
        simp only [List.foldl_append, List.foldl_nil]
      · -- an empty read changes nothing
        have hnil : chunk = [] := List.eq_nil_of_length_eq_zero (by omega)
        have hstep : rxLoop tryParse state chunk = state := if_neg hempty
        rw [hstep] at hrest
        rw [List.foldl_cons, hstep, ih _ hstate hrest, hnil, List.flatten_cons, List.nil_append]

/-- A stream shorter than the buffer cannot overflow it. -/
theorem Scans.fits_of_length (hscans : Scans tryParse rule view meaning)
    (chunks : List (List UInt8)) (state : RxBuffer × σ)
    (hlength : state.1.length + chunks.flatten.length ≤ uartMaxLen) :
    Fits tryParse state chunks := by
  induction chunks generalizing state with
  | nil => trivial
  | cons chunk chunks ih =>
      rw [List.flatten_cons, List.length_append] at hlength
      have hroom : state.1.length + chunk.length ≤ uartMaxLen := by omega
      refine ⟨hroom, ih _ ?_⟩
      unfold rxLoop
      split
      next =>
        have hle := hscans.length_le (state.1.append chunk) state.2
        rw [← RxBuffer.length_content (state.1.append chunk), RxBuffer.content_append hroom,
          List.length_append, RxBuffer.length_content] at hle
        omega
      next => omega

/-- Nor can reads that always find a nearly empty buffer. -/
theorem fits_of_keeps_few {room : ℕ} (hkeeps : ∀ b s, (tryParse b s).1.length < room)
    (chunks : List (List UInt8)) (state : RxBuffer × σ) (hstate : state.1.length < room)
    (hchunks : ∀ chunk ∈ chunks, chunk.length + room ≤ uartMaxLen + 1) :
    Fits tryParse state chunks := by
  induction chunks generalizing state with
  | nil => trivial
  | cons chunk chunks ih =>
      have hroom := hchunks chunk List.mem_cons_self
      refine ⟨by omega, ih _ ?_ fun c hc => hchunks c (List.mem_cons_of_mem chunk hc)⟩
      unfold rxLoop
      split
      next => exact hkeeps _ _
      next => exact hstate

end Loop

theorem length_foldl_rxLoop {tryParse : RxBuffer → σ → RxBuffer × σ} {room : ℕ}
    (hkeeps : ∀ b s, (tryParse b s).1.length < room) (chunks : List (List UInt8))
    (state : RxBuffer × σ) (hstate : state.1.length < room) :
    (chunks.foldl (rxLoop tryParse) state).1.length < room := by
  induction chunks generalizing state with
  | nil => exact hstate
  | cons chunk chunks ih =>
      apply ih
      unfold rxLoop
      split
      next => exact hkeeps _ _
      next => exact hstate

/-! ## The loop of UART4 and UART5 -/

namespace Port

variable (port : Port) (dataProc : Memory → ℕ → σ → σ)

theorem length_tryParseFrom_le (b : RxBuffer) (i : ℕ) (s : σ) :
    (port.tryParseFrom dataProc b i s).1.length ≤ b.length := by
  induction b, i, s using port.tryParse_induction dataProc with
  | skip b i s _ _ hloop ih =>
      rw [hloop]
      exact ih
  | accept b i s size _ _ hloop ih =>
      rw [RxBuffer.length_shiftLeft] at ih
      rw [hloop]
      exact ih.trans (Nat.sub_le _ _)
  | wait b i s _ hloop =>
      rw [hloop]
      split
      · rw [RxBuffer.length_shiftLeft]
        exact Nat.sub_le _ _
      · exact Nat.le_refl _
  | stop b i s _ _ hloop =>
      rw [hloop]
      unfold keepLast
      split
      next hlong => exact Nat.le_of_lt hlong
      next => exact Nat.le_refl _

/-- What is handed over does not depend on the handler's own variables. -/
theorem scans : Scans (port.tryParse (traced dataProc)) port.rule Prod.snd
    (fun frame log => log ++ [frame]) where
  handled b s := by
    let record (data : Memory) (size : ℕ) (log : List (List UInt8)) : List (List UInt8) :=
      log ++ [(List.range size).map data]
    have hmap := port.tryParseFrom_map (traced dataProc) record
      (f := Prod.snd) (fun _ _ _ => rfl) b 0 s
    have hstate := port.state_tryParseFrom record (fun frame log => log ++ [frame]) b 0 s.2
      (fun frame _ data log hdata => by rw [← hdata, List.length_map, List.length_range])
    rw [hmap, Prod.map_snd, List.drop_zero] at hstate
    exact hstate
  kept b s := by
    have hout := port.content_tryParseFrom (traced dataProc) b 0 s (by omega)
    rw [List.drop_zero] at hout
    rw [tryParse]
    rcases hout with heq | ⟨hnil, ⟨byte, hbyte, hout⟩, _⟩
    · rw [heq]
      exact port.rule.scan_wait (port.rule.scan_residue_wait _)
    · -- the byte kept back is no header, so the scan gives it up
      have hskip : port.rule.verdict [byte] = .skip := by simp [rule, hbyte]
      rw [hout, hnil, port.rule.scan_skip hskip, List.tail_cons, Rule.scan_nil]
  length_le b s := port.length_tryParseFrom_le _ b 0 s

end Port

end PlantAssistant.Firmware
