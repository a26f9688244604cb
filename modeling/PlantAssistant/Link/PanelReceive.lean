import Mathlib.Data.List.Forall2
import Mathlib.Data.List.GetD
import Mathlib.Tactic.IntervalCases
import PlantAssistant.Framing.Scan
import PlantAssistant.Link.Telemetry

/-! # The panel's receive parser

The parser works off its buffer in a loop with several exits. Seen from outside
it is a scan for frames that waits only where a frame of known length has not
arrived completely.
-/

namespace PlantAssistant.Link

open Framing Transition PlantAssistant.Firmware PlantAssistant.Panel

/-- The decision at one position: a header with four bytes in hand determines a
length, and a frame of that length has to end in the tail. What is done where
the frame is incomplete is left open. -/
def frameRule (onIncomplete : Verdict) (hincomplete : ∀ size, onIncomplete ≠ .accept size) :
    Rule UInt8 where
  verdict
    | [] => .wait
    | byte :: rest =>
        if byte ≠ 0xAA then .skip
        else if rest.length < 3 then .wait
        else
          match expectedFrameLength (byte :: rest) with
          | none => .skip
          | some frameLength =>
              if rest.length + 1 < frameLength then onIncomplete
              else if (byte :: rest).getD (frameLength - 1) 0 ≠ 0x55 then .skip
              else .accept frameLength
  verdict_nil := rfl
  accept_pos {bytes size} hverdict := by
    match bytes with
    | byte :: rest =>
        dsimp only at hverdict
        split_ifs at hverdict
        split at hverdict
        · cases hverdict
        · next hlength =>
            have hmem := expectedFrameLength_mem hlength
            split_ifs at hverdict
            · exact absurd hverdict (hincomplete size)
            · cases hverdict
              simp only [List.mem_cons, List.not_mem_nil, or_false] at hmem
              omega
  accept_le {bytes size} hverdict := by
    match bytes with
    | byte :: rest =>
        dsimp only at hverdict
        split_ifs at hverdict
        split at hverdict
        · cases hverdict
        · split_ifs at hverdict
          · exact absurd hverdict (hincomplete size)
          · cases hverdict
            simp only [List.length_cons]
            omega

/-- The reference scan: it waits for the rest of an incomplete frame. -/
def referenceRule : Rule UInt8 := frameRule .wait (by simp)

/-- The same, but giving up a header whose frame is incomplete. -/
def impatientRule : Rule UInt8 := frameRule .skip (by simp)

/-- The rule on a buffer that begins with a header and has four bytes. -/
theorem referenceRule_verdict {buffer : List UInt8} (hhead : buffer.head? = some 0xAA)
    (hlong : ¬ buffer.length < 4) :
    referenceRule.verdict buffer =
      match expectedFrameLength buffer with
      | none => .skip
      | some frameLength =>
          if buffer.length < frameLength then .wait
          else if buffer.getD (frameLength - 1) 0 ≠ 0x55 then .skip
          else .accept frameLength := by
  cases buffer with
  | nil => simp at hhead
  | cons byte rest =>
      obtain rfl : byte = 0xAA := by simpa using hhead
      rw [List.length_cons] at hlong
      dsimp only [referenceRule, frameRule]
      rw [if_neg (by decide), if_neg (by omega)]
      rfl

theorem referenceRule_wait_of_short {buffer : List UInt8} (hhead : buffer.head? = some 0xAA)
    (hshort : buffer.length < 4) : referenceRule.verdict buffer = .wait := by
  cases buffer with
  | nil => rfl
  | cons byte rest =>
      obtain rfl : byte = 0xAA := by simpa using hhead
      rw [List.length_cons] at hshort
      dsimp only [referenceRule, frameRule]
      rw [if_neg (by decide), if_pos (by omega)]

/-! ## The parser is the scan -/

/-- Looking for a header is giving up one byte after the other. -/
theorem scan_drop_header (rule : Rule UInt8) (buffer : List UInt8)
    (hskip : ∀ byte rest, byte ≠ 0xAA → rule.verdict (byte :: rest) = .skip) :
    (buffer.findIdx? (· = 0xAA) = none → rule.scan buffer = ([], [])) ∧
      ∀ headerIndex, buffer.findIdx? (· = 0xAA) = some headerIndex →
        (buffer.drop headerIndex).head? = some 0xAA ∧
          rule.scan buffer = rule.scan (buffer.drop headerIndex) := by
  induction buffer with
  | nil => simp
  | cons byte rest ih =>
      obtain ⟨hnone, hsome⟩ := ih
      rw [List.findIdx?_cons]
      by_cases hhead : byte = 0xAA
      · simp [hhead]
      · simp only [hhead, decide_false, Bool.false_eq_true, if_false, Option.map_eq_none_iff,
          Option.map_eq_some_iff]
        rw [rule.scan_skip (hskip byte rest hhead), List.tail_cons]
        refine ⟨hnone, ?_⟩
        rintro _ ⟨headerIndex, hindex, rfl⟩
        exact hsome headerIndex hindex

theorem referenceRule_skip {byte : UInt8} (hhead : byte ≠ 0xAA) (rest : List UInt8) :
    referenceRule.verdict (byte :: rest) = .skip := by
  dsimp only [referenceRule, frameRule]
  exact if_pos hhead

/-- Nothing is found in fewer than four bytes. -/
theorem scan_short {buffer : List UInt8} (hshort : buffer.length < 4) :
    (referenceRule.scan buffer).1 = [] := by
  obtain ⟨hnone, hsome⟩ := scan_drop_header referenceRule buffer
    (fun _ rest hhead => referenceRule_skip hhead rest)
  cases hindex : buffer.findIdx? (· = 0xAA) with
  | none => rw [hnone hindex]
  | some headerIndex =>
      obtain ⟨hhead, hscan⟩ := hsome headerIndex hindex
      rw [hscan, referenceRule.scan_wait (referenceRule_wait_of_short hhead (by simp; omega))]

/-- The parser at a header with four bytes in hand. -/
theorem parseReceiveBuffer_header {buffer : List UInt8} {headerIndex : ℕ}
    (hlong : ¬ buffer.length < 4) (hindex : buffer.findIdx? (· = 0xAA) = some headerIndex)
    (hlong' : ¬ (buffer.drop headerIndex).length < 4) :
    parseReceiveBuffer buffer =
      match expectedFrameLength (buffer.drop headerIndex) with
      | none => parseReceiveBuffer ((buffer.drop headerIndex).drop 1)
      | some frameLength =>
          if (buffer.drop headerIndex).length < frameLength then ([], buffer.drop headerIndex)
          else if (buffer.drop headerIndex).getD (frameLength - 1) 0 ≠ 0x55 then
            parseReceiveBuffer ((buffer.drop headerIndex).drop 1)
          else
            let rest := parseReceiveBuffer ((buffer.drop headerIndex).drop frameLength)
            (handleFrame ((buffer.drop headerIndex).take frameLength) ++ rest.1, rest.2) := by
  rw [parseReceiveBuffer, if_neg hlong, hindex]
  dsimp only
  rw [if_neg hlong']
  split <;> simp_all

/-- The scan at a header with four bytes in hand. -/
theorem scan_header {buffer : List UInt8} (hhead : buffer.head? = some 0xAA)
    (hlong : ¬ buffer.length < 4) :
    referenceRule.scan buffer =
      match expectedFrameLength buffer with
      | none => referenceRule.scan (buffer.drop 1)
      | some frameLength =>
          if buffer.length < frameLength then ([], buffer)
          else if buffer.getD (frameLength - 1) 0 ≠ 0x55 then referenceRule.scan (buffer.drop 1)
          else
            let rest := referenceRule.scan (buffer.drop frameLength)
            (buffer.take frameLength :: rest.1, rest.2) := by
  have hverdict := referenceRule_verdict hhead hlong
  split at hverdict
  next => rw [referenceRule.scan_skip hverdict, List.drop_one]
  next =>
    split_ifs at hverdict ⊢ with hincomplete htail
    · exact referenceRule.scan_wait hverdict
    · rw [referenceRule.scan_skip hverdict, List.drop_one]
    · exact referenceRule.scan_accept hverdict

theorem parseReceiveBuffer_parsedBy :
    referenceRule.ParsedBy handleFrame parseReceiveBuffer := by
  suffices hboth : ∀ buffer, (parseReceiveBuffer buffer).1 =
      (referenceRule.scan buffer).1.flatMap handleFrame ∧
      referenceRule.scan (parseReceiveBuffer buffer).2 = ([], (referenceRule.scan buffer).2) from
    ⟨fun buffer => (hboth buffer).1, fun buffer => (hboth buffer).2⟩
  intro buffer
  have hheader := fun buffer => scan_drop_header referenceRule buffer
    fun _ rest hhead => referenceRule_skip hhead rest
  induction buffer using parseReceiveBuffer.induct with
  | case1 buffer hshort =>
      rw [parseReceiveBuffer, if_pos hshort, scan_short hshort]
      exact ⟨rfl, Prod.ext (scan_short hshort) rfl⟩
  | case2 buffer hlong hindex =>
      rw [parseReceiveBuffer, if_neg hlong, hindex, (hheader buffer).1 hindex]
      exact ⟨rfl, referenceRule.scan_nil⟩
  | case3 buffer hlong headerIndex hindex buffer' hshort =>
      obtain ⟨hhead, hscan⟩ := (hheader buffer).2 headerIndex hindex
      have hwait := referenceRule.scan_wait (referenceRule_wait_of_short hhead hshort)
      rw [parseReceiveBuffer, if_neg hlong, hindex, hscan]
      dsimp only
      rw [if_pos hshort, hwait]
      exact ⟨rfl, rfl⟩
  | case4 buffer hlong headerIndex hindex buffer' hlong' hlength ih =>
      obtain ⟨hhead, hscan⟩ := (hheader buffer).2 headerIndex hindex
      rw [parseReceiveBuffer_header hlong hindex hlong', hscan, scan_header hhead hlong', hlength]
      exact ih
  | case5 buffer hlong headerIndex hindex buffer' hlong' frameLength hlength hincomplete =>
      obtain ⟨hhead, hscan⟩ := (hheader buffer).2 headerIndex hindex
      have hwait := scan_header hhead hlong'
      rw [hlength] at hwait
      dsimp only at hwait
      rw [if_pos hincomplete] at hwait
      rw [parseReceiveBuffer_header hlong hindex hlong', hscan, hlength]
      dsimp only
      rw [if_pos hincomplete, hwait]
      exact ⟨rfl, rfl⟩
  | case6 buffer hlong headerIndex hindex buffer' hlong' frameLength hlength hcomplete htail ih =>
      obtain ⟨hhead, hscan⟩ := (hheader buffer).2 headerIndex hindex
      rw [parseReceiveBuffer_header hlong hindex hlong', hscan, scan_header hhead hlong', hlength]
      dsimp only
      rw [if_neg hcomplete, if_pos htail, if_neg hcomplete, if_pos htail]
      exact ih
  | case7 buffer hlong headerIndex hindex buffer' hlong' frameLength hlength hcomplete htail ih =>
      obtain ⟨hhead, hscan⟩ := (hheader buffer).2 headerIndex hindex
      rw [parseReceiveBuffer_header hlong hindex hlong', hscan, scan_header hhead hlong', hlength]
      dsimp only
      rw [if_neg hcomplete, if_neg htail, if_neg hcomplete, if_neg htail, List.flatMap_cons]
      exact ⟨congrArg (handleFrame _ ++ ·) ih.1, ih.2⟩

/-- Three bytes determine the length. -/
theorem expectedFrameLength_append {buffer : List UInt8} (hlong : ¬ buffer.length < 4)
    (more : List UInt8) : expectedFrameLength (buffer ++ more) = expectedFrameLength buffer := by
  match buffer with
  | [] | [_] | [_, _] => simp at hlong
  | _ :: _ :: _ :: rest =>
      have hlength : ∀ n : ℕ, ¬ n + 1 + 1 + 1 < 2 ∧ ¬ n + 1 + 1 + 1 < 3 := by omega
      simp [expectedFrameLength, hlength]

theorem referenceRule_stable : referenceRule.Stable := by
  intro bytes more hdecided
  cases bytes with
  | nil => exact absurd referenceRule.verdict_nil hdecided
  | cons byte rest =>
      by_cases hhead : byte = 0xAA
      · by_cases hshort : (byte :: rest).length < 4
        · exact absurd (referenceRule_wait_of_short (by rw [hhead]; rfl) hshort) hdecided
        · have hlong : ¬ (byte :: rest ++ more).length < 4 := by
            rw [List.length_append]
            omega
          rw [referenceRule_verdict (by rw [hhead]; rfl) hshort] at hdecided ⊢
          rw [referenceRule_verdict (by rw [hhead]; rfl) hlong,
            expectedFrameLength_append hshort]
          cases hlength : expectedFrameLength (byte :: rest) with
          | none => rfl
          | some frameLength =>
              simp only [hlength] at hdecided ⊢
              by_cases hincomplete : (byte :: rest).length < frameLength
              · exact absurd (if_pos hincomplete) hdecided
              · have hmem := expectedFrameLength_mem hlength
                simp only [List.mem_cons, List.not_mem_nil, or_false] at hmem
                rw [if_neg hincomplete, if_neg (by rw [List.length_append]; omega),
                  List.getD_append _ _ _ _ (by omega)]
      · rw [List.cons_append, referenceRule_skip hhead, referenceRule_skip hhead]

/-- At most six bytes are kept. -/
theorem length_parseReceiveBuffer_le (buffer : List UInt8) :
    (parseReceiveBuffer buffer).2.length ≤ 6 := by
  induction buffer using parseReceiveBuffer.induct with
  | case1 buffer hshort =>
      rw [parseReceiveBuffer, if_pos hshort]
      dsimp only
      omega
  | case2 buffer hlong hindex =>
      rw [parseReceiveBuffer, if_neg hlong, hindex]
      exact Nat.zero_le 6
  | case3 buffer hlong headerIndex hindex buffer' hshort =>
      rw [parseReceiveBuffer, if_neg hlong, hindex]
      dsimp only
      rw [if_pos hshort]
      have hkept : (buffer.drop headerIndex).length < 4 := hshort
      exact Nat.le_of_lt_succ (hkept.trans (by decide))
  | case4 buffer hlong headerIndex hindex buffer' hlong' hlength ih =>
      rw [parseReceiveBuffer_header hlong hindex hlong', hlength]
      exact ih
  | case5 buffer hlong headerIndex hindex buffer' hlong' frameLength hlength hincomplete =>
      have hmem := expectedFrameLength_mem hlength
      simp only [List.mem_cons, List.not_mem_nil, or_false] at hmem
      rw [parseReceiveBuffer_header hlong hindex hlong', hlength]
      dsimp only
      rw [if_pos hincomplete]
      have hkept : (buffer.drop headerIndex).length < frameLength := hincomplete
      dsimp only
      omega
  | case6 buffer hlong headerIndex hindex buffer' hlong' frameLength hlength hcomplete htail ih =>
      rw [parseReceiveBuffer_header hlong hindex hlong', hlength]
      dsimp only
      rw [if_neg hcomplete, if_pos htail]
      exact ih
  | case7 buffer hlong headerIndex hindex buffer' hlong' frameLength hlength hcomplete htail ih =>
      rw [parseReceiveBuffer_header hlong hindex hlong', hlength]
      dsimp only
      rw [if_neg hcomplete, if_neg htail]
      exact ih

/-! ## Telemetry -/

theorem telemetryFrame_shape {frame : List UInt8} (hframe : TelemetryFrame frame) :
    frame.head? = some 0xAA ∧ 4 ≤ frame.length ∧
      expectedFrameLength frame = some frame.length ∧ frame.getD (frame.length - 1) 0 = 0x55 := by
  cases hframe with
  | @sensor type hi lo htype =>
      refine ⟨rfl, by simp, ?_, rfl⟩
      simp only [List.mem_cons, List.not_mem_nil, or_false] at htype
      rcases htype with rfl | rfl | rfl | rfl <;> rfl
  | obstacle | plantState | plantType => exact ⟨rfl, by simp, rfl, rfl⟩

/-- The panel takes a telemetry frame whatever follows it, and waits for the
rest of an incomplete one. -/
theorem framed_telemetryFrame {frame : List UInt8} (hframe : TelemetryFrame frame) :
    referenceRule.Framed frame := by
  obtain ⟨hhead, hlong, hlength, htail⟩ := telemetryFrame_shape hframe
  have hne : frame ≠ [] := List.ne_nil_of_length_pos (by omega)
  refine .of_take (fun more => ?_) (fun k hk => ?_)
  · rw [referenceRule_verdict (by rw [List.head?_append_of_ne_nil _ hne, hhead])
      (by rw [List.length_append]; omega), expectedFrameLength_append (by omega), hlength]
    dsimp only
    rw [if_neg (by rw [List.length_append]; omega), List.getD_append _ _ _ _ (by omega), htail,
      if_neg (by simp)]
  · rcases Nat.eq_zero_or_pos k with rfl | hpos
    · exact referenceRule.verdict_nil
    have hhead' : (frame.take k).head? = some 0xAA := by
      rw [List.head?_take, if_neg (by omega), hhead]
    by_cases hshort : (frame.take k).length < 4
    · exact referenceRule_wait_of_short hhead' hshort
    · have hsame := expectedFrameLength_append hshort (frame.drop k)
      rw [List.take_append_drop, hlength] at hsame
      rw [referenceRule_verdict hhead' hshort, ← hsame]
      exact if_pos (by rw [List.length_take]; omega)

theorem handleFrame_telemetryFrame {frame : List UInt8} (hframe : TelemetryFrame frame) :
    ∃ packet, handleFrame frame = [packet] := by
  cases hframe with
  | @sensor type hi lo htype =>
      simp only [List.mem_cons, List.not_mem_nil, or_false] at htype
      rcases htype with rfl | rfl | rfl | rfl <;> exact ⟨_, rfl⟩
  | obstacle | plantState | plantType => exact ⟨_, rfl⟩

/-- However the stream is cut, the packets emitted are those of the reference
scan, and of the stream parsed in one piece; at most six bytes are kept after a
call; and from what the firmware sends in any run one packet is emitted for each
frame, in order. -/
theorem panel_receives_scan {F : Type} [CFloat F] :
    (∀ chunks : List (List UInt8),
      (Rule.feed parseReceiveBuffer [] chunks).1 =
          (referenceRule.scan chunks.flatten).1.flatMap handleFrame ∧
        (Rule.feed parseReceiveBuffer [] chunks).1 = (parseReceiveBuffer chunks.flatten).1) ∧
      (∀ buffer, (parseReceiveBuffer buffer).2.length ≤ 6) ∧
      ∀ (events : List (TelemetryEvent F)) (chunks : List (List UInt8)),
        chunks.flatten = ((uplinkSystem F).run events).sent.flatten →
          List.Forall₂ (fun frame packet => handleFrame frame = [packet])
            ((uplinkSystem F).run events).sent (Rule.feed parseReceiveBuffer [] chunks).1 := by
  have hfeed : ∀ chunks : List (List UInt8), (Rule.feed parseReceiveBuffer [] chunks).1 =
      (referenceRule.scan chunks.flatten).1.flatMap handleFrame := fun chunks => by
    rw [referenceRule.feed_eq_scan parseReceiveBuffer_parsedBy referenceRule_stable [] (by simp),
      List.nil_append]
  refine ⟨fun chunks => ⟨hfeed chunks, ?_⟩, length_parseReceiveBuffer_le,
    fun events chunks hstream => ?_⟩
  · rw [hfeed, parseReceiveBuffer_parsedBy.emitted]
  · have hframes := (uplinkSystem_invariant.run events).2
    rw [hfeed, hstream,
      Rule.scan_flatten fun frame hmem => framed_telemetryFrame (hframes frame hmem)]
    generalize ((uplinkSystem F).run events).sent = frames at hframes
    dsimp only
    induction frames with
    | nil => exact .nil
    | cons frame frames ih =>
        obtain ⟨packet, hpacket⟩ := handleFrame_telemetryFrame (hframes frame List.mem_cons_self)
        rw [List.flatMap_cons, hpacket]
        exact .cons hpacket (ih fun f hf => hframes f (List.mem_cons_of_mem _ hf))

/-- Behind an obstacle header whose frame is incomplete, a leaf report is kept
waiting, where a scan that gives the header up would emit it. -/
theorem incomplete_frame_waits :
    (parseReceiveBuffer [0xAA, 0x20, 0xAA, 0x30, 0x01, 0x55]).1 ≠
      (impatientRule.scan [0xAA, 0x20, 0xAA, 0x30, 0x01, 0x55]).1.flatMap handleFrame := by
  decide +kernel

end PlantAssistant.Link
