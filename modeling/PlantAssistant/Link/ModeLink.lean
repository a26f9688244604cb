import PlantAssistant.Firmware.Usart4
import PlantAssistant.Framing.Blocks
import PlantAssistant.Transition.Run
import PlantAssistant.Vision.ModeSwitch

/-! # The mode link from the firmware to the vision script

The firmware sends mode frames in triples, and the script reads them in pieces
of any size. Its buffer is limited, so frames can be lost from a long read, but
never the last one that is complete.
-/

namespace PlantAssistant.Link

open Framing Transition PlantAssistant.Firmware PlantAssistant.Vision

/-! ## Parsing -/

def modeFrame (mode : Mode) : List UInt8 := [0xA4, 0xB4, mode.code, 0xC4]

theorem length_modeFrame (mode : Mode) : (modeFrame mode).length = 4 := rfl

theorem drop_to_start (buffer : List UInt8) (start : ℕ) :
    (if 0 < start then buffer.drop start else buffer) = buffer.drop start := by
  split
  next => rfl
  next hzero => rw [Nat.eq_zero_of_not_pos hzero, List.drop_zero]

/-- The parser at a header. -/
theorem parseModeBuffer_header {buffer : List UInt8} {start : ℕ}
    (hstart : find rxPacketHeader buffer = some start) (queue : List Mode) :
    parseModeBuffer buffer queue =
      match find rxPacketTail ((buffer.drop start).drop 2) with
      | none => (buffer.drop start, queue)
      | some offset =>
          parseModeBuffer ((buffer.drop start).drop (offset + 3))
            (queue ++ (payloadMode
              (((buffer.drop start).take (offset + 3)).drop 2).dropLast).toList) := by
  rw [parseModeBuffer]
  split
  next hnone =>
    rw [hstart] at hnone
    cases hnone
  next start' hsome =>
    obtain rfl := Option.some.inj (hstart.symm.trans hsome)
    dsimp only
    rw [drop_to_start]
    rfl

theorem payloadMode_code (mode : Mode) : payloadMode [mode.code] = some mode := by
  cases mode <;> rfl

theorem find_header_frame (mode : Mode) (rest : List UInt8) :
    find rxPacketHeader (modeFrame mode ++ rest) = some 0 := rfl

theorem parseModeBuffer_frame (mode : Mode) (rest : List UInt8) (queue : List Mode) :
    parseModeBuffer (modeFrame mode ++ rest) queue = parseModeBuffer rest (queue ++ [mode]) := by
  have htail : find rxPacketTail ((modeFrame mode ++ rest).drop 2) = some 1 := by
    cases mode <;> rfl
  rw [parseModeBuffer_header (find_header_frame mode rest), List.drop_zero, htail]
  change parseModeBuffer rest (queue ++ (payloadMode [mode.code]).toList) = _
  rw [payloadMode_code]
  rfl

theorem parseModeBuffer_frames (modes : List Mode) (rest : List UInt8) (queue : List Mode) :
    parseModeBuffer (modes.flatMap modeFrame ++ rest) queue =
      parseModeBuffer rest (queue ++ modes) := by
  induction modes generalizing queue with
  | nil => simp
  | cons mode modes ih =>
      rw [List.flatMap_cons, List.append_assoc, parseModeBuffer_frame, ih, List.append_assoc]
      rfl

theorem parseModeBuffer_absent {buffer : List UInt8} (hnone : find rxPacketHeader buffer = none)
    (queue : List Mode) :
    parseModeBuffer buffer queue =
      (if 1 < buffer.length then buffer.drop (buffer.length - 1) else buffer, queue) := by
  rw [parseModeBuffer]
  split
  next => rfl
  next start hsome =>
    rw [hnone] at hsome
    cases hsome

theorem parseModeBuffer_none {buffer : List UInt8} (hnone : find rxPacketHeader buffer = none)
    (hshort : buffer.length ≤ 1) (queue : List Mode) :
    parseModeBuffer buffer queue = (buffer, queue) := by
  rw [parseModeBuffer_absent hnone, if_neg (Nat.not_lt.mpr hshort)]

/-- The beginning of a frame is kept. -/
theorem parseModeBuffer_part (mode : Mode) {size : ℕ} (hsize : size < 4) (queue : List Mode) :
    parseModeBuffer ((modeFrame mode).take size) queue = ((modeFrame mode).take size, queue) := by
  match size with
  | 0 =>
      apply parseModeBuffer_none
      · rfl
      · exact Nat.zero_le 1
  | 1 =>
      apply parseModeBuffer_none
      · rfl
      · exact le_refl 1
  | 2 =>
      have hstart : find rxPacketHeader ((modeFrame mode).take 2) = some 0 := rfl
      rw [parseModeBuffer_header hstart]
      rfl
  | 3 =>
      have hstart : find rxPacketHeader ((modeFrame mode).take 3) = some 0 := rfl
      rw [parseModeBuffer_header hstart]
      cases mode <;> rfl

/-- The end of a frame is given up for the next one. -/
theorem parseModeBuffer_rest (mode next : Mode) {count : ℕ} (hcount : 0 < count)
    (rest : List UInt8) (queue : List Mode) :
    parseModeBuffer ((modeFrame mode).drop count ++ (modeFrame next ++ rest)) queue =
      parseModeBuffer (modeFrame next ++ rest) queue := by
  have hskip : ∀ {buffer : List UInt8} {start : ℕ},
      find rxPacketHeader buffer = some start →
      find rxPacketHeader (buffer.drop start) = some 0 →
      parseModeBuffer buffer queue = parseModeBuffer (buffer.drop start) queue := by
    intro buffer start hstart hzero
    rw [parseModeBuffer_header hstart, parseModeBuffer_header hzero, List.drop_zero]
  match count with
  | 1 =>
      have hstart : find rxPacketHeader
          ((modeFrame mode).drop 1 ++ (modeFrame next ++ rest)) = some 3 := by cases mode <;> rfl
      exact hskip hstart rfl
  | 2 =>
      have hstart : find rxPacketHeader
          ((modeFrame mode).drop 2 ++ (modeFrame next ++ rest)) = some 2 := by cases mode <;> rfl
      exact hskip hstart rfl
  | 3 =>
      have hstart : find rxPacketHeader
          ((modeFrame mode).drop 3 ++ (modeFrame next ++ rest)) = some 1 := rfl
      exact hskip hstart rfl
  | count + 4 =>
      have hnil : (modeFrame mode).drop (count + 4) = [] :=
        List.drop_eq_nil_of_le (by rw [length_modeFrame]; omega)
      rw [hnil, List.nil_append]

/-- A stream cut anywhere is whole frames and a part of the next one. -/
theorem take_frames (modes : List Mode) (length : ℕ) :
    (modes.flatMap modeFrame).take length =
      (modes.take (length / 4)).flatMap modeFrame ++
        ((modes.drop (length / 4)).flatMap modeFrame).take (length % 4) := by
  conv_lhs => rw [← Nat.div_add_mod length 4]
  rw [List.take_add, take_flatMap_blocks length_modeFrame, drop_flatMap_blocks length_modeFrame]

/-- The part is kept. -/
theorem parseModeBuffer_lastPart (modes : List Mode) (length : ℕ) (queue : List Mode) :
    parseModeBuffer ((modes.flatMap modeFrame).take (length % 4)) queue =
      ((modes.flatMap modeFrame).take (length % 4), queue) := by
  have hshort : length % 4 < 4 := Nat.mod_lt _ (by decide)
  cases modes with
  | nil =>
      rw [List.flatMap_nil, List.take_nil]
      exact parseModeBuffer_part .plant (Nat.zero_lt_succ 3) queue
  | cons mode rest =>
      rw [List.flatMap_cons, List.take_append_of_le_length (Nat.le_of_lt hshort)]
      exact parseModeBuffer_part mode hshort queue

/-- The frames in front of the one that a cut goes through are gone. -/
theorem drop_frames {modes : List Mode} {excess : ℕ} (hexcess : excess ≤ 4 * modes.length)
    (part : List UInt8) :
    (modes.flatMap modeFrame ++ part).drop excess =
      ((modes.drop (excess / 4)).flatMap modeFrame ++ part).drop (excess % 4) := by
  conv_lhs => rw [← Nat.div_add_mod excess 4]
  rw [← List.drop_drop, List.drop_append_of_le_length, drop_flatMap_blocks length_modeFrame]
  rw [length_flatMap_blocks length_modeFrame]
  omega

/-- A read ends somewhere in a stream of frames, and the limit of the buffer may
have taken its beginning. Complete frames that are left whole are queued, and
the beginning of the last one is kept. -/
theorem parseModeBuffer_read {modes : List Mode} {length excess : ℕ}
    (hlength : length ≤ 4 * modes.length) (hexcess : excess = 0 ∨ excess + 8 ≤ length) :
    parseModeBuffer (((modes.flatMap modeFrame).take length).drop excess) [] =
      (((modes.drop (length / 4)).flatMap modeFrame).take (length % 4),
        (modes.take (length / 4)).drop (excess ⌈/⌉ 4)) := by
  have hpart := parseModeBuffer_lastPart (modes.drop (length / 4)) length
  have hwhole : (modes.take (length / 4)).length = length / 4 := by
    rw [List.length_take]
    omega
  rw [take_frames, drop_frames (by omega), Nat.ceilDiv_eq_add_pred_div]
  generalize ((modes.drop (length / 4)).flatMap modeFrame).take (length % 4) = part at hpart ⊢
  generalize modes.take (length / 4) = whole at hwhole ⊢
  by_cases hcut : excess % 4 = 0
  · have hceil : (excess + 4 - 1) / 4 = excess / 4 := by omega
    rw [hcut, List.drop_zero, hceil, parseModeBuffer_frames, hpart, List.nil_append]
  · have hceil : (excess + 4 - 1) / 4 = excess / 4 + 1 := by omega
    rw [hceil, ← List.drop_drop]
    have htwo : 2 ≤ (whole.drop (excess / 4)).length := by
      rw [List.length_drop, hwhole]
      omega
    match hrest : whole.drop (excess / 4) with
    | [] | [_] => simp [hrest] at htwo
    | mode :: next :: rest =>
        have hinside : excess % 4 ≤ (modeFrame mode).length := by
          rw [length_modeFrame]
          omega
        rw [List.flatMap_cons, List.append_assoc, List.drop_append_of_le_length hinside,
          List.flatMap_cons, List.append_assoc, parseModeBuffer_rest mode next (by omega),
          ← List.append_assoc, ← List.flatMap_cons, parseModeBuffer_frames, hpart]
        rfl

/-! ## The system -/

/-- The modes of the frames that a call of `Maixcam_SetMode` sends. -/
def sentModes (mode : ℕ) : List Mode :=
  if mode = 1 then [.plant, .plant, .plant]
  else if mode = 2 then [.light, .light, .light]
  else []

theorem maixcamSetMode_bytes (mode cnt : ℕ) :
    (maixcamSetMode mode cnt).2 =
      (if (maixcamSetMode mode cnt).2 = [] then [] else sentModes mode).flatMap modeFrame := by
  unfold maixcamSetMode
  dsimp only
  split
  next =>
    by_cases hplant : mode = 1
    · subst hplant
      rfl
    · by_cases hlight : mode = 2
      · subst hlight
        rfl
      · simp [hplant, hlight]
  next => rfl

/-- Both ends, and the bytes sent and not yet read. The last four fields record
the frames sent, the bytes read, the stretches of the stream that the limit of
the buffer has dropped, and the modes taken from the queue. -/
structure ModeLink where
  cnt : ℕ := 0
  wire : List UInt8 := []
  rx : ModeRx := {}
  mode : Mode := defaultMode
  sent : List Mode := []
  received : ℕ := 0
  dropped : List (ℕ × ℕ) := []
  taken : List Mode := []
deriving DecidableEq, Repr

/-- A call of `Maixcam_SetMode`, or one of `recv_mode_switch`, whose reads return
so many bytes if they have arrived. -/
inductive ModeEvent where
  | setMode (mode : ℕ)
  | recvModeSwitch (sizes : List ℕ)

namespace ModeLink

/-- `recv_mode_packet`, with a read of the given size. -/
def poll (size : ℕ) (s : ModeLink) : Option Mode × ModeLink :=
  match s.rx.rxModeQueue with
  | _ :: _ =>
      let out := recvModePacket [] s.rx
      (out.1, { s with rx := out.2, taken := s.taken ++ out.1.toList })
  | [] =>
      let data := s.wire.take size
      let received := s.received + data.length
      let length := (s.rx.rxModeBuffer ++ data).length
      let out := recvModePacket data s.rx
      (out.1,
        { s with
          wire := s.wire.drop size
          rx := out.2
          received := received
          dropped :=
            if rxBufferMax < length then
              s.dropped ++ [(received - length, received - rxBufferMax)]
            else s.dropped
          taken := s.taken ++ out.1.toList })

/-- The polls of one call read one size after the other. -/
def pollNext (ser : ModeLink × List ℕ) : Option Mode × (ModeLink × List ℕ) :=
  let out := ser.1.poll (ser.2.headD 0)
  (out.1, out.2, ser.2.tail)

def step (s : ModeLink) : ModeEvent → ModeLink
  | .setMode mode =>
      let out := maixcamSetMode mode s.cnt
      { s with
        cnt := out.1
        wire := s.wire ++ out.2
        sent := s.sent ++ if out.2 = [] then [] else sentModes mode }
  | .recvModeSwitch sizes =>
      let out := Vision.recvModeSwitch pollNext s.mode (s, sizes)
      { out.2.1 with mode := out.1.getD s.mode }

/-- The modes of the frames read completely. -/
def completed (s : ModeLink) : List Mode := s.sent.take (s.received / 4)

end ModeLink

def modeSystem : System ModeLink ModeEvent where
  init := {}
  step := ModeLink.step

/-! ## Invariant -/

/-- The buffer holds the beginning of the first frame that is not complete, and
the modes taken and queued are those of the complete frames left whole, up to
the last one. -/
structure ModeLinkInv (s : ModeLink) : Prop where
  stream : s.rx.rxModeBuffer ++ s.wire = (s.sent.drop (s.received / 4)).flatMap modeFrame
  length : s.rx.rxModeBuffer.length = s.received % 4
  count : s.received / 4 ≤ s.sent.length
  past : ∀ stretch ∈ s.dropped, stretch.2 ≤ 4 * (s.received / 4)
  queued : s.taken ++ s.rx.rxModeQueue = intact 4 s.dropped s.completed
  last : (s.taken ++ s.rx.rxModeQueue).getLast? = s.completed.getLast?

theorem ModeLinkInv.setMode {s : ModeLink} (hinv : ModeLinkInv s) (mode : ℕ) :
    ModeLinkInv (s.step (.setMode mode)) := by
  have hcompleted : (s.step (.setMode mode)).completed = s.completed := by
    unfold ModeLink.completed ModeLink.step
    dsimp only
    rw [List.take_append_of_le_length hinv.count]
  refine ⟨?_, hinv.length, ?_, hinv.past, ?_, ?_⟩
  · dsimp only [ModeLink.step]
    rw [← List.append_assoc, hinv.stream, List.drop_append_of_le_length hinv.count,
      List.flatMap_append, ← maixcamSetMode_bytes]
  · dsimp only [ModeLink.step]
    rw [List.length_append]
    exact hinv.count.trans (Nat.le_add_right _ _)
  · rw [hcompleted]
    exact hinv.queued
  · rw [hcompleted]
    exact hinv.last

/-- A mode is taken from the queue. -/
theorem ModeLinkInv.pop {s : ModeLink} (hinv : ModeLinkInv s) {code : Mode} {queue : List Mode}
    (hqueue : s.rx.rxModeQueue = code :: queue) (size : ℕ) :
    ModeLinkInv (s.poll size).2 := by
  have hsame : s.taken ++ [code] ++ queue = s.taken ++ s.rx.rxModeQueue := by
    rw [hqueue, List.append_assoc]
    rfl
  have hqueued := hinv.queued
  have hlast := hinv.last
  rw [← hsame] at hqueued hlast
  simp only [ModeLink.poll, recvModePacket, hqueue]
  exact ⟨hinv.stream, hinv.length, hinv.count, hinv.past, hqueued, hlast⟩

/-- What is taken or queued after a read. -/
theorem recvModePacket_empty {rx : ModeRx} (hqueue : rx.rxModeQueue = []) (data : List UInt8) :
    let parsed := parseModeBuffer (extendModeBuffer rx.rxModeBuffer data) []
    let out := recvModePacket data rx
    out.2.rxModeBuffer = parsed.1 ∧ out.1.toList ++ out.2.rxModeQueue = parsed.2 := by
  unfold recvModePacket
  rw [hqueue]
  dsimp only
  cases hparsed : (parseModeBuffer (extendModeBuffer rx.rxModeBuffer data) []).2 with
  | nil => exact ⟨rfl, rfl⟩
  | cons code queue => exact ⟨rfl, rfl⟩

theorem extendModeBuffer_eq (buffer data : List UInt8) :
    extendModeBuffer buffer data = (buffer ++ data).drop ((buffer ++ data).length - 64) := by
  unfold extendModeBuffer rxBufferMax
  dsimp only
  by_cases hlong : 64 < (buffer ++ data).length
  · rw [if_pos hlong]
  · rw [if_neg hlong, Nat.sub_eq_zero_of_le (Nat.not_lt.mp hlong), List.drop_zero]

/-- What a read makes of the frames that were not complete before it. -/
theorem ModeLinkInv.parsed {s : ModeLink} (hinv : ModeLinkInv s) (size : ℕ) :
    let data := s.wire.take size
    let length := (s.rx.rxModeBuffer ++ data).length
    let fresh := s.sent.drop (s.received / 4)
    let part := ((fresh.drop (length / 4)).flatMap modeFrame).take (length % 4)
    parseModeBuffer (extendModeBuffer s.rx.rxModeBuffer data) [] =
        (part, (fresh.take (length / 4)).drop ((length - 64) ⌈/⌉ 4)) ∧
      length ≤ 4 * fresh.length ∧
      part ++ s.wire.drop size = (fresh.drop (length / 4)).flatMap modeFrame := by
  intro data length fresh part
  have hwhole : s.rx.rxModeBuffer ++ data ++ s.wire.drop size = fresh.flatMap modeFrame := by
    rw [List.append_assoc, List.take_append_drop]
    exact hinv.stream
  have hbytes : s.rx.rxModeBuffer ++ data = (fresh.flatMap modeFrame).take length := by
    rw [← hwhole, List.take_left]
  have hlength : length ≤ 4 * fresh.length := by
    rw [← length_flatMap_blocks length_modeFrame, ← hwhole]
    exact (List.prefix_append _ _).length_le
  refine ⟨?_, hlength, ?_⟩
  · rw [extendModeBuffer_eq]
    change parseModeBuffer ((s.rx.rxModeBuffer ++ data).drop (length - 64)) [] = _
    rw [hbytes]
    exact parseModeBuffer_read hlength (by omega)
  · have hrest : s.wire.drop size =
        ((fresh.drop (length / 4)).flatMap modeFrame).drop (length % 4) := by
      rw [← drop_flatMap_blocks length_modeFrame, List.drop_drop, Nat.div_add_mod, ← hwhole,
        List.drop_left]
    rw [hrest]
    exact List.take_append_drop _ _

/-- The link after a read that leaves `length` bytes in the buffer, from the
first frame that was not complete on. -/
def ModeLink.advance (s : ModeLink) (length : ℕ) (wire : List UInt8) (rx : ModeRx)
    (codes : List Mode) : ModeLink :=
  { s with
    wire := wire
    rx := rx
    received := 4 * (s.received / 4) + length
    dropped :=
      if rxBufferMax < length then
        s.dropped ++ [(4 * (s.received / 4), 4 * (s.received / 4) + (length - 64))]
      else s.dropped
    taken := s.taken ++ codes }

theorem ModeLinkInv.length_completed {s : ModeLink} (hinv : ModeLinkInv s) :
    s.completed.length = s.received / 4 := by
  rw [ModeLink.completed, List.length_take, Nat.min_eq_left hinv.count]

theorem completed_advance (s : ModeLink) (length : ℕ) (wire : List UInt8) (rx : ModeRx)
    (codes : List Mode) :
    (s.advance length wire rx codes).completed =
      s.completed ++ (s.sent.drop (s.received / 4)).take (length / 4) := by
  have hframes : (4 * (s.received / 4) + length) / 4 = s.received / 4 + length / 4 := by omega
  unfold ModeLink.completed ModeLink.advance
  dsimp only
  rw [hframes, List.take_add]

/-- What the limit drops lies before the frames that were not complete. -/
theorem ModeLinkInv.past_advance {s : ModeLink} (hinv : ModeLinkInv s) (length : ℕ)
    (wire : List UInt8) (rx : ModeRx) (codes : List Mode) :
    ∀ stretch ∈ (s.advance length wire rx codes).dropped,
      stretch.2 ≤ 4 * ((s.advance length wire rx codes).received / 4) := by
  intro stretch hmem
  have hmax : rxBufferMax = 64 := rfl
  have hearlier : ∀ stretch ∈ s.dropped,
      stretch.2 ≤ 4 * ((4 * (s.received / 4) + length) / 4) := by
    intro stretch hmem
    have hle := hinv.past stretch hmem
    omega
  dsimp only [ModeLink.advance] at hmem ⊢
  split at hmem
  · rcases List.mem_append.mp hmem with hbefore | hnew
    · exact hearlier stretch hbefore
    · rw [List.mem_singleton.mp hnew]
      dsimp only
      omega
  · exact hearlier stretch hmem

theorem ModeLinkInv.advance {s : ModeLink} (hinv : ModeLinkInv s) (hqueue : s.rx.rxModeQueue = [])
    {length : ℕ} {wire : List UInt8} {rx : ModeRx} {codes : List Mode}
    (hlength : length ≤ 4 * (s.sent.drop (s.received / 4)).length)
    (hbuffer : rx.rxModeBuffer.length = length % 4)
    (hstream : rx.rxModeBuffer ++ wire =
      ((s.sent.drop (s.received / 4)).drop (length / 4)).flatMap modeFrame)
    (hcodes : codes ++ rx.rxModeQueue =
      ((s.sent.drop (s.received / 4)).take (length / 4)).drop ((length - 64) ⌈/⌉ 4)) :
    ModeLinkInv (s.advance length wire rx codes) := by
  have hqueued := hinv.queued
  have hlast := hinv.last
  rw [hqueue, List.append_nil] at hqueued hlast
  have hcount := hinv.count
  have hmax : rxBufferMax = 64 := rfl
  rw [List.length_drop] at hlength
  refine ⟨?_, ?_, ?_, hinv.past_advance length wire rx codes, ?_, ?_⟩
  · have hframes : (4 * (s.received / 4) + length) / 4 = s.received / 4 + length / 4 := by omega
    dsimp only [ModeLink.advance]
    rw [hframes, ← List.drop_drop]
    exact hstream
  · dsimp only [ModeLink.advance]
    rw [hbuffer]
    omega
  · dsimp only [ModeLink.advance]
    omega
  · have hpast : ∀ stretch ∈ s.dropped, stretch.2 ≤ 4 * s.completed.length := by
      rw [hinv.length_completed]
      exact hinv.past
    rw [completed_advance]
    dsimp only [ModeLink.advance]
    rw [List.append_assoc, hcodes, hqueued]
    split
    next =>
      rw [← hinv.length_completed]
      exact (intact_append_dropped (by decide) hpast _ _).symm
    next hfits =>
      have hzero : length - 64 = 0 := by omega
      rw [hzero, zero_ceilDiv, List.drop_zero, intact_append hpast]
  · rw [completed_advance]
    dsimp only [ModeLink.advance]
    rw [List.append_assoc, hcodes, List.getLast?_append, List.getLast?_append, hlast,
      List.getLast?_drop, List.length_take, List.length_drop]
    congr 1
    split
    next hnone =>
      -- the limit leaves at least one complete frame, if there was any
      rw [Nat.ceilDiv_eq_add_pred_div] at hnone
      have hzero : length / 4 = 0 := by omega
      rw [hzero, List.take_zero]
      rfl
    next => rfl

/-- The buffer is read and parsed. -/
theorem ModeLinkInv.read {s : ModeLink} (hinv : ModeLinkInv s) (hqueue : s.rx.rxModeQueue = [])
    (size : ℕ) : ModeLinkInv (s.poll size).2 := by
  obtain ⟨hparsed, hlength, hrest⟩ := hinv.parsed size
  obtain ⟨hbuffer, htaken⟩ := recvModePacket_empty hqueue (s.wire.take size)
  rw [hparsed] at hbuffer htaken
  have hold := hinv.length
  have hpart : (recvModePacket (s.wire.take size) s.rx).2.rxModeBuffer.length =
      (s.rx.rxModeBuffer ++ s.wire.take size).length % 4 := by
    rw [hbuffer, List.length_take, length_flatMap_blocks length_modeFrame, List.length_drop]
    omega
  have hadvance := hinv.advance hqueue hlength hpart (by rw [hbuffer]; exact hrest) htaken
  have hreceived : s.received + (s.wire.take size).length =
      4 * (s.received / 4) + (s.rx.rxModeBuffer ++ s.wire.take size).length := by
    rw [List.length_append]
    omega
  have hstep : (s.poll size).2 = s.advance (s.rx.rxModeBuffer ++ s.wire.take size).length
      (s.wire.drop size) (recvModePacket (s.wire.take size) s.rx).2
      (recvModePacket (s.wire.take size) s.rx).1.toList := by
    simp only [ModeLink.poll, ModeLink.advance, hqueue, hreceived, Nat.add_sub_cancel]
    congr 1
    split
    next hlong => rw [Nat.add_sub_assoc (Nat.le_of_lt hlong)]; rfl
    next => rfl
  rw [hstep]
  exact hadvance

theorem ModeLinkInv.poll {s : ModeLink} (hinv : ModeLinkInv s) (size : ℕ) :
    ModeLinkInv (s.poll size).2 := by
  cases hqueue : s.rx.rxModeQueue with
  | nil => exact hinv.read hqueue size
  | cons code queue => exact hinv.pop hqueue size

/-! ## The mode -/

/-- The mode of the last code taken, or the initial one. -/
def lastTaken (s : ModeLink) : Mode := s.taken.getLast?.getD defaultMode

theorem lastTaken_poll (size : ℕ) (s : ModeLink) :
    lastTaken (s.poll size).2 = (s.poll size).1.getD (lastTaken s) ∧
      (s.poll size).2.mode = s.mode := by
  have hlast : ∀ code : Option Mode, (s.taken ++ code.toList).getLast?.getD defaultMode =
      code.getD (s.taken.getLast?.getD defaultMode) := by
    intro code
    cases code with
    | none => simp
    | some code => simp
  unfold ModeLink.poll
  split
  · exact ⟨hlast _, rfl⟩
  · exact ⟨hlast _, rfl⟩

/-- What every poll preserves, a call preserves, and it returns a mode if the
last code it took is not the current mode. -/
theorem pollMode_spec (current : Mode) (remaining : ℕ) {s : ModeLink} (sizes : List ℕ)
    (hinv : ModeLinkInv s) (hcurrent : lastTaken s = current) :
    let out := pollMode ModeLink.pollNext current remaining (s, sizes)
    ModeLinkInv out.2.1 ∧ lastTaken out.2.1 = out.1.getD current := by
  induction remaining generalizing s sizes with
  | zero => exact ⟨hinv, hcurrent⟩
  | succ remaining ih =>
      have hkept := hinv.poll (sizes.headD 0)
      obtain ⟨hlast, -⟩ := lastTaken_poll (sizes.headD 0) s
      unfold pollMode ModeLink.pollNext
      dsimp only
      generalize s.poll (sizes.headD 0) = out at hkept hlast ⊢
      obtain ⟨code, s'⟩ := out
      cases code with
      | none => exact ⟨hkept, hlast.trans hcurrent⟩
      | some code =>
          dsimp only
          split
          next => exact ⟨hkept, hlast⟩
          next hsame => exact ih sizes.tail hkept (hlast.trans (not_not.mp hsame))

theorem modeSystem_invariant :
    modeSystem.Invariant fun s => ModeLinkInv s ∧ s.mode = lastTaken s where
  init := ⟨⟨rfl, rfl, le_refl 0, by simp [modeSystem], rfl, rfl⟩, rfl⟩
  step s event hinv := by
    obtain ⟨hlink, hmode⟩ := hinv
    cases event with
    | setMode mode => exact ⟨hlink.setMode mode, hmode⟩
    | recvModeSwitch sizes =>
        obtain ⟨hkept, hlast⟩ := pollMode_spec s.mode modePollPacketsPerCall sizes hlink hmode.symm
        exact ⟨⟨hkept.stream, hkept.length, hkept.count, hkept.past, hkept.queued, hkept.last⟩,
          hlast.symm⟩

/-- In every run of the link: the modes taken from the queue, and those still in
it, are those of the frames read completely of which the limit of the buffer
dropped nothing, in order. The mode is that of the last code taken. When the
queue is empty, it is that of the last frame read completely. -/
theorem mode_follows_frames (events : List ModeEvent) :
    let s := modeSystem.run events
    s.taken ++ s.rx.rxModeQueue = intact 4 s.dropped s.completed ∧
      s.mode = s.taken.getLast?.getD defaultMode ∧
      (s.rx.rxModeQueue = [] → s.mode = s.completed.getLast?.getD defaultMode) := by
  intro s
  obtain ⟨hlink, hmode⟩ := modeSystem_invariant.run events
  change ModeLinkInv s at hlink
  change s.mode = s.taken.getLast?.getD defaultMode at hmode
  refine ⟨hlink.queued, hmode, ?_⟩
  intro hqueue
  have hlast := hlink.last
  rw [hqueue, List.append_nil] at hlast
  rw [hmode, hlast]

end PlantAssistant.Link
