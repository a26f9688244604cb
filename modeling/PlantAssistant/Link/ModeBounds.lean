import PlantAssistant.Vision.ModeLoop
import PlantAssistant.Link.ModeLink

/-! # The mode buffer and the mode queue stay short

The script's parser returns on every buffer and does what the typed parser does.
Each queued mode has taken four bytes out of a buffer of at most sixty-four, and
only an empty queue is filled.
-/

namespace PlantAssistant.Link

open Iteration PlantAssistant.Vision

/-! ## The loop is the typed parser -/

/-- What the typed parser is given or returns, with the codes of its modes queued
behind earlier entries. -/
def queued (earlier : List UInt8) (rx : List UInt8 × List Mode) : ModeGlobals where
  rxModeBuffer := rx.1
  rxModeQueue := earlier ++ rx.2.map Mode.code

/-- Whichever of the last entries are read as modes, the result is that of the
typed parser. -/
def Agrees (g out : ModeGlobals) : Prop :=
  ∀ earlier queue, g.rxModeQueue = earlier ++ queue.map Mode.code →
    out = queued earlier (parseModeBuffer g.rxModeBuffer queue)

/-- A byte is queued where the payload stands for a mode, and is its code. -/
theorem queue_payload (payload : List UInt8) (queue : List UInt8) :
    (if payload.length = 1 ∧ payload.getD 0 0 ∈ [Mode.code .plant, Mode.code .light] then
        queue ++ [payload.getD 0 0]
      else queue) = queue ++ (payloadMode payload).toList.map Mode.code := by
  unfold payloadMode
  by_cases hlength : payload.length = 1
  · obtain ⟨byte, rfl⟩ := List.length_eq_one_iff.mp hlength
    rw [List.getD_cons_zero]
    by_cases hplant : byte = Mode.code .plant
    · simp [hplant]
    · by_cases hlight : byte = Mode.code .light
      · simp [hlight, Mode.code]
      · simp [hplant, hlight]
  · simp [hlength]

variable {g : ModeGlobals}

theorem parsePass_absent (habsent : find rxPacketHeader g.rxModeBuffer = none) :
    g.parsePass = .inr { g with
      rxModeBuffer :=
        if 1 < g.rxModeBuffer.length then g.rxModeBuffer.drop (g.rxModeBuffer.length - 1)
        else g.rxModeBuffer } := by
  rw [ModeGlobals.parsePass, habsent]

/-- A pass at a header. -/
theorem parsePass_header {start : ℕ} (hstart : find rxPacketHeader g.rxModeBuffer = some start) :
    g.parsePass =
      match find rxPacketTail ((g.rxModeBuffer.drop start).drop 2) with
      | none => .inr { g with rxModeBuffer := g.rxModeBuffer.drop start }
      | some offset =>
          .inl {
            rxModeBuffer := (g.rxModeBuffer.drop start).drop (offset + 3)
            rxModeQueue := g.rxModeQueue ++ (payloadMode
              (((g.rxModeBuffer.drop start).take (offset + 3)).drop 2).dropLast).toList.map
                Mode.code } := by
  rw [ModeGlobals.parsePass, hstart]
  dsimp only
  simp only [drop_to_start, queue_payload]
  rfl

theorem pass_parse (g : ModeGlobals) (_ : True) :
    Pass ModeGlobals.parsePass (fun _ => True) (fun g => g.rxModeBuffer.length) Agrees g := by
  cases hstart : find rxPacketHeader g.rxModeBuffer with
  | none =>
      refine .leave _ (parsePass_absent hstart) ?_
      intro earlier queue hqueue
      rw [parseModeBuffer_absent hstart, queued, hqueue]
  | some start =>
      have hpass := parsePass_header hstart
      have hparse := parseModeBuffer_header hstart
      cases htail : find rxPacketTail ((g.rxModeBuffer.drop start).drop 2) with
      | none =>
          rw [htail] at hpass
          refine .leave _ hpass ?_
          intro earlier queue hqueue
          rw [hparse queue, htail, queued, hqueue]
      | some offset =>
          rw [htail] at hpass
          refine .next _ hpass trivial ?_ ?_
          · have hlt := lt_length_of_find_header hstart
            simp only [List.length_drop]
            omega
          · intro out hout earlier queue hqueue
            rw [hparse queue, htail]
            apply hout
            dsimp only
            rw [hqueue, List.append_assoc, List.map_append]

/-- The parser returns on every buffer. -/
theorem parse_queued (earlier : List UInt8) (buffer : List UInt8) (queue : List Mode) {fuel : ℕ}
    (hfuel : buffer.length < fuel) :
    (queued earlier (buffer, queue)).parseModeBuffer fuel =
      pure (queued earlier (parseModeBuffer buffer queue)) := by
  obtain ⟨out, hloop, hout⟩ := loop_returns pass_parse (s := queued earlier (buffer, queue))
    trivial hfuel
  rw [ModeGlobals.parseModeBuffer, hloop, hout earlier queue rfl]
  rfl

/-! ## Bytes taken out of the buffer -/

/-- A payload that stands for a mode has two bytes before it and one behind it. -/
theorem length_payloadMode_take (bytes : List UInt8) (count : ℕ) :
    4 * (payloadMode ((bytes.take count).drop 2).dropLast).toList.length ≤
      min count bytes.length := by
  unfold payloadMode
  split
  next hlength =>
    simp only [List.length_dropLast, List.length_drop, List.length_take] at hlength
    split_ifs
    · rw [Option.toList_some, List.length_singleton]
      omega
    · rw [Option.toList_some, List.length_singleton]
      omega
    · exact Nat.zero_le _
  next => exact Nat.zero_le _

/-- Every queued mode takes four bytes out of the buffer. -/
theorem length_parseModeBuffer_le (buffer : List UInt8) (queue : List Mode) :
    (parseModeBuffer buffer queue).1.length + 4 * (parseModeBuffer buffer queue).2.length ≤
      buffer.length + 4 * queue.length := by
  induction hsize : buffer.length using Nat.strongRecOn generalizing buffer queue with
  | ind size ih =>
      cases hstart : find rxPacketHeader buffer with
      | none =>
          rw [parseModeBuffer_absent hstart]
          dsimp only
          split
          next => rw [List.length_drop]; omega
          next => omega
      | some start =>
          have hlt := lt_length_of_find_header hstart
          rw [parseModeBuffer_header hstart]
          cases find rxPacketTail ((buffer.drop start).drop 2) with
          | none =>
              dsimp only
              rw [List.length_drop]
              omega
          | some offset =>
              have htaken := length_payloadMode_take (buffer.drop start) (offset + 3)
              have hrest := ih _ (by simp only [List.length_drop]; omega)
                ((buffer.drop start).drop (offset + 3)) (queue ++ (payloadMode
                  (((buffer.drop start).take (offset + 3)).drop 2).dropLast).toList) rfl
              rw [List.length_append] at hrest
              simp only [List.length_drop] at htaken hrest
              dsimp only
              omega

theorem length_extendModeBuffer_le (buffer data : List UInt8) :
    (extendModeBuffer buffer data).length ≤ rxBufferMax := by
  rw [extendModeBuffer_eq, List.length_drop, rxBufferMax]
  omega

/-! ## Calls -/

/-- The script's variables for those of the typed parser. -/
def globals (rx : ModeRx) : ModeGlobals := queued [] (rx.rxModeBuffer, rx.rxModeQueue)

/-- What holds after every call. -/
structure Bounded (rx : ModeRx) : Prop where
  buffer : rx.rxModeBuffer.length ≤ rxBufferMax
  queue : rx.rxModeQueue.length ≤ 15

variable {rx : ModeRx}

theorem Bounded.recv (hbounded : Bounded rx) (data : List UInt8) :
    Bounded (recvModePacket data rx).2 := by
  cases hqueue : rx.rxModeQueue with
  | cons code queue =>
      have hlength := hbounded.queue
      rw [hqueue, List.length_cons] at hlength
      unfold recvModePacket
      rw [hqueue]
      exact ⟨hbounded.buffer, Nat.le_of_succ_le hlength⟩
  | nil =>
      have hle := length_parseModeBuffer_le (extendModeBuffer rx.rxModeBuffer data) []
      have hread := length_extendModeBuffer_le rx.rxModeBuffer data
      rw [rxBufferMax] at hread
      unfold recvModePacket
      rw [hqueue]
      dsimp only
      cases hparsed : (parseModeBuffer (extendModeBuffer rx.rxModeBuffer data) []).2 with
      | nil =>
          rw [hparsed] at hle
          refine ⟨?_, Nat.zero_le _⟩
          dsimp only [rxBufferMax, List.length_nil] at hle ⊢
          omega
      | cons code queue =>
          -- at most sixteen modes were queued, and the first of them is taken
          rw [hparsed, List.length_cons] at hle
          refine ⟨?_, ?_⟩
          · dsimp only [rxBufferMax, List.length_nil] at hle ⊢
            omega
          · dsimp only [List.length_nil] at hle ⊢
            omega

theorem recv_closed (fuel : ℕ) (g : ModeGlobals) :
    g.recvModePacket fuel .closed = pure (none, g) := rfl

theorem recv_queued (fuel : ℕ) {port : PortRead} (hopen : port ≠ .closed) {code : Mode}
    {queue : List Mode} (hqueue : rx.rxModeQueue = code :: queue) (data : List UInt8) :
    (globals rx).recvModePacket fuel port =
      pure ((recvModePacket data rx).1.map Mode.code, globals (recvModePacket data rx).2) := by
  obtain ⟨buffer, _⟩ := rx
  obtain rfl := hqueue
  unfold ModeGlobals.recvModePacket
  rw [if_neg hopen]
  rfl

theorem recv_raises (fuel : ℕ) (hqueue : rx.rxModeQueue = []) :
    (globals rx).recvModePacket fuel .raises = pure (none, globals rx) := by
  obtain ⟨buffer, _⟩ := rx
  obtain rfl := hqueue
  rfl

theorem recv_returns {fuel : ℕ} (hfuel : rxBufferMax < fuel) (hqueue : rx.rxModeQueue = [])
    (data : List UInt8) :
    (globals rx).recvModePacket fuel (.returns data) =
      pure ((recvModePacket data rx).1.map Mode.code, globals (recvModePacket data rx).2) := by
  obtain ⟨buffer, _⟩ := rx
  obtain rfl := hqueue
  have hread := (length_extendModeBuffer_le buffer data).trans_lt hfuel
  have hcall : (globals ⟨buffer, []⟩).recvModePacket fuel (.returns data) =
      (queued [] (extendModeBuffer buffer data, [])).parseModeBuffer fuel >>=
        fun g => pure g.popMode := rfl
  rw [hcall, parse_queued [] (extendModeBuffer buffer data) [] hread, pure_bind]
  unfold recvModePacket
  dsimp only
  obtain ⟨left, modes⟩ := parseModeBuffer (extendModeBuffer buffer data) []
  cases modes <;> rfl

/-- A call that does not raise is one of the typed script; no other changes a variable. -/
theorem recv_bounded {fuel : ℕ} (hfuel : rxBufferMax < fuel) (port : PortRead)
    (hbounded : Bounded rx) :
    ∃ code rx', (globals rx).recvModePacket fuel port = pure (code, globals rx') ∧
      Bounded rx' := by
  by_cases hopen : port = .closed
  · subst hopen
    exact ⟨none, rx, recv_closed fuel _, hbounded⟩
  · cases hqueue : rx.rxModeQueue with
    | cons code queue =>
        exact ⟨_, _, recv_queued fuel hopen hqueue [], hbounded.recv []⟩
    | nil =>
        cases port with
        | closed => exact absurd rfl hopen
        | raises => exact ⟨none, rx, recv_raises fuel hqueue, hbounded⟩
        | returns data => exact ⟨_, _, recv_returns hfuel hqueue data, hbounded.recv data⟩

theorem calls_bounded {fuel : ℕ} (hfuel : rxBufferMax < fuel) (ports : List PortRead)
    (hbounded : Bounded rx) :
    ∃ rx', (globals rx).calls fuel ports = pure (globals rx') ∧ Bounded rx' := by
  induction ports generalizing rx with
  | nil => exact ⟨rx, rfl, hbounded⟩
  | cons port ports ih =>
      obtain ⟨code, next, hcall, hnext⟩ := recv_bounded hfuel port hbounded
      obtain ⟨rx', hcalls, hlast⟩ := ih hnext
      refine ⟨rx', ?_, hlast⟩
      rw [ModeGlobals.calls, List.foldlM_cons, hcall, map_pure, pure_bind]
      exact hcalls

/-- The parser returns on every buffer and every queue. After every run of calls
the buffer holds at most `RX_BUFFER_MAX` bytes and the queue at most fifteen
entries, all of them modes. -/
theorem mode_receive_bounded :
    (∀ (g : ModeGlobals) (fuel : ℕ), g.rxModeBuffer.length < fuel →
      ∃ out, g.parseModeBuffer fuel = pure out) ∧
    ∀ (ports : List PortRead) (fuel : ℕ), rxBufferMax < fuel →
      ∃ g, ModeGlobals.calls fuel ports {} = pure g ∧ g.rxModeBuffer.length ≤ 64 ∧
        g.rxModeQueue.length ≤ 15 ∧ ∀ code ∈ g.rxModeQueue, code = 1 ∨ code = 2 := by
  constructor
  · intro g fuel hfuel
    obtain ⟨out, hparse, -⟩ := loop_returns pass_parse (s := g) trivial hfuel
    exact ⟨out, hparse⟩
  · intro ports fuel hfuel
    have hstart : Bounded {} := ⟨Nat.zero_le _, Nat.zero_le _⟩
    obtain ⟨rx, hcalls, hbuffer, hqueue⟩ := calls_bounded hfuel ports hstart
    have hcodes : (globals rx).rxModeQueue = rx.rxModeQueue.map Mode.code := rfl
    refine ⟨globals rx, hcalls, hbuffer, ?_, ?_⟩
    · rw [hcodes, List.length_map]
      exact hqueue
    · rw [hcodes, List.forall_mem_map]
      intro mode _
      cases mode
      · exact .inl rfl
      · exact .inr rfl

/-- Sixteen frames in one read leave fifteen entries. -/
example :
    ModeGlobals.calls 65 [.returns ((List.replicate 16 Mode.light).flatMap modeFrame)] {} =
      pure { rxModeQueue := List.replicate 15 2 } := rfl

end PlantAssistant.Link
