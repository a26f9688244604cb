import PlantAssistant.Framing.Scan
import PlantAssistant.Firmware.Usart4
import PlantAssistant.Firmware.Usart5

/-! # Receive threads of UART4 and UART5

Both threads append what they read to a buffer, cut frames out of it and hand
each frame to their handler. They differ in the header byte and in the frame
formats. The handler gets a pointer into the buffer, so it also sees the bytes
behind its frame.
-/

namespace PlantAssistant.Firmware

open Framing

/-- `UART4_MAX_LEN` and `UART5_MAX_LEN`. -/
abbrev uartMaxLen : ℕ := 400

/-- `parse_buf` and `parse_len`. Only the first `length` bytes were received;
the others are whatever memory holds. -/
structure RxBuffer where
  bytes : Memory
  length : ℕ

namespace RxBuffer

/-- The received bytes. -/
def content (b : RxBuffer) : List UInt8 :=
  (List.range b.length).map b.bytes

def ofList (l : List UInt8) : RxBuffer where
  bytes k := l.getD k 0
  length := l.length

@[simp] theorem length_content (b : RxBuffer) : b.content.length = b.length := by
  simp [content]

theorem getElem_content (b : RxBuffer) {k : ℕ} (hk : k < b.content.length) :
    b.content[k] = b.bytes k := by
  simp [content]

@[simp] theorem content_ofList (l : List UInt8) : (ofList l).content = l := by
  apply List.ext_getElem (by simp [ofList])
  intro k hk hl
  simp [getElem_content, ofList, List.getD_eq_getElem?_getD, List.getElem?_eq_getElem hl]

/-- What stands behind position `i` in the received bytes. -/
theorem getD_drop_content (b : RxBuffer) {i k : ℕ} (hk : i + k < b.length) :
    (b.content.drop i).getD k 0 = b.bytes (i + k) := by
  have hlt : i + k < b.content.length := by simpa using hk
  rw [List.getD_eq_getElem?_getD, List.getElem?_drop, List.getElem?_eq_getElem hlt,
    getElem_content, Option.getD_some]

/-- The bytes a handler is given from position `i` on. -/
theorem take_drop_content (b : RxBuffer) {i size : ℕ} (hle : i + size ≤ b.length) :
    (b.content.drop i).take size = (List.range size).map (fun k => b.bytes (i + k)) := by
  apply List.ext_getElem
  · simp only [List.length_take, List.length_drop, length_content, List.length_map,
      List.length_range]
    omega
  · intro k _ _
    simp [getElem_content]

/-- `uart4_shift_left` and `uart5_shift_left`. -/
def shiftLeft (count : ℕ) (b : RxBuffer) : RxBuffer :=
  if b.length ≤ count then { b with length := 0 }
  else
    { bytes := fun k => if k < b.length - count then b.bytes (k + count) else b.bytes k
      length := b.length - count }

theorem length_shiftLeft (count : ℕ) (b : RxBuffer) :
    (b.shiftLeft count).length = b.length - count := by
  unfold shiftLeft
  split
  next hle => simp [Nat.sub_eq_zero_of_le hle]
  next => rfl

theorem content_shiftLeft (count : ℕ) (b : RxBuffer) :
    (b.shiftLeft count).content = b.content.drop count := by
  apply List.ext_getElem (by simp [length_shiftLeft])
  intro k hk hdrop
  rw [getElem_content, List.getElem_drop, getElem_content]
  simp only [length_content, length_shiftLeft] at hk
  unfold shiftLeft
  rw [if_neg (by omega)]
  simp [hk, Nat.add_comm]

/-- `memcpy(parse_buf + parse_len, chunk, size)` after the overflow test. -/
def append (chunk : List UInt8) (b : RxBuffer) : RxBuffer :=
  let start := if uartMaxLen < b.length + chunk.length then 0 else b.length
  { bytes := fun k =>
      if start ≤ k ∧ k < start + chunk.length then chunk.getD (k - start) 0 else b.bytes k
    length := start + chunk.length }

theorem content_append {chunk : List UInt8} {b : RxBuffer}
    (hfits : b.length + chunk.length ≤ uartMaxLen) :
    (b.append chunk).content = b.content ++ chunk := by
  have hstart : ¬ uartMaxLen < b.length + chunk.length := by omega
  apply List.ext_getElem
  · simp [append, hstart]
  intro k hk happend
  simp only [List.length_append, length_content] at happend
  rw [getElem_content]
  simp only [append, if_neg hstart]
  by_cases hold : k < b.length
  · rw [if_neg (by omega), List.getElem_append_left (by simpa using hold), getElem_content]
  · have hnew : k - b.length < chunk.length := by omega
    rw [if_pos (by omega), List.getElem_append_right (by simpa using Nat.le_of_not_lt hold),
      List.getD_eq_getElem?_getD]
    simp [List.getElem?_eq_getElem hnew]

/-- A read that does not fit replaces what was received. -/
theorem content_append_of_lt {chunk : List UInt8} {b : RxBuffer}
    (hfull : uartMaxLen < b.length + chunk.length) : (b.append chunk).content = chunk := by
  apply List.ext_getElem
  · simp [append, hfull]
  intro k hk hchunk
  rw [getElem_content]
  simp only [append, if_pos hfull]
  rw [if_pos (by omega), List.getD_eq_getElem?_getD]
  simp [List.getElem?_eq_getElem hchunk]

end RxBuffer

/-- A port's header byte and its test for a frame at a header. The test only
looks at received bytes from that position on. -/
structure Port where
  head : UInt8
  frameSize : RxBuffer → ℕ → Option ℕ
  frameSize_pos {b : RxBuffer} {i size : ℕ} : frameSize b i = some size → 0 < size
  frameSize_le {b : RxBuffer} {i size : ℕ} : frameSize b i = some size → i + size ≤ b.length
  frameSize_drop (b : RxBuffer) (i : ℕ) :
    frameSize b i = frameSize (RxBuffer.ofList (b.content.drop i)) 0

namespace Port

variable (port : Port) {σ : Type*} (dataProc : Memory → ℕ → σ → σ)

/-- The loop of `uart4_try_parse` and `uart5_try_parse` from index `i` on, with
`s` the variables the handler works on. -/
def tryParseFrom (b : RxBuffer) (i : ℕ) (s : σ) : RxBuffer × σ :=
  if i < b.length then
    if b.bytes i ≠ port.head then tryParseFrom b (i + 1) s
    else
      match _hsize : port.frameSize b i with
      | some size =>
          tryParseFrom (b.shiftLeft (i + size)) 0 (dataProc (fun k => b.bytes (i + k)) size s)
      | none => (if 0 < i then b.shiftLeft i else b, s)
  else if 1 < b.length then
    ({ bytes := Function.update b.bytes 0 (b.bytes (b.length - 1)), length := 1 }, s)
  else (b, s)
termination_by b.length + (b.length - i)
decreasing_by
  · omega
  · have hpos := port.frameSize_pos _hsize
    rw [RxBuffer.length_shiftLeft]
    omega

def tryParse (b : RxBuffer) (s : σ) : RxBuffer × σ :=
  port.tryParseFrom dataProc b 0 s

/-- One pass of the receive thread's loop over a read of `chunk`. -/
def rxEntry (state : RxBuffer × σ) (chunk : List UInt8) : RxBuffer × σ :=
  if 0 < chunk.length then port.tryParse dataProc (state.1.append chunk) state.2 else state

/-! ## The iterations of the loop -/

/-- The buffer after a loop that ran to the end of it. -/
def keepLast (b : RxBuffer) : RxBuffer :=
  if 1 < b.length then
    { bytes := Function.update b.bytes 0 (b.bytes (b.length - 1)), length := 1 }
  else b

variable {dataProc} {b : RxBuffer} {i size : ℕ}

theorem tryParseFrom_skip (hi : i < b.length) (hhead : b.bytes i ≠ port.head) (s : σ) :
    port.tryParseFrom dataProc b i s = port.tryParseFrom dataProc b (i + 1) s := by
  rw [tryParseFrom, if_pos hi, if_pos hhead]

theorem tryParseFrom_accept (hi : i < b.length) (hhead : ¬ b.bytes i ≠ port.head)
    (hsize : port.frameSize b i = some size) (s : σ) :
    port.tryParseFrom dataProc b i s = port.tryParseFrom dataProc (b.shiftLeft (i + size)) 0
      (dataProc (fun k => b.bytes (i + k)) size s) := by
  rw [tryParseFrom, if_pos hi, if_neg hhead]
  split <;> simp_all

theorem tryParseFrom_wait (hi : i < b.length) (hhead : ¬ b.bytes i ≠ port.head)
    (hsize : port.frameSize b i = none) (s : σ) :
    port.tryParseFrom dataProc b i s = (if 0 < i then b.shiftLeft i else b, s) := by
  rw [tryParseFrom, if_pos hi, if_neg hhead]
  split <;> simp_all

theorem tryParseFrom_stop (hi : ¬ i < b.length) (s : σ) :
    port.tryParseFrom dataProc b i s = (keepLast b, s) := by
  rw [tryParseFrom, if_neg hi, keepLast]
  split <;> rfl

variable (dataProc)

/-! ## The loop as a scan -/

/-- The port's decision at the head of the received bytes. -/
def rule : Rule UInt8 where
  verdict
    | [] => .wait
    | byte :: rest =>
        if byte ≠ port.head then .skip
        else
          match port.frameSize (RxBuffer.ofList (byte :: rest)) 0 with
          | some size => .accept size
          | none => .wait
  verdict_nil := rfl
  accept_pos {bytes size} hverdict := by
    match bytes with
    | byte :: rest =>
        dsimp only at hverdict
        split at hverdict
        · simp at hverdict
        · split at hverdict
          next _ hsize => exact Verdict.accept.inj hverdict ▸ port.frameSize_pos hsize
          next => simp at hverdict
  accept_le {bytes size} hverdict := by
    match bytes with
    | byte :: rest =>
        dsimp only at hverdict
        split at hverdict
        · simp at hverdict
        · split at hverdict
          next _ hsize =>
            have hle := port.frameSize_le hsize
            rw [Verdict.accept.inj hverdict] at hle
            simpa [RxBuffer.ofList] using hle
          next => simp at hverdict

/-- The verdict at index `i` of a buffer. -/
theorem verdict_drop (b : RxBuffer) (i : ℕ) :
    port.rule.verdict (b.content.drop i) =
      if i < b.length then
        if b.bytes i ≠ port.head then .skip
        else
          match port.frameSize b i with
          | some size => .accept size
          | none => .wait
      else .wait := by
  split
  next hi =>
    have hlt : i < b.content.length := by simpa using hi
    rw [port.frameSize_drop b i, List.drop_eq_getElem_cons hlt, RxBuffer.getElem_content]
    rfl
  next hi =>
    rw [List.drop_eq_nil_of_le (by simpa using Nat.le_of_not_lt hi)]
    rfl

/-- Induction along the loop, with each iteration read as a verdict of the rule. -/
theorem tryParse_induction {motive : RxBuffer → ℕ → σ → Prop}
    (skip : ∀ b i s, b.bytes i ≠ port.head → port.rule.verdict (b.content.drop i) = .skip →
      port.tryParseFrom dataProc b i s = port.tryParseFrom dataProc b (i + 1) s →
      motive b (i + 1) s → motive b i s)
    (accept : ∀ b i s size, i + size ≤ b.length →
      port.rule.verdict (b.content.drop i) = .accept size →
      port.tryParseFrom dataProc b i s = port.tryParseFrom dataProc (b.shiftLeft (i + size)) 0
        (dataProc (fun k => b.bytes (i + k)) size s) →
      motive (b.shiftLeft (i + size)) 0 (dataProc (fun k => b.bytes (i + k)) size s) →
      motive b i s)
    (wait : ∀ b i s, port.rule.verdict (b.content.drop i) = .wait →
      port.tryParseFrom dataProc b i s = (if 0 < i then b.shiftLeft i else b, s) → motive b i s)
    (stop : ∀ b i s, b.length ≤ i → b.content.drop i = [] →
      port.tryParseFrom dataProc b i s = (keepLast b, s) → motive b i s)
    (b : RxBuffer) (i : ℕ) (s : σ) : motive b i s := by
  induction b, i, s using tryParseFrom.induct port dataProc with
  | case1 b i s hi hhead ih =>
      refine skip b i s hhead ?_ (port.tryParseFrom_skip hi hhead s) ih
      rw [verdict_drop, if_pos hi, if_pos hhead]
  | case2 b i s hi hhead size hsize ih =>
      refine accept b i s size (port.frameSize_le hsize) ?_
        (port.tryParseFrom_accept hi hhead hsize s) ih
      rw [verdict_drop, if_pos hi, if_neg hhead, hsize]
  | case3 b i s hi hhead hsize =>
      refine wait b i s ?_ (port.tryParseFrom_wait hi hhead hsize s)
      rw [verdict_drop, if_pos hi, if_neg hhead, hsize]
  | case4 b i s hi =>
      refine stop b i s (by omega) ?_ (port.tryParseFrom_stop hi s)
      exact List.drop_eq_nil_of_le (by rw [RxBuffer.length_content]; omega)
  | case5 b i s hi =>
      refine stop b i s (by omega) ?_ (port.tryParseFrom_stop hi s)
      exact List.drop_eq_nil_of_le (by rw [RxBuffer.length_content]; omega)

theorem content_keepLast (b : RxBuffer) :
    (keepLast b).content = if 0 < b.length then [b.bytes (b.length - 1)] else [] := by
  unfold keepLast RxBuffer.content
  split
  next hlong =>
    have hpos : 0 < b.length := by omega
    simp [hpos]
  next hshort =>
    split
    next hpos =>
      have hone : b.length = 1 := by omega
      simp [hone]
    next hnil =>
      have hzero : b.length = 0 := by omega
      simp [hzero]

/-- What the loop leaves: the residue of the scan, or, where the bytes it gave
up ran to the end of the buffer, the last of these. -/
theorem content_tryParseFrom (b : RxBuffer) (i : ℕ) (s : σ)
    (hskipped : ∀ k < i, k < b.length → b.bytes k ≠ port.head) :
    let out := (port.tryParseFrom dataProc b i s).1.content
    let residue := (port.rule.scan (b.content.drop i)).2
    out = residue ∨
      residue = [] ∧ (∃ byte, byte ≠ port.head ∧ out = [byte]) ∧
        (0 < i ∨ ∃ rest, port.rule.Passes (b.content.drop i) rest ∧
          port.rule.verdict rest = .skip) := by
  induction b, i, s using port.tryParse_induction dataProc with
  | skip b i s hhead hverdict hloop ih =>
      -- the byte given up here is no header either
      have hrest := ih (fun k hk hlt => by
        rcases Nat.lt_succ_iff_lt_or_eq.mp hk with hlt' | rfl
        · exact hskipped k hlt' hlt
        · exact hhead)
      rw [hloop, port.rule.scan_skip hverdict, List.tail_drop]
      refine hrest.imp_right fun ⟨hnil, hout, _⟩ => ⟨hnil, hout, .inr ?_⟩
      exact ⟨_, .refl _, hverdict⟩
  | accept b i s size _ hverdict hloop ih =>
      -- the loop starts again behind the frame, where nothing was given up yet
      have hrest := ih (by omega)
      rw [RxBuffer.content_shiftLeft, List.drop_zero] at hrest
      rw [hloop, port.rule.scan_accept hverdict, List.drop_drop]
      refine hrest.imp_right fun ⟨hnil, hout, hwhy⟩ => ⟨hnil, hout, .inr ?_⟩
      obtain ⟨rest, hpasses, hskip⟩ := hwhy.resolve_left (by omega)
      exact ⟨rest, .accept hverdict (by rwa [List.drop_drop]), hskip⟩
  | wait b i s hverdict hloop =>
      rw [hloop, port.rule.scan_wait hverdict]
      left
      split
      · exact RxBuffer.content_shiftLeft i b
      · obtain rfl : i = 0 := by omega
        rfl
  | stop b i s hi hdone hloop =>
      rw [hloop, hdone, Rule.scan_nil, content_keepLast]
      split
      next hpos =>
        exact .inr ⟨rfl, ⟨_, hskipped (b.length - 1) (by omega) (by omega), rfl⟩, .inl (by omega)⟩
      next => exact .inl rfl

/-- The handler runs once on each frame of the scan, in order. `meaning` is the
effect it has on such a frame wherever it stands in memory. -/
theorem state_tryParseFrom (meaning : List UInt8 → σ → σ) (b : RxBuffer) (i : ℕ) (s : σ)
    (hmeaning : ∀ frame ∈ (port.rule.scan (b.content.drop i)).1, ∀ (data : Memory) (s : σ),
      (List.range frame.length).map data = frame → dataProc data frame.length s = meaning frame s) :
    (port.tryParseFrom dataProc b i s).2 =
      (port.rule.scan (b.content.drop i)).1.foldl (fun s frame => meaning frame s) s := by
  induction b, i, s using port.tryParse_induction dataProc with
  | skip b i s _ hverdict hloop ih =>
      rw [port.rule.scan_skip hverdict, List.tail_drop] at hmeaning ⊢
      rw [hloop]
      exact ih hmeaning
  | accept b i s size hle hverdict hloop ih =>
      rw [port.rule.scan_accept hverdict, List.drop_drop, b.take_drop_content hle] at hmeaning ⊢
      rw [RxBuffer.content_shiftLeft, List.drop_zero] at ih
      have hhandled := hmeaning _ List.mem_cons_self (fun k => b.bytes (i + k)) s
      simp only [List.length_map, List.length_range, true_imp_iff] at hhandled
      rw [hloop, List.foldl_cons, ← hhandled]
      exact ih fun frame hmem => hmeaning frame (List.mem_cons_of_mem _ hmem)
  | wait b i s hverdict hloop => rw [hloop, port.rule.scan_wait hverdict]; rfl
  | stop b i s _ hdone hloop => rw [hloop, hdone, Rule.scan_nil]; rfl

/-- One read of a stream of frames handles those that it completes, in order, and
keeps the beginning of the next one. -/
theorem rxEntry_framed (meaning : List UInt8 → σ → σ) {frames : List (List UInt8)}
    (hframed : ∀ frame ∈ frames, port.rule.Framed frame)
    (hmeaning : ∀ frame ∈ frames, ∀ (data : Memory) (s : σ),
      (List.range frame.length).map data = frame → dataProc data frame.length s = meaning frame s)
    {chunk later : List UInt8} {b : RxBuffer} (s : σ)
    (hfits : b.length + chunk.length ≤ uartMaxLen)
    (hstart : ∀ frame ∈ frames.head?, b.length < frame.length)
    (hstream : b.content ++ (chunk ++ later) = frames.flatten) :
    let next := port.rxEntry dataProc (b, s) chunk
    ∃ handled pending, frames = handled ++ pending ∧
      next.1.content ++ later = pending.flatten ∧
      (∀ frame ∈ pending.head?, next.1.length < frame.length) ∧
      next.2 = handled.foldl (fun s frame => meaning frame s) s := by
  intro next
  by_cases hread : 0 < chunk.length
  · rw [← List.append_assoc, ← RxBuffer.content_append hfits] at hstream
    obtain ⟨pending, hpending, hmore, hlast⟩ := Rule.scan_of_framed hframed hstream
    have hnext : next = port.tryParseFrom dataProc (b.append chunk) 0 s := if_pos hread
    have hout := port.content_tryParseFrom dataProc (b.append chunk) 0 s (by omega)
    have hstate := port.state_tryParseFrom dataProc meaning (b.append chunk) 0 s (by
      intro frame hmem
      apply hmeaning frame
      rw [hpending]
      exact List.mem_append_left _ hmem)
    rw [List.drop_zero] at hout hstate
    rw [← hnext] at hout hstate
    -- no byte of a stream of frames is given up
    have hresidue : next.1.content = (port.rule.scan (b.append chunk).content).2 := by
      apply hout.resolve_right
      rintro ⟨_, _, hzero | ⟨rest, hpasses, hskip⟩⟩
      · omega
      · exact Rule.not_skip_of_framed hframed hstream hpasses hskip
    refine ⟨_, pending, hpending, ?_, ?_, hstate⟩
    · rw [hresidue]
      exact hmore
    · rw [← RxBuffer.length_content, hresidue]
      exact hlast
  · -- an empty read is ignored
    have hnil : chunk = [] := List.eq_nil_of_length_eq_zero (by omega)
    have hnext : next = (b, s) := if_neg hread
    rw [hnil, List.nil_append] at hstream
    rw [hnext]
    exact ⟨[], frames, rfl, hstream, hstart, rfl⟩

/-- Reading a stream of frames in pieces that always fit behind an unfinished
frame: every frame is handled once, in order, and nothing stays behind. -/
theorem foldl_rxEntry_framed (meaning : List UInt8 → σ → σ) {frames : List (List UInt8)}
    (hframed : ∀ frame ∈ frames, port.rule.Framed frame)
    (hmeaning : ∀ frame ∈ frames, ∀ (data : Memory) (s : σ),
      (List.range frame.length).map data = frame → dataProc data frame.length s = meaning frame s)
    {longest : ℕ} (hlongest : ∀ frame ∈ frames, frame.length ≤ longest)
    (chunks : List (List UInt8)) (b : RxBuffer) (s : σ)
    (hchunks : ∀ chunk ∈ chunks, chunk.length + longest ≤ uartMaxLen + 1)
    (hstart : ∀ frame ∈ frames.head?, b.length < frame.length)
    (hstream : b.content ++ chunks.flatten = frames.flatten) :
    (chunks.foldl (port.rxEntry dataProc) (b, s)).1.length = 0 ∧
      (chunks.foldl (port.rxEntry dataProc) (b, s)).2 =
        frames.foldl (fun s frame => meaning frame s) s := by
  induction chunks generalizing b s frames with
  | nil =>
      have hlength := congrArg List.length hstream
      cases frames with
      | nil => exact ⟨by simpa using hlength, rfl⟩
      | cons frame rest =>
          have hlt := hstart frame rfl
          simp at hlength
          omega
  | cons chunk chunks ih =>
      obtain ⟨hroom, hrooms⟩ := List.forall_mem_cons.mp hchunks
      rw [List.flatten_cons] at hstream
      -- less than one frame is pending, so the read does not overflow
      have hfits : b.length + chunk.length ≤ uartMaxLen := by
        cases frames with
        | nil =>
            have hlength := congrArg List.length hstream
            simp only [List.length_append, List.flatten_nil, List.length_nil,
              RxBuffer.length_content] at hlength
            omega
        | cons frame rest =>
            have hlt := hstart frame rfl
            have hle := hlongest frame List.mem_cons_self
            omega
      obtain ⟨handled, pending, rfl, hmore, hlast, hstate⟩ :=
        port.rxEntry_framed dataProc meaning hframed hmeaning s hfits hstart hstream
      have hsub : ∀ frame ∈ pending, frame ∈ handled ++ pending := fun frame hmem =>
        List.mem_append_right _ hmem
      rw [List.foldl_cons]
      generalize port.rxEntry dataProc (b, s) chunk = next at hmore hlast hstate ⊢
      obtain ⟨b', s'⟩ := next
      obtain ⟨hlength, hfinal⟩ := ih (fun f hf => hframed f (hsub f hf))
        (fun f hf => hmeaning f (hsub f hf)) (fun f hf => hlongest f (hsub f hf)) b' s' hrooms
        hlast hmore
      refine ⟨hlength, hfinal.trans ?_⟩
      dsimp only at hstate
      rw [List.foldl_append, hstate]

/-- The same for what the frames encode, from an empty buffer. -/
theorem foldl_rxEntry_encoded {α : Type*} (encode : α → List UInt8) (meaning : α → σ → σ)
    {items : List α} (hframed : ∀ item ∈ items, port.rule.Framed (encode item))
    (hmeaning : ∀ item ∈ items, ∀ (data : Memory) (s : σ),
      (List.range (encode item).length).map data = encode item →
        dataProc data (encode item).length s = meaning item s)
    {longest : ℕ} (hlongest : ∀ item ∈ items, (encode item).length ≤ longest)
    (chunks : List (List UInt8)) (memory : Memory) (s : σ)
    (hchunks : ∀ chunk ∈ chunks, chunk.length + longest ≤ uartMaxLen + 1)
    (hstream : chunks.flatten = (items.map encode).flatten) :
    (chunks.foldl (port.rxEntry dataProc) (⟨memory, 0⟩, s)).1.length = 0 ∧
      (chunks.foldl (port.rxEntry dataProc) (⟨memory, 0⟩, s)).2 =
        items.foldl (fun s item => meaning item s) s := by
  -- a frame's effect is read off the handler run on that frame alone
  let handle (frame : List UInt8) : σ → σ :=
    dataProc (RxBuffer.ofList frame).bytes frame.length
  have hhandle : ∀ item ∈ items, handle (encode item) = meaning item := fun item hmem =>
    funext fun s => hmeaning item hmem _ s (RxBuffer.content_ofList _)
  have hframes : ∀ frame ∈ items.map encode, port.rule.Framed frame := by
    intro frame hmem
    obtain ⟨item, hitem, rfl⟩ := List.mem_map.mp hmem
    exact hframed item hitem
  obtain ⟨hlength, hstate⟩ := port.foldl_rxEntry_framed dataProc handle hframes
    (by
      intro frame hmem data s hdata
      obtain ⟨item, hitem, rfl⟩ := List.mem_map.mp hmem
      rw [hhandle item hitem, hmeaning item hitem data s hdata])
    (by
      intro frame hmem
      obtain ⟨item, hitem, rfl⟩ := List.mem_map.mp hmem
      exact hlongest item hitem)
    chunks ⟨memory, 0⟩ s hchunks
    (fun frame hmem => (hframes frame (List.mem_of_mem_head? hmem)).length_pos) hstream
  refine ⟨hlength, hstate.trans ?_⟩
  rw [List.foldl_map]
  exact List.foldl_ext _ _ _ fun s item hitem => by rw [hhandle item hitem]

/-! ## Observing the handler -/

/-- A map that commutes with the handlers commutes with the loop. -/
theorem tryParseFrom_map {τ : Type*} (dataProc' : Memory → ℕ → τ → τ) {f : σ → τ}
    (hcomm : ∀ data size s, f (dataProc data size s) = dataProc' data size (f s))
    (b : RxBuffer) (i : ℕ) (s : σ) :
    port.tryParseFrom dataProc' b i (f s) = Prod.map id f (port.tryParseFrom dataProc b i s) := by
  induction b, i, s using tryParseFrom.induct port dataProc with
  | case1 b i s hi hhead ih =>
      rw [port.tryParseFrom_skip hi hhead, port.tryParseFrom_skip hi hhead, ih]
  | case2 b i s hi hhead size hsize ih =>
      rw [port.tryParseFrom_accept hi hhead hsize, port.tryParseFrom_accept hi hhead hsize,
        ← hcomm, ih]
  | case3 b i s hi hhead hsize =>
      rw [port.tryParseFrom_wait hi hhead hsize, port.tryParseFrom_wait hi hhead hsize]
      rfl
  | case4 b i s hi | case5 b i s hi =>
      rw [port.tryParseFrom_stop hi, port.tryParseFrom_stop hi]
      rfl

theorem foldl_rxEntry_map {τ : Type*} (dataProc' : Memory → ℕ → τ → τ) {f : σ → τ}
    (hcomm : ∀ data size s, f (dataProc data size s) = dataProc' data size (f s))
    (chunks : List (List UInt8)) (b : RxBuffer) (s : σ) :
    chunks.foldl (port.rxEntry dataProc') (b, f s) =
      Prod.map id f (chunks.foldl (port.rxEntry dataProc) (b, s)) := by
  induction chunks generalizing b s with
  | nil => rfl
  | cons chunk chunks ih =>
      simp only [List.foldl_cons, rxEntry]
      split
      next =>
        rw [tryParse, tryParse, port.tryParseFrom_map dataProc dataProc' hcomm]
        exact ih _ _
      next => exact ih b s

/-- The handler, recording the variables as each frame leaves them. -/
def logged (data : Memory) (size : ℕ) (s : σ × List σ) : σ × List σ :=
  (dataProc data size s.1, s.2 ++ [dataProc data size s.1])

/-- Folding a recorded effect records the state after each step. -/
theorem foldl_logged {α : Type*} (meaning : α → σ → σ) (frames : List α) (s : σ) (log : List σ) :
    frames.foldl (fun s frame => (meaning frame s.1, s.2 ++ [meaning frame s.1])) (s, log) =
      (frames.foldl (fun s frame => meaning frame s) s,
        log ++ (frames.scanl (fun s frame => meaning frame s) s).tail) := by
  induction frames generalizing s log with
  | nil => simp
  | cons frame frames ih =>
      rw [List.foldl_cons, ih]
      cases frames <;> simp [List.scanl_cons]

/-! ## What stays in memory -/

theorem bytes_shiftLeft (b : RxBuffer) {count k : ℕ} (hcount : 0 < count)
    (hlast : b.length ≤ k + 1) : (b.shiftLeft count).bytes k = b.bytes k := by
  unfold RxBuffer.shiftLeft
  split
  · rfl
  · exact if_neg (by omega)

/-- The loop overwrites nothing from the last received byte on, unless that is
also the first. -/
theorem bytes_tryParseFrom (b : RxBuffer) (i : ℕ) (s : σ) {k : ℕ} (hk : 0 < k)
    (hlast : b.length ≤ k + 1) : (port.tryParseFrom dataProc b i s).1.bytes k = b.bytes k := by
  induction b, i, s using port.tryParse_induction dataProc with
  | skip b i s _ _ hloop ih =>
      rw [hloop]
      exact ih hlast
  | accept b i s size _ hverdict hloop ih =>
      have hpos := port.rule.accept_pos hverdict
      rw [hloop, ih (by rw [RxBuffer.length_shiftLeft]; omega),
        bytes_shiftLeft b (by omega) hlast]
  | wait b i s _ hloop =>
      rw [hloop]
      split
      next hi => exact bytes_shiftLeft b hi hlast
      next => rfl
  | stop b i s _ _ hloop =>
      rw [hloop, keepLast]
      split
      next => exact Function.update_of_ne (by omega) _ _
      next => rfl

end Port

end PlantAssistant.Firmware
