import PlantAssistant.Link.PlantType
import PlantAssistant.Link.ReadCuts

/-! # Handlers that read behind their frames

Both handlers test every offset of a frame for all formats, and do not ask whether
the format ends within the frame. What is behind the frame matters when a header
stands so late in it that its tail would be there.
-/

namespace PlantAssistant.Link

open Framing PlantAssistant.Firmware

/-- The handler does the same in any two memories with this frame. -/
def UsesOnlyFrame (dataProc : Memory → ℕ → Globals → Globals) (frame : List UInt8) : Prop :=
  ∀ (data data' : Memory) (g : Globals), (List.range frame.length).map data = frame →
    (List.range frame.length).map data' = frame →
    dataProc data frame.length g = dataProc data' frame.length g

/-- Two header bytes stand so late that what belongs to them `reach` bytes further
on is behind the frame. -/
def LateHeader (first second : UInt8) (reach : ℕ) (frame : List UInt8) : Prop :=
  ∃ i < frame.length - 1, frame.length ≤ i + reach ∧ frame.getD i 0 = first ∧
    frame.getD (i + 1) 0 = second

instance (first second : UInt8) (reach : ℕ) (frame : List UInt8) :
    Decidable (LateHeader first second reach frame) :=
  inferInstanceAs (Decidable (∃ i < frame.length - 1, _))

/-- The frames that the parser calls the handler on. -/
def passedOn (port : Port) (dataProc : Memory → ℕ → Globals → Globals) (b : RxBuffer)
    (g : Globals) : List (List UInt8) :=
  (port.tryParse (traced dataProc) b (g, [])).2.2

/-- The port takes these bytes for a frame. -/
def Accepted (port : Port) (frame : List UInt8) : Prop :=
  frame.head? = some port.head ∧ port.frameSize (RxBuffer.ofList frame) 0 = some frame.length

instance (port : Port) (frame : List UInt8) : Decidable (Accepted port frame) :=
  inferInstanceAs (Decidable (_ ∧ _))

section PassedOn

variable {port : Port} {dataProc : Memory → ℕ → Globals → Globals} {b : RxBuffer} {g : Globals}

theorem passedOn_eq_scan : passedOn port dataProc b g = (port.rule.scan b.content).1 := by
  have hhandled := (port.scans dataProc).handled b (g, [])
  rw [List.foldl_append_eq_append, ← List.flatMap_def, List.flatMap_singleton'] at hhandled
  exact hhandled

theorem verdict_eq_accept_iff {bytes : List UInt8} {size : ℕ} :
    port.rule.verdict bytes = .accept size ↔
      bytes.head? = some port.head ∧ port.frameSize (RxBuffer.ofList bytes) 0 = some size := by
  cases bytes with
  | nil => simp [port.rule.verdict_nil]
  | cons byte rest =>
      rw [Port.rule, List.head?_cons, Option.some.injEq]
      dsimp only
      split
      next hother => simp [hother]
      next hhead =>
        rw [not_not] at hhead
        cases port.frameSize (RxBuffer.ofList (byte :: rest)) 0 with
        | none => simp
        | some other => simp [hhead]

theorem getD_take {bytes : List UInt8} {size k : ℕ} (hk : k < size) :
    (bytes.take size).getD k 0 = bytes.getD k 0 := by
  rw [List.getD_eq_getElem?_getD, List.getElem?_take_of_lt hk, ← List.getD_eq_getElem?_getD]

/-- A frame is taken for the same one when nothing stands behind it. -/
theorem accepted_of_mem_passedOn
    (htake : ∀ {bytes size}, port.frameSize (RxBuffer.ofList bytes) 0 = some size →
      port.frameSize (RxBuffer.ofList (bytes.take size)) 0 = some size)
    {frame : List UInt8} (hmem : frame ∈ passedOn port dataProc b g) : Accepted port frame := by
  rw [passedOn_eq_scan] at hmem
  obtain ⟨bytes, size, hverdict, rfl⟩ := port.rule.exists_verdict_of_mem_scan hmem
  obtain ⟨hhead, hsize⟩ := verdict_eq_accept_iff.mp hverdict
  have hpos := port.rule.accept_pos hverdict
  have hle := port.rule.accept_le hverdict
  constructor
  · rwa [List.head?_take, if_neg (Nat.ne_of_gt hpos)]
  · rw [htake hsize, List.length_take, Nat.min_eq_left hle]

theorem mem_passedOn_of_accepted {frame : List UInt8} (hframe : Accepted port frame) :
    frame ∈ passedOn port dataProc (RxBuffer.ofList frame) g := by
  have hverdict := verdict_eq_accept_iff.mpr hframe
  rw [passedOn_eq_scan, RxBuffer.content_ofList, port.rule.scan_accept hverdict,
    List.take_length]
  exact List.mem_cons_self

end PassedOn

/-- A memory with the frame, a chosen byte at one position behind it and another
one everywhere else. -/
def behindWith (frame : List UInt8) (position : ℕ) (chosen other : UInt8) : Memory :=
  frameIn frame (Function.update (fun _ => other) position chosen)

theorem getD_of_map_range {data : Memory} {frame : List UInt8}
    (hdata : (List.range frame.length).map data = frame) {k : ℕ} (hk : k < frame.length) :
    data k = frame.getD k 0 := by
  rw [data_eq_of_map_range hdata hk, List.getD_eq_getElem?_getD, List.getElem?_eq_getElem hk,
    Option.getD_some]

theorem agree_of_map_range {data data' : Memory} {frame : List UInt8}
    (hdata : (List.range frame.length).map data = frame)
    (hdata' : (List.range frame.length).map data' = frame) :
    ∀ k < frame.length, data k = data' k := by
  intro k hk
  rw [getD_of_map_range hdata hk, getD_of_map_range hdata' hk]

/-- At the last offsets but one a format of four bytes meets the last byte of the frame
where it expects a command or an argument. -/
theorem last_near_end {data : Memory} {frame : List UInt8} {tail : UInt8}
    (hlast : frame.getD (frame.length - 1) 0 = tail) {i : ℕ} (hi : i < frame.length - 1)
    (hend : frame.length ≤ i + 3) (hdata : (List.range frame.length).map data = frame) :
    data (i + 1) = tail ∨ data (i + 2) = tail := by
  have hbyte : data (frame.length - 1) = tail := by
    rw [getD_of_map_range hdata (by omega), hlast]
  rcases Nat.lt_or_ge (i + 2) frame.length with hvalue | hcmd
  · exact .inr (by rwa [show i + 2 = frame.length - 1 by omega])
  · exact .inl (by rwa [show i + 1 = frame.length - 1 by omega])

/-- Without a late header no memory has one at an offset that near the end. -/
theorem not_header_of_not_late {first second : UInt8} {reach : ℕ} {frame : List UInt8}
    (hlate : ¬ LateHeader first second reach frame) {data : Memory}
    (hdata : (List.range frame.length).map data = frame) {i : ℕ} (hi : i < frame.length - 1)
    (hreach : frame.length ≤ i + reach) : ¬ (data i = first ∧ data (i + 1) = second) := by
  rw [getD_of_map_range hdata (by omega), getD_of_map_range hdata (by omega)]
  exact fun hheader => hlate ⟨i, hi, hreach, hheader⟩

section Behind

variable {frame : List UInt8} {position k : ℕ} {chosen other : UInt8}

theorem map_behindWith :
    (List.range frame.length).map (behindWith frame position chosen other) = frame :=
  map_frameIn _ _

theorem behindWith_of_lt (hk : k < frame.length) :
    behindWith frame position chosen other k = frame.getD k 0 :=
  getD_of_map_range map_behindWith hk

theorem behindWith_of_ge (hk : frame.length ≤ k) (hne : k ≠ position) :
    behindWith frame position chosen other k = other := by
  unfold behindWith frameIn
  rw [List.getD_eq_default _ _ hk, Function.update_of_ne hne]

theorem behindWith_position (hposition : frame.length ≤ position) :
    behindWith frame position chosen other position = chosen := by
  unfold behindWith frameIn
  rw [List.getD_eq_default _ _ hposition, Function.update_self]

end Behind

section Fold

variable {σ τ : Type} (view : σ → τ) {step : σ → ℕ → σ} {n i : ℕ}

/-- What no offset sets is kept. -/
theorem view_foldl_range_of_kept (hkeep : ∀ s, ∀ j < n, view (step s j) = view s) (s : σ) :
    view ((List.range n).foldl step s) = view s := by
  induction n with
  | zero => rfl
  | succ n ih =>
      rw [List.range_succ, List.foldl_append, List.foldl_cons, List.foldl_nil,
        hkeep _ n (Nat.lt_succ_self n), ih fun s j hj => hkeep s j (Nat.lt_succ_of_lt hj)]

/-- What one offset sets and no later one changes. -/
theorem view_foldl_range_of_set (hi : i < n) {value : τ} (hset : ∀ s, view (step s i) = value)
    (hkeep : ∀ s j, i < j → j < n → view (step s j) = view s) (s : σ) :
    view ((List.range n).foldl step s) = value := by
  induction n with
  | zero => cases hi
  | succ n ih =>
      rw [List.range_succ, List.foldl_append, List.foldl_cons, List.foldl_nil]
      rcases Nat.lt_succ_iff_lt_or_eq.mp hi with hlt | rfl
      · rw [hkeep _ n hlt (Nat.lt_succ_self n)]
        exact ih hlt fun s j hij hj => hkeep s j hij (Nat.lt_succ_of_lt hj)
      · exact hset _

end Fold

/-! ## Panel commands -/

theorem accepted_uart5 {frame : List UInt8} (hframe : Accepted uart5Port frame) :
    frame.length = 9 ∧ frame.getD 1 0 = 0x60 ∧ frame.getD 8 0 = 0x55 ∨
      frame.length = 4 ∧ frame.getD 3 0 = 0x55 := by
  have hsize := hframe.2
  simp only [uart5Port, RxBuffer.ofList, Nat.zero_add] at hsize
  split_ifs at hsize with hnine hfour
  · exact .inl ⟨(Option.some.inj hsize).symm, hnine.2⟩
  · exact .inr ⟨(Option.some.inj hsize).symm, hfour.2⟩

theorem accepted_of_mem_uart5 {b : RxBuffer} {g : Globals} {frame : List UInt8}
    (hmem : frame ∈ passedOn uart5Port plantSoftDataProc b g) : Accepted uart5Port frame := by
  refine accepted_of_mem_passedOn ?_ hmem
  intro bytes size hsize
  simp only [uart5Port, RxBuffer.ofList, Nat.zero_add] at hsize ⊢
  split_ifs at hsize with hnine hfour
  · obtain rfl := Option.some.inj hsize
    rw [List.length_take, getD_take (by decide), getD_take (by decide), if_pos]
    exact ⟨by omega, hnine.2⟩
  · obtain rfl := Option.some.inj hsize
    rw [List.length_take, if_neg (by omega), getD_take (by decide), if_pos]
    exact ⟨by omega, hfour.2⟩

/-- A tail byte is no command, and no argument of one. -/
theorem plantSoftCommand_tail {cmd value : UInt8} (htail : cmd = 0x55 ∨ value = 0x55)
    (g : Globals) : plantSoftCommand cmd value g = g := by
  rcases htail with rfl | rfl
  · rfl
  · have hquiet : plantSoftMaixMode 0x55 g = g ∧ plantSoftWaterCtrl 0x55 g = g ∧
        plantSoftLightCtrl 0x55 g = g ∧ plantSoftSystemCtr 0x55 g = g ∧
        plantSoftPlantType 0x55 g = g := ⟨rfl, rfl, rfl, rfl, rfl⟩
    obtain ⟨hmode, hwater, hlight, hsystem, htype⟩ := hquiet
    unfold plantSoftCommand
    simp only [hmode, hwater, hlight, hsystem, htype, ite_self]

section PlantSoft

variable {data data' : Memory} {i : ℕ}

theorem plantSoftStep_of_not_time
    (htime : ¬ (data i = plantSoftpackHead1 ∧ data (i + 1) = plantSoftCmdTime)) (g : Globals) :
    plantSoftStep data g i =
      if data i = plantSoftpackHead1 ∧ data (i + 3) = plantSoftpackTail then
        plantSoftCommand (data (i + 1)) (data (i + 2)) g
      else g := by
  unfold plantSoftStep
  dsimp only
  rw [if_neg fun hall => htime ⟨hall.1, hall.2.1⟩]

theorem second_plantSoftStep (g : Globals) :
    (plantSoftStep data g i).second =
      if data i = plantSoftpackHead1 ∧ data (i + 1) = plantSoftCmdTime ∧
          data (i + 8) = plantSoftpackTail then data (i + 7)
      else g.second := by
  have hcommand : (if data i = plantSoftpackHead1 ∧ data (i + 3) = plantSoftpackTail then
      plantSoftCommand (data (i + 1)) (data (i + 2)) g else g).second = g.second := by
    split
    next =>
      have hmode : (plantSoftCommand (data (i + 1)) (data (i + 2)) g).second =
          (if data (i + 1) = plantSoftCmdMaixMode then plantSoftMaixMode (data (i + 2)) g
            else g).second := view_plantSoftCommand (fun _ _ _ _ _ => rfl) _ _ g
      rw [hmode]
      unfold plantSoftMaixMode
      dsimp only
      split_ifs <;> rfl
    next => rfl
  unfold plantSoftStep
  dsimp only
  split
  · rfl
  · exact hcommand

variable {frame : List UInt8} (hdata : (List.range frame.length).map data = frame)

include hdata

/-- Without a late header an offset does the same in any memory. -/
theorem plantSoftStep_congr (hdata' : (List.range frame.length).map data' = frame)
    (hlast : frame.getD (frame.length - 1) 0 = plantSoftpackTail)
    (hlate : ¬ LateHeader plantSoftpackHead1 plantSoftCmdTime 8 frame)
    (hi : i < frame.length - 1) (g : Globals) :
    plantSoftStep data g i = plantSoftStep data' g i := by
  have hbyte := agree_of_map_range hdata hdata'
  by_cases hnine : i + 8 < frame.length
  · unfold plantSoftStep
    rw [hbyte i (by omega), hbyte (i + 1) (by omega), hbyte (i + 2) (by omega),
      hbyte (i + 3) (by omega), hbyte (i + 4) (by omega), hbyte (i + 5) (by omega),
      hbyte (i + 6) (by omega), hbyte (i + 7) (by omega), hbyte (i + 8) hnine]
  · have hreach := Nat.le_of_not_lt hnine
    rw [plantSoftStep_of_not_time (not_header_of_not_late hlate hdata hi hreach),
      plantSoftStep_of_not_time (not_header_of_not_late hlate hdata' hi hreach)]
    by_cases hfour : i + 3 < frame.length
    · rw [hbyte i (by omega), hbyte (i + 1) (by omega), hbyte (i + 2) (by omega),
        hbyte (i + 3) hfour]
    · -- the tail of the frame stands for the command or for its argument
      have hend := Nat.le_of_not_lt hfour
      rw [plantSoftCommand_tail (last_near_end hlast hi hend hdata),
        plantSoftCommand_tail (last_near_end hlast hi hend hdata'), ite_self, ite_self]

end PlantSoft

/-- The seconds that a late time header makes of what is behind the frame. -/
theorem second_behindWith {frame : List UInt8} (hframe : Accepted uart5Port frame) {i : ℕ}
    (hi : i < frame.length - 1) (hlate : frame.length ≤ i + 8)
    (hhead : frame.getD i 0 = plantSoftpackHead1) (htime : frame.getD (i + 1) 0 = plantSoftCmdTime)
    {other : UInt8} (hother : other ≠ plantSoftpackTail) (g : Globals) :
    (plantSoftDataProc (behindWith frame (i + 8) plantSoftpackTail other) frame.length g).second =
      other := by
  have hbehind : frame.length ≤ i + 7 := by
    rcases accepted_uart5 hframe with ⟨hlength, hone, -⟩ | ⟨hlength, -⟩
    · -- in a time frame the header cannot follow at once
      have hne : i ≠ 1 := by
        rintro rfl
        rw [hone] at hhead
        exact absurd hhead (by decide)
      omega
    · omega
  apply view_foldl_range_of_set Globals.second hi
  · intro g
    rw [second_plantSoftStep, behindWith_of_lt (by omega), behindWith_of_lt (by omega),
      behindWith_position hlate, if_pos ⟨hhead, htime, rfl⟩,
      behindWith_of_ge hbehind (by omega)]
  · intro g j hij hj
    rw [second_plantSoftStep, if_neg]
    rintro ⟨-, -, htail⟩
    rw [behindWith_of_ge (by omega) (by omega)] at htail
    exact hother htail

theorem usesOnlyFrame_plantSoft_iff {frame : List UInt8} (hframe : Accepted uart5Port frame) :
    UsesOnlyFrame plantSoftDataProc frame ↔
      ¬ LateHeader plantSoftpackHead1 plantSoftCmdTime 8 frame := by
  constructor
  · rintro huses ⟨i, hi, hlate, hhead, htime⟩
    have hzero := second_behindWith hframe hi hlate hhead htime (by decide : (0 : UInt8) ≠ 0x55) {}
    have hone := second_behindWith hframe hi hlate hhead htime (by decide : (1 : UInt8) ≠ 0x55) {}
    rw [huses _ _ {} map_behindWith map_behindWith, hone] at hzero
    exact absurd hzero (by decide)
  · intro hlate data data' g hdata hdata'
    have hlast : frame.getD (frame.length - 1) 0 = plantSoftpackTail := by
      rcases accepted_uart5 hframe with ⟨hlength, -, htail⟩ | ⟨hlength, htail⟩
      · rwa [hlength]
      · rwa [hlength]
    apply List.foldl_ext
    intro g i hi
    exact plantSoftStep_congr hdata hdata' hlast hlate (List.mem_range.mp hi) g

/-! ## Vision packets -/

theorem accepted_uart4 {frame : List UInt8} (hframe : Accepted uart4Port frame) :
    frame.length = 7 ∧ frame.getD 1 0 = 0xB1 ∧ frame.getD 6 0 = 0xC3 ∨
      frame.length = 4 ∧ (frame.getD 1 0 = 0xB2 ∨ frame.getD 1 0 = 0xB3) ∧
        frame.getD 3 0 = 0xC3 ∨
      frame.length = 3 ∧ frame.getD 1 0 = 0xB4 ∧ frame.getD 2 0 = 0xC3 := by
  have hsize := hframe.2
  simp only [uart4Port, RxBuffer.ofList, Nat.zero_add] at hsize
  split_ifs at hsize with hloc hfour hled
  · exact .inl ⟨(Option.some.inj hsize).symm, hloc.2⟩
  · exact .inr (.inl ⟨(Option.some.inj hsize).symm, hfour.2⟩)
  · exact .inr (.inr ⟨(Option.some.inj hsize).symm, hled.2⟩)

theorem accepted_of_mem_uart4 {b : RxBuffer} {g : Globals} {frame : List UInt8}
    (hmem : frame ∈ passedOn uart4Port maixcamDataProc b g) : Accepted uart4Port frame := by
  refine accepted_of_mem_passedOn ?_ hmem
  intro bytes size hsize
  simp only [uart4Port, RxBuffer.ofList, Nat.zero_add] at hsize ⊢
  split_ifs at hsize with hloc hfour hled
  · obtain rfl := Option.some.inj hsize
    rw [List.length_take, getD_take (by decide), getD_take (by decide), if_pos]
    exact ⟨by omega, hloc.2⟩
  · obtain rfl := Option.some.inj hsize
    rw [List.length_take, if_neg (by omega), getD_take (by decide), getD_take (by decide), if_pos]
    exact ⟨by omega, hfour.2⟩
  · obtain rfl := Option.some.inj hsize
    rw [List.length_take, if_neg (by omega), if_neg (by omega), getD_take (by decide),
      getD_take (by decide), if_pos]
    exact ⟨by omega, hled.2⟩

theorem tail_accepted_uart4 {frame : List UInt8} (hframe : Accepted uart4Port frame) :
    frame.getD (frame.length - 1) 0 = uart4FrameTail1 := by
  rcases accepted_uart4 hframe with ⟨hlength, -, htail⟩ | ⟨hlength, -, htail⟩ |
    ⟨hlength, -, htail⟩
  all_goals rwa [hlength]

/-- A tail byte is no header of a type packet, and no plant type. -/
theorem maixcamType_of_tail {data : Memory} {i : ℕ}
    (htail : data (i + 1) = uart4FrameTail1 ∨ data (i + 2) = uart4FrameTail1) (g : Globals) :
    maixcamType data i g = g := by
  unfold maixcamType
  rcases htail with hcmd | hvalue
  · exact if_neg fun hall => absurd (hcmd.symm.trans hall.2.1) (by decide)
  · rw [hvalue]
    exact ite_self g

theorem maixcamLed_of_tail {data : Memory} {i : ℕ} (htail : data (i + 1) = uart4FrameTail1)
    (g : Globals) : maixcamLed data i g = g :=
  if_neg fun hall => absurd (htail.symm.trans hall.2.1) (by decide)

section Maixcam

variable {data data' : Memory} {i : ℕ} {frame : List UInt8}
  (hdata : (List.range frame.length).map data = frame)
  (hdata' : (List.range frame.length).map data' = frame) (hi : i < frame.length - 1)

include hdata hdata' hi

theorem maixcamLocation_congr
    (hlate : ¬ LateHeader uart4FrameHead1 uart4FrameHead2Loc 6 frame) (g : Globals) :
    maixcamLocation data i g = maixcamLocation data' i g := by
  have hbyte := agree_of_map_range hdata hdata'
  unfold maixcamLocation
  by_cases hseven : i + 6 < frame.length
  · rw [hbyte i (by omega), hbyte (i + 1) (by omega), hbyte (i + 2) (by omega),
      hbyte (i + 3) (by omega), hbyte (i + 4) (by omega), hbyte (i + 5) (by omega),
      hbyte (i + 6) hseven]
  · have hnone := not_header_of_not_late hlate hdata hi (Nat.le_of_not_lt hseven)
    have hnone' := not_header_of_not_late hlate hdata' hi (Nat.le_of_not_lt hseven)
    rw [if_neg fun hall => hnone ⟨hall.1, hall.2.1⟩, if_neg fun hall => hnone' ⟨hall.1, hall.2.1⟩]

theorem maixcamState_congr
    (hlate : ¬ LateHeader uart4FrameHead1 uart4FrameHead2Sta 3 frame) (g : Globals) :
    maixcamState data i g = maixcamState data' i g := by
  have hbyte := agree_of_map_range hdata hdata'
  unfold maixcamState
  by_cases hfour : i + 3 < frame.length
  · rw [hbyte i (by omega), hbyte (i + 1) (by omega), hbyte (i + 2) (by omega),
      hbyte (i + 3) hfour]
  · have hnone := not_header_of_not_late hlate hdata hi (Nat.le_of_not_lt hfour)
    have hnone' := not_header_of_not_late hlate hdata' hi (Nat.le_of_not_lt hfour)
    rw [if_neg fun hall => hnone ⟨hall.1, hall.2.1⟩, if_neg fun hall => hnone' ⟨hall.1, hall.2.1⟩]

variable (hlast : frame.getD (frame.length - 1) 0 = uart4FrameTail1)

include hlast

/-- A type packet that does not end in the frame has the tail for its header or
for its type. -/
theorem maixcamType_congr (g : Globals) : maixcamType data i g = maixcamType data' i g := by
  by_cases hfour : i + 3 < frame.length
  · have hbyte := agree_of_map_range hdata hdata'
    unfold maixcamType
    rw [hbyte i (by omega), hbyte (i + 1) (by omega), hbyte (i + 2) (by omega),
      hbyte (i + 3) hfour]
  · have hend := Nat.le_of_not_lt hfour
    rw [maixcamType_of_tail (last_near_end hlast hi hend hdata),
      maixcamType_of_tail (last_near_end hlast hi hend hdata')]

theorem maixcamLed_congr (g : Globals) : maixcamLed data i g = maixcamLed data' i g := by
  by_cases hthree : i + 2 < frame.length
  · have hbyte := agree_of_map_range hdata hdata'
    unfold maixcamLed
    rw [hbyte i (by omega), hbyte (i + 1) (by omega), hbyte (i + 2) hthree]
  · have hend : i + 1 = frame.length - 1 := by omega
    have hquiet : ∀ data : Memory, (List.range frame.length).map data = frame →
        maixcamLed data i g = g := by
      intro data hdata
      apply maixcamLed_of_tail
      rw [hend, getD_of_map_range hdata (by omega), hlast]
    rw [hquiet data hdata, hquiet data' hdata']

/-- Without late headers an offset does the same in any memory. -/
theorem maixcamStep_congr (hloc : ¬ LateHeader uart4FrameHead1 uart4FrameHead2Loc 6 frame)
    (hsta : ¬ LateHeader uart4FrameHead1 uart4FrameHead2Sta 3 frame) (g : Globals) :
    maixcamStep data g i = maixcamStep data' g i := by
  unfold maixcamStep
  rw [maixcamLocation_congr hdata hdata' hi hloc, maixcamState_congr hdata hdata' hi hsta,
    maixcamType_congr hdata hdata' hi hlast, maixcamLed_congr hdata hdata' hi hlast]

end Maixcam

section MaixcamViews

variable {data : Memory} {i : ℕ} (g : Globals)

theorem maixcamLed_fields :
    (maixcamLed data i g).sourceY = g.sourceY ∧
      (maixcamLed data i g).bladeState = g.bladeState := by
  unfold maixcamLed
  split
  · exact ⟨rfl, rfl⟩
  · exact ⟨rfl, rfl⟩

theorem maixcamType_fields :
    (maixcamType data i g).sourceY = g.sourceY ∧
      (maixcamType data i g).bladeState = g.bladeState := by
  unfold maixcamType
  dsimp only
  split_ifs <;> exact ⟨rfl, rfl⟩

theorem sourceY_maixcamStep :
    (maixcamStep data g i).sourceY =
      if data i = uart4FrameHead1 ∧ data (i + 1) = uart4FrameHead2Loc ∧
          data (i + 6) = uart4FrameTail1 then beWord (data (i + 4)) (data (i + 5))
      else g.sourceY := by
  have hstate : ∀ g, (maixcamState data i g).sourceY = g.sourceY := by
    intro g
    unfold maixcamState
    split
    · rfl
    · rfl
  rw [maixcamStep, (maixcamLed_fields _).1, (maixcamType_fields _).1, hstate]
  unfold maixcamLocation
  split
  · rfl
  · rfl

theorem bladeState_maixcamStep :
    (maixcamStep data g i).bladeState =
      if data i = uart4FrameHead1 ∧ data (i + 1) = uart4FrameHead2Sta ∧
          data (i + 3) = uart4FrameTail1 then data (i + 2)
      else g.bladeState := by
  have hlocation : (maixcamLocation data i g).bladeState = g.bladeState := by
    unfold maixcamLocation
    split
    · rfl
    · rfl
  rw [maixcamStep, (maixcamLed_fields _).2, (maixcamType_fields _).2]
  unfold maixcamState
  split
  · rfl
  · exact hlocation

end MaixcamViews

/-- Only location packets have room for a late header. -/
theorem late_header_uart4 {frame : List UInt8} (hframe : Accepted uart4Port frame) {i : ℕ}
    (hi : i < frame.length - 1) (hhead : frame.getD i 0 = uart4FrameHead1)
    (hlate : frame.getD (i + 1) 0 = uart4FrameHead2Loc ∧ frame.length ≤ i + 6 ∨
      frame.getD (i + 1) 0 = uart4FrameHead2Sta ∧ frame.length ≤ i + 3) :
    frame.length = 7 ∧ 1 < i ∧ frame.getD 1 0 = 0xB1 ∧ frame.getD 6 0 = 0xC3 := by
  have hsecond : frame.getD (i + 1) 0 = uart4FrameHead2Loc ∨
      frame.getD (i + 1) 0 = uart4FrameHead2Sta := hlate.imp And.left And.left
  rcases accepted_uart4 hframe with ⟨hlength, hone, hlast⟩ | ⟨hlength, hone, hlast⟩ |
    ⟨hlength, hone, hlast⟩
  · have hne : i ≠ 1 := by
      rintro rfl
      exact absurd (hone.symm.trans hhead) (by decide)
    exact ⟨hlength, by omega, hone, hlast⟩
  · exfalso
    rcases (show i = 0 ∨ i = 1 ∨ i = 2 by omega) with rfl | rfl | rfl
    · -- in front stands the packet's own header
      have hloc : frame.getD 1 0 = uart4FrameHead2Loc := by
        rcases hlate with hloc | hsta
        · exact hloc.1
        · omega
      rcases hone with hone | hone
      · exact absurd (hone.symm.trans hloc) (by decide)
      · exact absurd (hone.symm.trans hloc) (by decide)
    · rcases hone with hone | hone
      · exact absurd (hone.symm.trans hhead) (by decide)
      · exact absurd (hone.symm.trans hhead) (by decide)
    · rw [hlast] at hsecond
      exact absurd hsecond (by decide)
  · exfalso
    rcases (show i = 0 ∨ i = 1 by omega) with rfl | rfl
    · rw [hone] at hsecond
      exact absurd hsecond (by decide)
    · exact absurd (hone.symm.trans hhead) (by decide)

/-- The coordinate that a late location header makes of what is behind the frame. -/
theorem sourceY_behindWith {frame : List UInt8} (hframe : Accepted uart4Port frame) {i : ℕ}
    (hi : i < frame.length - 1) (hlate : frame.length ≤ i + 6)
    (hhead : frame.getD i 0 = uart4FrameHead1)
    (hloc : frame.getD (i + 1) 0 = uart4FrameHead2Loc)
    {other : UInt8} (hother : other ≠ uart4FrameTail1) (g : Globals) :
    (maixcamDataProc (behindWith frame (i + 6) uart4FrameTail1 other) frame.length g).sourceY =
      beWord ((behindWith frame (i + 6) uart4FrameTail1 other) (i + 4)) other := by
  obtain ⟨hlength, hinner, -⟩ := late_header_uart4 hframe hi hhead (.inl ⟨hloc, hlate⟩)
  apply view_foldl_range_of_set Globals.sourceY hi
  · intro g
    rw [sourceY_maixcamStep, behindWith_of_lt (by omega), behindWith_of_lt (by omega),
      behindWith_position hlate, if_pos ⟨hhead, hloc, rfl⟩,
      behindWith_of_ge (by omega : frame.length ≤ i + 5) (by omega)]
  · intro g j hij hj
    rw [sourceY_maixcamStep, if_neg]
    rintro ⟨-, -, htail⟩
    rw [behindWith_of_ge (by omega) (by omega)] at htail
    exact hother htail

/-- A location packet with a state header in front of its tail. -/
structure EndsInState (frame : List UInt8) : Prop where
  length : frame.length = 7
  loc : frame.getD 1 0 = uart4FrameHead2Loc
  head : frame.getD 4 0 = uart4FrameHead1
  sta : frame.getD 5 0 = uart4FrameHead2Sta
  tail : frame.getD 6 0 = uart4FrameTail1

theorem endsInState_of_late {frame : List UInt8} (hframe : Accepted uart4Port frame)
    (hlate : LateHeader uart4FrameHead1 uart4FrameHead2Sta 3 frame) : EndsInState frame := by
  obtain ⟨i, hi, hreach, hhead, hsta⟩ := hlate
  obtain ⟨hlength, -, hloc, htail⟩ := late_header_uart4 hframe hi hhead (.inr ⟨hsta, hreach⟩)
  rcases (show i = 4 ∨ i = 5 by omega) with rfl | rfl
  · exact ⟨hlength, hloc, hhead, hsta, htail⟩
  · exact absurd (htail.symm.trans hsta) (by decide)

namespace EndsInState

variable {frame : List UInt8} (hframe : EndsInState frame) (chosen : UInt8)

include hframe

/-- Only the late header starts a state: elsewhere one of the three bytes is known to be
another one. -/
theorem bladeState_maixcamStep_of_ne (g : Globals) {j : ℕ} (hj : j < frame.length - 1)
    (hne : j ≠ 4) :
    (maixcamStep (behindWith frame 7 chosen 0) g j).bladeState = g.bladeState := by
  have hlength := hframe.length
  rw [bladeState_maixcamStep, if_neg]
  rintro ⟨hfirst, hsecond, htail⟩
  rcases (show j = 0 ∨ j = 1 ∨ j = 2 ∨ j = 3 ∨ j = 5 by omega) with rfl | rfl | rfl | rfl | rfl
  · rw [behindWith_of_lt (by omega), hframe.loc] at hsecond
    exact absurd hsecond (by decide)
  · rw [behindWith_of_lt (by omega), hframe.loc] at hfirst
    exact absurd hfirst (by decide)
  · rw [behindWith_of_lt (by omega), hframe.sta] at htail
    exact absurd htail (by decide)
  · rw [behindWith_of_lt (by omega), hframe.head] at hsecond
    exact absurd hsecond (by decide)
  · rw [behindWith_of_lt (by omega), hframe.sta] at hfirst
    exact absurd hfirst (by decide)

theorem bladeState_maixcamStep_at (g : Globals) :
    (maixcamStep (behindWith frame 7 chosen 0) g 4).bladeState =
      if chosen = uart4FrameTail1 then uart4FrameTail1 else g.bladeState := by
  have hlength := hframe.length
  have hbyte : ∀ k < frame.length, behindWith frame 7 chosen 0 k = frame.getD k 0 :=
    fun k hk => behindWith_of_lt hk
  have hbehind : behindWith frame 7 chosen 0 (4 + 3) = chosen :=
    behindWith_position (by omega)
  rw [bladeState_maixcamStep, hbehind, hbyte 4 (by omega), hbyte (4 + 1) (by omega),
    hbyte (4 + 2) (by omega), hframe.head, hframe.sta, hframe.tail]
  simp only [true_and]

/-- The state is made of the tail if the byte behind the frame is a tail too. -/
theorem bladeState_behindWith (g : Globals) :
    (maixcamDataProc (behindWith frame 7 chosen 0) frame.length g).bladeState =
      if chosen = uart4FrameTail1 then uart4FrameTail1 else g.bladeState := by
  have hlength := hframe.length
  split
  next htail =>
    apply view_foldl_range_of_set Globals.bladeState (by omega : 4 < frame.length - 1)
    · intro g
      rw [hframe.bladeState_maixcamStep_at, if_pos htail]
    · intro g j hij hj
      exact hframe.bladeState_maixcamStep_of_ne chosen g hj (Nat.ne_of_gt hij)
  next htail =>
    apply view_foldl_range_of_kept Globals.bladeState
    intro g j hj
    by_cases hne : j = 4
    · rw [hne, hframe.bladeState_maixcamStep_at, if_neg htail]
    · exact hframe.bladeState_maixcamStep_of_ne chosen g hj hne

end EndsInState

theorem usesOnlyFrame_maixcam_iff {frame : List UInt8} (hframe : Accepted uart4Port frame) :
    UsesOnlyFrame maixcamDataProc frame ↔
      ¬ LateHeader uart4FrameHead1 uart4FrameHead2Loc 6 frame ∧
        ¬ LateHeader uart4FrameHead1 uart4FrameHead2Sta 3 frame := by
  constructor
  · intro huses
    constructor
    · rintro ⟨i, hi, hlate, hhead, hloc⟩
      have hzero := sourceY_behindWith hframe hi hlate hhead hloc
        (by decide : (0 : UInt8) ≠ 0xC3) {}
      have hone := sourceY_behindWith hframe hi hlate hhead hloc
        (by decide : (1 : UInt8) ≠ 0xC3) {}
      rw [huses _ _ {} map_behindWith map_behindWith, hone, beWord_eq, beWord_eq] at hzero
      have hlow := congrArg (· % 256) hzero
      simp at hlow
    · intro hlate
      have hends := endsInState_of_late hframe hlate
      have hquiet := hends.bladeState_behindWith 0 {}
      have hset := hends.bladeState_behindWith 0xC3 {}
      rw [huses _ _ {} map_behindWith map_behindWith, hset] at hquiet
      exact absurd hquiet (by decide)
  · rintro ⟨hloc, hsta⟩ data data' g hdata hdata'
    apply List.foldl_ext
    intro g i hi
    exact maixcamStep_congr hdata hdata' (List.mem_range.mp hi) (tail_accepted_uart4 hframe)
      hloc hsta g

/-! ## Frames passed on -/

/-- What a handler does with a frame depends on the frame alone exactly when no header
of a format that would reach behind the frame stands in it. -/
theorem handlers_use_only_frame_iff (b : RxBuffer) (g : Globals) :
    (∀ frame ∈ passedOn uart5Port plantSoftDataProc b g,
      (UsesOnlyFrame plantSoftDataProc frame ↔
        ¬ LateHeader plantSoftpackHead1 plantSoftCmdTime 8 frame)) ∧
    ∀ frame ∈ passedOn uart4Port maixcamDataProc b g,
      (UsesOnlyFrame maixcamDataProc frame ↔
        ¬ LateHeader uart4FrameHead1 uart4FrameHead2Loc 6 frame ∧
          ¬ LateHeader uart4FrameHead1 uart4FrameHead2Sta 3 frame) := by
  constructor
  · intro frame hmem
    exact usesOnlyFrame_plantSoft_iff (accepted_of_mem_uart5 hmem)
  · intro frame hmem
    exact usesOnlyFrame_maixcam_iff (accepted_of_mem_uart4 hmem)

/-- A time command cut to four bytes, and a state header late in a location packet. -/
theorem handlers_use_only_frame_iff_late :
    ¬ UsesOnlyFrame plantSoftDataProc [0xAA, 0x60, 0x00, 0x55] ∧
      ¬ UsesOnlyFrame maixcamDataProc [0xA3, 0xB1, 0x00, 0x00, 0xA3, 0xB2, 0xC3] := by
  constructor
  · rw [(handlers_use_only_frame_iff (RxBuffer.ofList _) {}).1 _
      (mem_passedOn_of_accepted (by decide)), not_not]
    decide
  · rw [(handlers_use_only_frame_iff (RxBuffer.ofList _) {}).2 _
      (mem_passedOn_of_accepted (by decide))]
    decide

/-- The seconds come from what an earlier frame left behind a short one. -/
theorem plantSoft_reads_behind_frame :
    [0xAA, 0x60, 0x00, 0x55] ∈
        passedOn uart5Port plantSoftDataProc (RxBuffer.ofList [0xAA, 0x60, 0x00, 0x55]) {} ∧
      ¬ UsesOnlyFrame plantSoftDataProc [0xAA, 0x60, 0x00, 0x55] := by
  refine ⟨mem_passedOn_of_accepted (by decide), ?_⟩
  intro huses
  have hsame := huses (frameIn _ fun _ => 0) (frameIn _ fun _ => 0x55) {}
    (map_frameIn _ _) (map_frameIn _ _)
  exact absurd (congrArg Globals.second hsame) (by decide)

end PlantAssistant.Link
