import PlantAssistant.Link.RangeReadings
import PlantAssistant.Transition.Run

/-! # The distance and the readings of the stream

The port hands over every reading, but also frames with other bytes, and the handler
makes a distance of these as well.
-/

namespace PlantAssistant.Link

open Framing Transition PlantAssistant.Firmware

/-- The receive thread, and all bytes it has read. -/
structure RangeFeed where
  buffer : RxBuffer := ⟨fun _ => 0, 0⟩
  ranging : Ranging := {}
  received : List UInt8 := []

/-- Reads of the range finder's port. -/
def rangeSystem : System RangeFeed (List UInt8) where
  init := {}
  step s chunk :=
    let next := usart1RxEntry (s.buffer, s.ranging) chunk
    ⟨next.1, next.2, s.received ++ chunk⟩

/-- The values that `Distance` takes in a read. -/
def distancesTaken (s : RangeFeed) (chunk : List UInt8) : List ℕ :=
  (usart1Port.rxEntry (Port.logged vl53DataProc) (s.buffer, (s.ranging, [])) chunk).2.2.map
    Ranging.distance

/-- In a read `Distance` takes the readings that the read completes, and is left at
the last reading, or 0. -/
structure FollowsReadings (s : RangeFeed) (chunk : List UInt8) : Prop where
  taken : readings s.received ++ distancesTaken s chunk = readings (s.received ++ chunk)
  left : (rangeSystem.step s chunk).ranging.distance =
    (readings (s.received ++ chunk)).getLastD 0
  range : ∀ reading ∈ (rangeSystem.step s chunk).ranging.distance :: distancesTaken s chunk,
    reading ≤ 9999

/-- Every frame handed over in a read is a reading, and if the read does not fit
into the buffer, no reading begins in what is dropped for it. -/
structure Decodable (s : RangeFeed) (chunk : List UInt8) : Prop where
  digits : ∀ frame ∈ (rangePattern.rule.scan (s.buffer.append chunk).content).1,
    (readingAt frame).isSome
  fits : s.buffer.length + chunk.length ≤ uartMaxLen ∨
    ∀ part, part <:+ s.buffer.content → part ≠ [] → readingAt (part ++ chunk) = none

instance (s : RangeFeed) (chunk : List UInt8) : Decidable (Decodable s chunk) :=
  decidable_of_iff ((∀ frame ∈ (rangePattern.rule.scan (s.buffer.append chunk).content).1,
      (readingAt frame).isSome) ∧
    (s.buffer.length + chunk.length ≤ uartMaxLen ∨
      ∀ part ∈ s.buffer.content.tails, part ≠ [] → readingAt (part ++ chunk) = none))
    ⟨fun ⟨hdigits, hfits⟩ => ⟨hdigits, by simpa only [List.mem_tails] using hfits⟩,
      fun hdecodable => ⟨hdecodable.digits, by simpa only [List.mem_tails] using hdecodable.fits⟩⟩

/-! ## One frame -/

/-- The distance that the handler makes of a frame. -/
def frameDistance (frame : List UInt8) : ℕ :=
  uint16 ((receiveDigit (frame.getD 2 0)).toNat * 1000 +
    (receiveDigit (frame.getD 3 0)).toNat * 100 + (receiveDigit (frame.getD 4 0)).toNat * 10 +
    (receiveDigit (frame.getD 5 0)).toNat)

theorem distance_vl53DataProc {data : Memory} (hframe : vl53IsFrame data) (r : Ranging) :
    (vl53DataProc data vl53packNum r).distance = frameDistance ((List.range 7).map data) := by
  rw [vl53DataProc_frame hframe]
  rfl

/-- The distance made of a reading is the reading, which has four digits. -/
theorem frameDistance_eq {frame : List UInt8} {reading : ℕ}
    (hreading : readingAt frame = some reading) :
    frameDistance frame = reading ∧ reading ≤ 9999 := by
  obtain ⟨qian, bai, shi, ge, rest, rfl, q, b, s, g, hq, hb, hs, hg, rfl⟩ :=
    exists_of_readingAt hreading
  have hqLe := digitValue_le hq
  have hbLe := digitValue_le hb
  have hsLe := digitValue_le hs
  have hgLe := digitValue_le hg
  constructor
  · change uint16 ((receiveDigit qian).toNat * 1000 + (receiveDigit bai).toNat * 100 +
      (receiveDigit shi).toNat * 10 + (receiveDigit ge).toNat) = _
    rw [toNat_receiveDigit hq, toNat_receiveDigit hb, toNat_receiveDigit hs,
      toNat_receiveDigit hg]
    exact Nat.mod_eq_of_lt (by omega)
  · omega

theorem map_frameDistance {frames : List (List UInt8)}
    (hdigits : ∀ frame ∈ frames, (readingAt frame).isSome) :
    frames.map frameDistance = frames.filterMap readingAt := by
  induction frames with
  | nil => rfl
  | cons frame frames ih =>
      obtain ⟨reading, hreading⟩ := Option.isSome_iff_exists.mp (hdigits frame List.mem_cons_self)
      rw [List.map_cons, List.filterMap_cons_some hreading, (frameDistance_eq hreading).1,
        ih fun later hlater => hdigits later (List.mem_cons_of_mem _ hlater)]

theorem le_of_mem_filterMap {frames : List (List UInt8)} {reading : ℕ}
    (hmem : reading ∈ frames.filterMap readingAt) : reading ≤ 9999 := by
  obtain ⟨frame, -, hreading⟩ := List.mem_filterMap.mp hmem
  exact (frameDistance_eq hreading).2

/-! ## One read -/

/-- Recording a value that each frame sets anew. -/
theorem foldl_frameDistance (frames : List (List UInt8)) (distance : ℕ) (log : List ℕ) :
    frames.foldl (fun (t : ℕ × List ℕ) frame => (frameDistance frame, t.2 ++ [frameDistance frame]))
        (distance, log) =
      ((frames.map frameDistance).getLastD distance, log ++ frames.map frameDistance) := by
  induction frames generalizing distance log with
  | nil => simp
  | cons frame frames ih =>
      rw [List.foldl_cons, ih, List.map_cons, List.getLastD_cons, List.append_assoc]
      rfl

/-- What the frames of a read leave in `Distance`, and the values it takes. -/
theorem distances_tryParse (b : RxBuffer) (r : Ranging) :
    let frames := (rangePattern.rule.scan b.content).1
    let out := usart1Port.tryParse (Port.logged vl53DataProc) b (r, [])
    out.2.1.distance = (frames.map frameDistance).getLastD r.distance ∧
      out.2.2.map Ranging.distance = frames.map frameDistance := by
  intro frames out
  have hscans := usart1Port.scans (Port.logged vl53DataProc)
    (fun s => (s.1.distance, s.2.map Ranging.distance))
    (fun frame t => (frameDistance frame, t.2 ++ [frameDistance frame])) (by
      intro data s hframe
      simp only [Port.logged, List.map_append, List.map_cons, List.map_nil]
      rw [show usart1Port.frameLen = vl53packNum from rfl, distance_vl53DataProc hframe])
  have hhandled := hscans.handled b (r, [])
  rw [pattern_usart1] at hhandled
  rw [foldl_frameDistance] at hhandled
  obtain ⟨hdistance, hlog⟩ := Prod.ext_iff.mp hhandled
  exact ⟨hdistance, hlog⟩

/-- The thread's variables do not depend on the record. -/
theorem logged_usart1RxEntry (b : RxBuffer) (r : Ranging) (chunk : List UInt8) :
    usart1RxEntry (b, r) chunk =
      Prod.map id Prod.fst (usart1Port.rxEntry (Port.logged vl53DataProc) (b, (r, [])) chunk) := by
  unfold usart1RxEntry UsartPort.rxEntry rxLoop
  split
  · exact usart1Port.tryParseFrom_map (Port.logged vl53DataProc) (b.append chunk) 0 (r, [])
      vl53DataProc (f := Prod.fst) fun _ _ _ => rfl
  · rfl

theorem readings_of_length_lt {bytes : List UInt8} (hshort : bytes.length < 7) :
    readings bytes = [] := by
  apply occurrences_eq_nil
  intro part hpart _
  rw [Option.eq_none_iff_forall_ne_some]
  intro reading hreading
  obtain ⟨qian, bai, shi, ge, rest, rfl, -⟩ := exists_of_readingAt hreading
  have hle := hpart.length_le
  rw [List.length_append] at hle
  change 7 + rest.length ≤ _ at hle
  omega

/-- The buffer holds what the readings of the stream still depend on. -/
structure Tracks (s : RangeFeed) : Prop where
  more : ∀ later, readings (s.received ++ later) =
    readings s.received ++ readings (s.buffer.content ++ later)
  short : s.buffer.length < 7
  distance : s.ranging.distance = (readings s.received).getLastD 0

/-- What a read adds to the readings is found among the frames handed over in it. -/
theorem readings_read {s : RangeFeed} (htracks : Tracks s) {chunk : List UInt8}
    (hdecodable : Decodable s chunk) (later : List UInt8) :
    readings (s.received ++ chunk ++ later) = readings s.received ++
      ((rangePattern.rule.scan (s.buffer.append chunk).content).1.filterMap readingAt ++
        readings ((rangePattern.rule.scan (s.buffer.append chunk).content).2 ++ later)) := by
  rw [List.append_assoc, htracks.more, ← readings_append_eq_scan]
  congr 1
  by_cases hfits : s.buffer.length + chunk.length ≤ uartMaxLen
  · rw [RxBuffer.content_append hfits, List.append_assoc]
  · -- nothing that is dropped begins a reading, as the read is long enough to tell
    have hnone := hdecodable.fits.resolve_left hfits
    have hshort := htracks.short
    have hmax : uartMaxLen = 400 := rfl
    rw [RxBuffer.content_append_of_lt (Nat.lt_of_not_le hfits)]
    apply occurrences_append_of_none
    intro part hpart hne
    rw [← List.append_assoc]
    apply readingAt_append_eq_none _ (hnone part hpart hne)
    rw [List.length_append]
    omega

theorem getLastD_readings_le (stream : List UInt8) : (readings stream).getLastD 0 ≤ 9999 := by
  rcases List.mem_cons.mp (List.getLastD_mem_cons (l := readings stream) (a := 0)) with
    hzero | hmem
  · rw [hzero]
    exact Nat.zero_le _
  · obtain ⟨part, -, hreading⟩ := exists_of_mem_occurrences hmem
    exact (frameDistance_eq hreading).2

/-- Some frames are handed over, and the rest waits for more. -/
theorem step_read {s : RangeFeed} (htracks : Tracks s) {chunk : List UInt8}
    (hdecodable : Decodable s chunk) (hread : 0 < chunk.length) :
    FollowsReadings s chunk ∧ Tracks (rangeSystem.step s chunk) := by
  let out := usart1Port.tryParse (Port.logged vl53DataProc) (s.buffer.append chunk) (s.ranging, [])
  have hlogged : usart1Port.rxEntry (Port.logged vl53DataProc) (s.buffer, (s.ranging, [])) chunk =
      out := if_pos hread
  have hstep : rangeSystem.step s chunk = ⟨out.1, out.2.1, s.received ++ chunk⟩ := by
    change RangeFeed.mk _ _ _ = _
    rw [logged_usart1RxEntry, hlogged]
    rfl
  have hshort : out.1.length < 7 := usart1Port.length_tryParse_lt _ _ _
  have hkept : out.1.content = (rangePattern.rule.scan (s.buffer.append chunk).content).2 := by
    rw [← pattern_usart1]
    exact usart1Port.content_tryParseFrom _ _ 0 _
  obtain ⟨hdistance, htaken⟩ := distances_tryParse (s.buffer.append chunk) s.ranging
  rw [map_frameDistance hdecodable.digits] at hdistance htaken
  have hmore := readings_read htracks hdecodable
  rw [← hkept] at hmore
  have hresidue : readings out.1.content = [] :=
    readings_of_length_lt (by rwa [RxBuffer.length_content])
  have hreadings := hmore []
  rw [List.append_nil, List.append_nil, hresidue, List.append_nil] at hreadings
  have hlast : out.2.1.distance = (readings (s.received ++ chunk)).getLastD 0 := by
    rw [hdistance, hreadings, htracks.distance]
    simp [List.getLastD_eq_getLast?, List.getLast?_append, Option.getD_or]
  constructor
  · constructor
    · unfold distancesTaken
      rw [hlogged, htaken, hreadings]
    · rw [hstep]
      exact hlast
    · intro reading hmem
      rw [hstep] at hmem
      rcases List.mem_cons.mp hmem with rfl | htakenMem
      · rw [hlast]
        exact getLastD_readings_le _
      · unfold distancesTaken at htakenMem
        rw [hlogged, htaken] at htakenMem
        exact le_of_mem_filterMap htakenMem
  · rw [hstep]
    refine ⟨fun later => ?_, hshort, hlast⟩
    rw [hmore, hreadings, List.append_assoc]

/-- A read without bytes changes nothing. -/
theorem step_nil {s : RangeFeed} (htracks : Tracks s) :
    FollowsReadings s [] ∧ Tracks (rangeSystem.step s []) := by
  have hstep : rangeSystem.step s [] = s := by
    change RangeFeed.mk s.buffer s.ranging (s.received ++ []) = s
    rw [List.append_nil]
  have htaken : distancesTaken s [] = [] := rfl
  rw [hstep]
  refine ⟨⟨?_, ?_, ?_⟩, htracks⟩
  · rw [htaken, List.append_nil, List.append_nil]
  · rw [hstep, List.append_nil]
    exact htracks.distance
  · intro reading hmem
    rw [hstep, htaken, List.mem_singleton] at hmem
    rw [hmem, htracks.distance]
    exact getLastD_readings_le _

theorem tracks_init : Tracks rangeSystem.init where
  more _ := rfl
  short := by decide
  distance := rfl

/-- While every frame handed over is a reading, `Distance` takes the readings of the
stream, in whatever reads it arrives. -/
theorem distance_follows_readings {reads : List (List UInt8)}
    (hdecodable : rangeSystem.Along Decodable reads) :
    rangeSystem.Along FollowsReadings reads := by
  refine System.along_of_kept Tracks tracks_init ?_ hdecodable
  intro s chunk htracks hchunk
  rcases Nat.eq_zero_or_pos chunk.length with hempty | hread
  · rw [List.eq_nil_of_length_eq_zero hempty]
    exact step_nil htracks
  · exact step_read htracks hchunk hread

/-- 123 with a leading blank, in two reads. -/
theorem distance_follows_readings_split :
    rangeSystem.Along FollowsReadings [[0x65, 0x3A, 0x20, 0x31, 0x32], [0x33, 0x6D, 0x65]] :=
  distance_follows_readings (by decide +kernel)

/-- A frame of other bytes becomes a distance of five digits. -/
theorem distance_not_follows_readings :
    ¬ ∀ reads : List (List UInt8), rangeSystem.Along FollowsReadings reads := by
  intro hall
  obtain ⟨hfollows, -⟩ := hall [[0x65, 0x3A, 0xFF, 0xFF, 0xFF, 0xFF, 0x6D]]
  have hdistance : (rangeSystem.step rangeSystem.init
      [0x65, 0x3A, 0xFF, 0xFF, 0xFF, 0xFF, 0x6D]).ranging.distance = 33369 := by decide +kernel
  have hrange := hfollows.range _ List.mem_cons_self
  rw [hdistance] at hrange
  omega

end PlantAssistant.Link
