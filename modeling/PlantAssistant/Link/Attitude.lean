import PlantAssistant.Link.ReadCuts

/-! # Attitude frames

The attitude handler reads a frame again at every offset where eight bytes are
left. Data bytes that spell a header move the words it takes, and the values
are still right only when the moved words are the same.
-/

namespace PlantAssistant.Link

open Framing PlantAssistant.Firmware

/-- A frame `55 53 d2 .. d10`. -/
structure AttitudeFrame where
  (d2 d3 d4 d5 d6 d7 d8 d9 d10 : UInt8)
deriving DecidableEq, Repr

def AttitudeFrame.bytes (f : AttitudeFrame) : List UInt8 :=
  [0x55, 0x53, f.d2, f.d3, f.d4, f.d5, f.d6, f.d7, f.d8, f.d9, f.d10]

/-- The signed word of two bytes. -/
def signedWord (hi lo : UInt8) : ℤ :=
  256 * hi.toNat + lo.toNat - if hi.toNat < 128 then 0 else 65536

/-- The attitude that the frame carries. -/
structure Shows (f : AttitudeFrame) (a : Attitude ℚ) : Prop where
  roll : a.roll = signedWord f.d3 f.d2 * (180 / 32768)
  pitch : a.pitch = signedWord f.d5 f.d4 * (180 / 32768)
  yaw : a.yaw = signedWord f.d7 f.d6 * (180 / 32768)
  obspack2 : a.obspack.toList.getD 2 0 = f.d7
  obspack3 : a.obspack.toList.getD 3 0 = f.d6

/-- Where a header stands in the data bytes, the words behind it are those of
the frame. -/
structure CleanAttitude (f : AttitudeFrame) : Prop where
  atTwo : f.d2 = 0x55 → f.d3 = 0x53 →
    f.d4 = 0x55 ∧ f.d5 = 0x53 ∧ f.d6 = 0x55 ∧ f.d7 = 0x53 ∧ f.d8 = 0x55 ∧ f.d9 = 0x53
  atThree : f.d3 = 0x55 → f.d4 = 0x53 →
    f.d5 = f.d2 ∧ f.d6 = 0x55 ∧ f.d7 = 0x53 ∧ f.d8 = f.d2 ∧ f.d9 = 0x55 ∧ f.d10 = 0x53

/-! ## Words -/

theorem int16_eq (hi lo : UInt8) : int16 (hi.toNat <<< 8 ||| lo.toNat) = signedWord hi lo := by
  have hhi := hi.toNat_lt
  have hlo := lo.toNat_lt
  have hword : hi.toNat <<< 8 ||| lo.toNat = 256 * hi.toNat + lo.toNat := by
    rw [Nat.shiftLeft_eq, Nat.mul_comm, ← Nat.two_pow_add_eq_or_of_lt (by omega)]
  rw [hword, int16, signedWord]
  push_cast
  split <;> split <;> omega

theorem signedWord_inj {hi lo hi' lo' : UInt8} :
    signedWord hi lo = signedWord hi' lo' ↔ hi = hi' ∧ lo = lo' := by
  have hhi := hi.toNat_lt
  have hlo := lo.toNat_lt
  have hhi' := hi'.toNat_lt
  have hlo' := lo'.toNat_lt
  rw [← UInt8.toNat_inj, ← UInt8.toNat_inj]
  unfold signedWord
  constructor
  · intro heq
    split at heq <;> split at heq <;> omega
  · rintro ⟨heq, heq'⟩
    rw [heq, heq']

theorem attitudeAngle_rat (hi lo : UInt8) :
    (attitudeAngle hi lo : ℚ) = signedWord hi lo * (180 / 32768) := by
  rw [attitudeAngle, int16_eq]
  change (signedWord hi lo : ℚ) / 32768 * 180 = _
  ring

theorem angle_inj {hi lo hi' lo' : UInt8} :
    (signedWord hi lo : ℚ) * (180 / 32768) = signedWord hi' lo' * (180 / 32768) ↔
      hi = hi' ∧ lo = lo' := by
  rw [mul_left_inj' (by norm_num), Int.cast_inj, signedWord_inj]

/-! ## The handler -/

/-- The variables as the words at one offset leave them. -/
def taken (rollHi rollLo pitchHi pitchLo yawHi yawLo : UInt8) (a : Attitude ℚ) : Attitude ℚ where
  roll := attitudeAngle rollHi rollLo
  pitch := attitudeAngle pitchHi pitchLo
  yaw := attitudeAngle yawHi yawLo
  obspack := setYaw yawHi yawLo a.obspack

theorem shows_taken {f : AttitudeFrame} {rollHi rollLo pitchHi pitchLo yawHi yawLo : UInt8}
    {a : Attitude ℚ} :
    Shows f (taken rollHi rollLo pitchHi pitchLo yawHi yawLo a) ↔
      (rollHi = f.d3 ∧ rollLo = f.d2) ∧ (pitchHi = f.d5 ∧ pitchLo = f.d4) ∧
        (yawHi = f.d7 ∧ yawLo = f.d6) := by
  constructor
  · rintro ⟨hroll, hpitch, hyaw, -, -⟩
    simp only [taken, attitudeAngle_rat, angle_inj] at hroll hpitch hyaw
    exact ⟨hroll, hpitch, hyaw⟩
  · rintro ⟨⟨rfl, rfl⟩, ⟨rfl, rfl⟩, rfl, rfl⟩
    constructor <;> simp [taken, setYaw, attitudeAngle_rat]

@[simp] theorem taken_taken {rollHi rollLo pitchHi pitchLo yawHi yawLo : UInt8}
    {rollHi' rollLo' pitchHi' pitchLo' yawHi' yawLo' : UInt8} {a : Attitude ℚ} :
    taken rollHi rollLo pitchHi pitchLo yawHi yawLo
        (taken rollHi' rollLo' pitchHi' pitchLo' yawHi' yawLo' a) =
      taken rollHi rollLo pitchHi pitchLo yawHi yawLo a := by
  unfold taken
  congr 1
  apply Vector.ext
  intro k hk
  by_cases htwo : k = 2
  · simp [setYaw, htwo]
  · by_cases hthree : k = 3
    · simp [setYaw, hthree]
    · simp [setYaw, Ne.symm htwo, Ne.symm hthree]

/-- The effect of a frame: the last header in it decides. -/
def attitudeEffect (f : AttitudeFrame) : Attitude ℚ → Attitude ℚ :=
  if f.d3 = 0x55 ∧ f.d4 = 0x53 then taken f.d6 f.d5 f.d8 f.d7 f.d10 f.d9
  else if f.d2 = 0x55 ∧ f.d3 = 0x53 then taken f.d5 f.d4 f.d7 f.d6 f.d9 f.d8
  else taken f.d3 f.d2 f.d5 f.d4 f.d7 f.d6

theorem shows_attitudeEffect (f : AttitudeFrame) (a : Attitude ℚ) :
    Shows f (attitudeEffect f a) ↔ CleanAttitude f := by
  unfold attitudeEffect
  split_ifs with hthree htwo
  · -- the header at offset three
    obtain ⟨h3, h4⟩ := hthree
    rw [shows_taken]
    constructor
    · rintro ⟨⟨h6, h5⟩, ⟨h8, h7⟩, h10, h9⟩
      refine ⟨?_, ?_⟩
      · intro _ hne
        simp [h3] at hne
      · intro _ _
        exact ⟨h5, h6.trans h3, h7.trans h4, h8.trans h5, (h9.trans h6).trans h3,
          (h10.trans h7).trans h4⟩
    · rintro ⟨-, hmoved⟩
      obtain ⟨h5, h6, h7, h8, h9, h10⟩ := hmoved h3 h4
      simp [*]
  · -- the header at offset two
    obtain ⟨h2, h3⟩ := htwo
    rw [shows_taken]
    constructor
    · rintro ⟨⟨h5, h4⟩, ⟨h7, h6⟩, h9, h8⟩
      have h53 := h5.trans h3
      have h42 := h4.trans h2
      refine ⟨?_, ?_⟩
      · intro _ _
        exact ⟨h42, h53, h6.trans h42, h7.trans h53, (h8.trans h6).trans h42,
          (h9.trans h7).trans h53⟩
      · intro hne _
        simp [h3] at hne
    · rintro ⟨hmoved, -⟩
      obtain ⟨h4, h5, h6, h7, h8, h9⟩ := hmoved h2 h3
      simp [*]
  · rw [shows_taken]
    refine iff_of_true ⟨⟨rfl, rfl⟩, ⟨rfl, rfl⟩, rfl, rfl⟩ ⟨?_, ?_⟩
    · intro h2 h3
      exact absurd ⟨h2, h3⟩ htwo
    · intro h3 h4
      exact absurd ⟨h3, h4⟩ hthree

/-- The handler tests the offsets from zero to three; no later one has eight
bytes left. -/
theorem hwt101DataProc_bytes {f : AttitudeFrame} {data : Memory}
    (hdata : (List.range hwt101FrameLen).map data = f.bytes) (a : Attitude ℚ) :
    hwt101DataProc data hwt101FrameLen a = attitudeEffect f a := by
  have hbyte : ∀ k (hk : k < f.bytes.length), data k = f.bytes[k] := fun k hk =>
    data_eq_of_map_range hdata hk
  have hlate : ∀ i (a : Attitude ℚ), 4 ≤ i → hwt101Step data hwt101FrameLen a i = a := by
    intro i a hi
    apply if_neg
    rintro ⟨hroom, -⟩
    change i + 7 < 11 at hroom
    omega
  have h0 : ∀ a, hwt101Step data hwt101FrameLen a 0 = taken f.d3 f.d2 f.d5 f.d4 f.d7 f.d6 a := by
    intro a
    simp [hwt101Step, hwt101FrameLen, taken, hbyte, AttitudeFrame.bytes]
  have h1 : ∀ a : Attitude ℚ, hwt101Step data hwt101FrameLen a 1 = a := by
    intro a
    simp [hwt101Step, hbyte, AttitudeFrame.bytes]
  have h2 : ∀ a, hwt101Step data hwt101FrameLen a 2 =
      if f.d2 = 0x55 ∧ f.d3 = 0x53 then taken f.d5 f.d4 f.d7 f.d6 f.d9 f.d8 a else a := by
    intro a
    simp [hwt101Step, hwt101FrameLen, taken, hbyte, AttitudeFrame.bytes]
  have h3 : ∀ a, hwt101Step data hwt101FrameLen a 3 =
      if f.d3 = 0x55 ∧ f.d4 = 0x53 then taken f.d6 f.d5 f.d8 f.d7 f.d10 f.d9 a else a := by
    intro a
    simp [hwt101Step, hwt101FrameLen, taken, hbyte, AttitudeFrame.bytes]
  have hrange : List.range (hwt101FrameLen - 1) = [0, 1, 2, 3, 4, 5, 6, 7, 8, 9] := rfl
  simp only [hwt101DataProc, hrange, List.foldl_cons, List.foldl_nil, h0, h1, h2, h3]
  rw [hlate 9, hlate 8, hlate 7, hlate 6, hlate 5, hlate 4]
  · unfold attitudeEffect
    split_ifs <;> simp
  all_goals decide

/-! ## Streams of frames -/

def readFrame (frame : List UInt8) : AttitudeFrame :=
  ⟨frame.getD 2 0, frame.getD 3 0, frame.getD 4 0, frame.getD 5 0, frame.getD 6 0,
    frame.getD 7 0, frame.getD 8 0, frame.getD 9 0, frame.getD 10 0⟩

theorem hwt101DataProc_eq {data : Memory} (hframe : usart2Port.isFrame data) (a : Attitude ℚ) :
    hwt101DataProc data usart2Port.frameLen a =
      attitudeEffect (readFrame ((List.range usart2Port.frameLen).map data)) a := by
  apply hwt101DataProc_bytes
  change decide (data 0 = 0x55 ∧ data 1 = 0x53) = true at hframe
  obtain ⟨h0, h1⟩ := of_decide_eq_true hframe
  have hrange : List.range hwt101FrameLen = [0, 1, 2, 3, 4, 5, 6, 7, 8, 9, 10] := rfl
  have hrange' : List.range usart2Port.frameLen = [0, 1, 2, 3, 4, 5, 6, 7, 8, 9, 10] := rfl
  rw [hrange, hrange']
  simp only [List.map_cons, List.map_nil, h0, h1]
  rfl

theorem framed_attitude (f : AttitudeFrame) : usart2Port.pattern.rule.Framed f.bytes := by
  rw [pattern_usart2]
  apply Rule.Framed.of_take
  · intro more
    have hlong : attitudePattern.size ≤ (f.bytes ++ more).length := by
      rw [List.length_append]
      exact Nat.le_add_right _ _
    have htake : (f.bytes ++ more).take attitudePattern.size = f.bytes := List.take_left' rfl
    rw [Pattern.verdict_of_le _ hlong, htake]
    rfl
  · intro k hk
    apply Pattern.verdict_of_lt
    rw [List.length_take]
    exact lt_of_le_of_lt (Nat.min_le_left _ _) hk

/-- The variables after each frame. -/
def attitudes (memory : Memory) (a : Attitude ℚ) (chunks : List (List UInt8)) :
    List (Attitude ℚ) :=
  (chunks.foldl (usart2Port.rxEntry (Port.logged hwt101DataProc)) (⟨memory, 0⟩, (a, []))).2.2

theorem attitudes_eq (memory : Memory) (a : Attitude ℚ) (frames : List AttitudeFrame)
    (chunks : List (List UInt8))
    (hstream : chunks.flatten = (frames.map AttitudeFrame.bytes).flatten)
    (hreads : ∀ chunk ∈ chunks, 1 ≤ chunk.length ∧ chunk.length ≤ 390) :
    attitudes memory a chunks = (frames.scanl (fun a f => attitudeEffect f a) a).tail := by
  have hscans := usart2Port.scans (Port.logged hwt101DataProc) id
    (fun frame s =>
      (attitudeEffect (readFrame frame) s.1, s.2 ++ [attitudeEffect (readFrame frame) s.1]))
    (by
      intro data s hframe
      simp only [id, Port.logged, hwt101DataProc_eq hframe])
  have hfits : Fits (usart2Port.tryParse (Port.logged hwt101DataProc)) (⟨memory, 0⟩, (a, []))
      chunks := by
    apply fits_of_keeps_few (usart2Port.length_tryParse_lt _) _ _ usart2Port.frameLen_pos
    intro chunk hmem
    have hread := (hreads chunk hmem).2
    have hmax : uartMaxLen = 400 := rfl
    have hlen : usart2Port.frameLen = 11 := rfl
    omega
  have hempty : (RxBuffer.mk memory 0).content = [] := rfl
  have hview := hscans.view_foldl usart2Port.pattern.stable_rule chunks _ (by simp [hempty]) hfits
  have hframed : ∀ frame ∈ frames.map AttitudeFrame.bytes,
      usart2Port.pattern.rule.Framed frame := by
    intro frame hmem
    obtain ⟨f, -, rfl⟩ := List.mem_map.mp hmem
    exact framed_attitude f
  have hread : ∀ f : AttitudeFrame, readFrame f.bytes = f := fun _ => rfl
  rw [hempty, List.nil_append, hstream, Rule.scan_flatten hframed, List.foldl_map] at hview
  simp only [id, hread] at hview
  rw [Port.foldl_logged attitudeEffect, List.nil_append] at hview
  exact congrArg Prod.snd hview

/-- After each frame of a stream the variables show that frame, however the
stream is cut, if and only if every frame is clean. -/
theorem attitudes_exact_iff (memory : Memory) (a : Attitude ℚ) (frames : List AttitudeFrame)
    (chunks : List (List UInt8))
    (hstream : chunks.flatten = (frames.map AttitudeFrame.bytes).flatten)
    (hreads : ∀ chunk ∈ chunks, 1 ≤ chunk.length ∧ chunk.length ≤ 390) :
    List.Forall₂ Shows frames (attitudes memory a chunks) ↔
      ∀ f ∈ frames, CleanAttitude f := by
  rw [attitudes_eq memory a frames chunks hstream hreads]
  clear hstream
  induction frames generalizing a with
  | nil => simp
  | cons f frames ih =>
      have htail : ((f :: frames).scanl (fun a f => attitudeEffect f a) a).tail =
          attitudeEffect f a ::
            (frames.scanl (fun a f => attitudeEffect f a) (attitudeEffect f a)).tail := by
        cases frames <;> simp [List.scanl_cons]
      rw [htail, List.forall₂_cons, shows_attitudeEffect, ih, List.forall_mem_cons]

/-- A frame without a header in its data, cut in two. -/
theorem attitudes_exact_iff_level :
    List.Forall₂ Shows [⟨0, 0, 0, 0, 0x10, 0x20, 0, 0, 0⟩]
        (attitudes (fun _ => 0) ⟨0, 0, 0, .replicate 7 0⟩
          [[0x55, 0x53, 0, 0, 0], [0, 0x10, 0x20, 0, 0, 0]]) ↔
      ∀ f ∈ [(⟨0, 0, 0, 0, 0x10, 0x20, 0, 0, 0⟩ : AttitudeFrame)], CleanAttitude f :=
  attitudes_exact_iff _ _ _ _ rfl (by decide)

/-- A roll of about 117 degrees spells a header, and is reported as zero. -/
theorem attitude_moved :
    ¬ List.Forall₂ Shows [⟨0x55, 0x53, 0, 0, 0, 0, 0, 0, 0⟩]
      (attitudes (fun _ => 0) ⟨0, 0, 0, .replicate 7 0⟩
        [[0x55, 0x53, 0x55, 0x53, 0, 0, 0, 0, 0, 0, 0]]) := by
  intro hshows
  have heq := attitudes_eq (fun _ => 0) ⟨0, 0, 0, .replicate 7 0⟩
    [⟨0x55, 0x53, 0, 0, 0, 0, 0, 0, 0⟩] [[0x55, 0x53, 0x55, 0x53, 0, 0, 0, 0, 0, 0, 0]] rfl
    (by decide)
  rw [heq] at hshows
  have hfirst := (List.forall₂_cons.mp hshows).1
  have hclean := ((shows_attitudeEffect _ _).mp hfirst).atTwo rfl rfl
  exact absurd hclean.1 (by decide)

end PlantAssistant.Link
