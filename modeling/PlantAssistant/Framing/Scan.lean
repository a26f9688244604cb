import Mathlib.Data.List.Basic
import Mathlib.Tactic.Common

/-! # Scanning a byte stream for frames

A receiver stands at a position of its buffer and decides, from the elements
that have arrived after it, whether to wait for more, to give the position up,
or to take a frame there. A scan repeats that decision until it has to wait.
Nothing here depends on what the frames are.
-/

namespace Framing

variable {α : Type*}

/-- The decision at one position. -/
inductive Verdict where
  | wait
  | skip
  | accept (size : Nat)
deriving DecidableEq, Repr

/-- A decision rule that only consumes what has arrived: it waits on an empty
buffer, and an accepted frame is nonempty and complete. -/
structure Rule (α : Type*) where
  verdict : List α → Verdict
  verdict_nil : verdict [] = .wait
  accept_pos {bytes : List α} {size : Nat} : verdict bytes = .accept size → 0 < size
  accept_le {bytes : List α} {size : Nat} : verdict bytes = .accept size → size ≤ bytes.length

namespace Rule

variable (rule : Rule α)

theorem length_pos_of_skip {bytes : List α} (hskip : rule.verdict bytes = .skip) :
    0 < bytes.length := by
  cases bytes with
  | nil => simp [rule.verdict_nil] at hskip
  | cons byte rest => simp

/-- The frames found from left to right, and the buffer left at the position
where the rule waits. -/
def scan (bytes : List α) : List (List α) × List α :=
  match _hverdict : rule.verdict bytes with
  | .wait => ([], bytes)
  | .skip => scan bytes.tail
  | .accept size =>
      let rest := scan (bytes.drop size)
      (bytes.take size :: rest.1, rest.2)
termination_by bytes.length
decreasing_by
  · have hpos := rule.length_pos_of_skip _hverdict
    simp only [List.length_tail]
    omega
  · have hpos := rule.accept_pos _hverdict
    have hle := rule.accept_le _hverdict
    simp only [List.length_drop]
    omega

theorem scan_wait {bytes : List α} (hverdict : rule.verdict bytes = .wait) :
    rule.scan bytes = ([], bytes) := by
  rw [scan]
  split <;> simp_all

theorem scan_skip {bytes : List α} (hverdict : rule.verdict bytes = .skip) :
    rule.scan bytes = rule.scan bytes.tail := by
  rw [scan]
  split <;> simp_all

theorem scan_accept {bytes : List α} {size : Nat} (hverdict : rule.verdict bytes = .accept size) :
    rule.scan bytes =
      (bytes.take size :: (rule.scan (bytes.drop size)).1, (rule.scan (bytes.drop size)).2) := by
  rw [scan]
  split <;> simp_all

@[simp] theorem scan_nil : rule.scan [] = ([], []) :=
  rule.scan_wait rule.verdict_nil

/-- Induction along the positions a scan visits. -/
theorem scan_induction {motive : List α → Prop}
    (wait : ∀ bytes, rule.verdict bytes = .wait → motive bytes)
    (skip : ∀ bytes, rule.verdict bytes = .skip → motive bytes.tail → motive bytes)
    (accept : ∀ bytes size, rule.verdict bytes = .accept size →
      motive (bytes.drop size) → motive bytes)
    (bytes : List α) : motive bytes := by
  induction hlength : bytes.length using Nat.strongRecOn generalizing bytes with
  | ind length ih =>
      cases hverdict : rule.verdict bytes with
      | wait => exact wait bytes hverdict
      | skip =>
          have hpos := rule.length_pos_of_skip hverdict
          exact skip bytes hverdict (ih _ (by simp only [List.length_tail]; omega) _ rfl)
      | accept size =>
          have hpos := rule.accept_pos hverdict
          have hle := rule.accept_le hverdict
          exact accept bytes size hverdict (ih _ (by simp only [List.length_drop]; omega) _ rfl)

theorem scan_residue_wait (bytes : List α) : rule.verdict (rule.scan bytes).2 = .wait := by
  induction bytes using rule.scan_induction with
  | wait bytes hverdict => rw [rule.scan_wait hverdict]; exact hverdict
  | skip bytes hverdict ih => rw [rule.scan_skip hverdict]; exact ih
  | accept bytes size hverdict ih => rw [rule.scan_accept hverdict]; exact ih

/-- What a scan finds was taken at some position. -/
theorem exists_verdict_of_mem_scan {bytes frame : List α} (hmem : frame ∈ (rule.scan bytes).1) :
    ∃ rest size, rule.verdict rest = .accept size ∧ rest.take size = frame := by
  induction bytes using rule.scan_induction with
  | wait bytes hverdict =>
      rw [rule.scan_wait hverdict] at hmem
      cases hmem
  | skip bytes hverdict ih =>
      rw [rule.scan_skip hverdict] at hmem
      exact ih hmem
  | accept bytes size hverdict ih =>
      rw [rule.scan_accept hverdict] at hmem
      rcases List.mem_cons.mp hmem with rfl | hrest
      · exact ⟨bytes, size, hverdict, rfl⟩
      · exact ih hrest

theorem length_residue_le (bytes : List α) : (rule.scan bytes).2.length ≤ bytes.length := by
  induction bytes using rule.scan_induction with
  | wait bytes hverdict => simp [rule.scan_wait hverdict]
  | skip bytes hverdict ih =>
      rw [rule.scan_skip hverdict]
      rw [List.length_tail] at ih
      exact Nat.le_trans ih (Nat.sub_le _ _)
  | accept bytes size hverdict ih =>
      rw [rule.scan_accept hverdict]
      rw [List.length_drop] at ih
      exact Nat.le_trans ih (Nat.sub_le _ _)

/-! ## What a scan reads past -/

/-- `Passes bytes rest`: dropping given-up positions and whole frames from the
left of `bytes` leads to `rest`. -/
inductive Passes : List α → List α → Prop
  | refl (bytes : List α) : Passes bytes bytes
  | skip {bytes rest : List α} :
      rule.verdict bytes = .skip → Passes bytes.tail rest → Passes bytes rest
  | accept {bytes rest : List α} {size : Nat} :
      rule.verdict bytes = .accept size → Passes (bytes.drop size) rest → Passes bytes rest

theorem passes_scan (bytes : List α) : rule.Passes bytes (rule.scan bytes).2 := by
  induction bytes using rule.scan_induction with
  | wait bytes hverdict => rw [rule.scan_wait hverdict]; exact .refl bytes
  | skip bytes hverdict ih => rw [rule.scan_skip hverdict]; exact .skip hverdict ih
  | accept bytes size hverdict ih => rw [rule.scan_accept hverdict]; exact .accept hverdict ih

/-- The only waiting position a scan can come to is its residue. -/
theorem eq_residue_of_passes {bytes rest : List α} (hpasses : rule.Passes bytes rest)
    (hwait : rule.verdict rest = .wait) : rest = (rule.scan bytes).2 := by
  induction hpasses with
  | refl bytes => rw [rule.scan_wait hwait]
  | skip hverdict _ ih => rw [rule.scan_skip hverdict]; exact ih hwait
  | accept hverdict _ ih => rw [rule.scan_accept hverdict]; exact ih hwait

/-! ## Rules whose decisions are final -/

/-- More input never revises a decision that was taken. -/
def Stable : Prop :=
  ∀ bytes more, rule.verdict bytes ≠ .wait → rule.verdict (bytes ++ more) = rule.verdict bytes

/-- Under a stable rule a scan may be interrupted anywhere: the residue carries
all that the rest of the stream needs. -/
theorem scan_append (hstable : rule.Stable) (bytes more : List α) :
    rule.scan (bytes ++ more) =
      ((rule.scan bytes).1 ++ (rule.scan ((rule.scan bytes).2 ++ more)).1,
        (rule.scan ((rule.scan bytes).2 ++ more)).2) := by
  induction bytes using rule.scan_induction with
  | wait bytes hverdict => simp [rule.scan_wait hverdict]
  | skip bytes hverdict ih =>
      -- the decision is final, so the longer buffer is decided the same way
      have hmore := hstable bytes more (by simp [hverdict])
      have hpos := rule.length_pos_of_skip hverdict
      rw [rule.scan_skip (hmore.trans hverdict), rule.scan_skip hverdict,
        List.tail_append_of_ne_nil (List.ne_nil_of_length_pos hpos)]
      exact ih
  | accept bytes size hverdict ih =>
      have hmore := hstable bytes more (by simp [hverdict])
      have hle := rule.accept_le hverdict
      rw [rule.scan_accept (hmore.trans hverdict), rule.scan_accept hverdict,
        List.drop_append_of_le_length hle, List.take_append_of_le_length hle, ih]
      simp

/-! ## Receivers fed chunk by chunk -/

section Feed

variable {β : Type*}

/-- Appending each chunk to the buffer and parsing it. The first component
collects what all calls emit. -/
def feed (parse : List α → List β × List α) : List α → List (List α) → List β × List α
  | buffer, [] => ([], buffer)
  | buffer, chunk :: chunks =>
      let step := parse (buffer ++ chunk)
      let rest := feed parse step.2 chunks
      (step.1 ++ rest.1, rest.2)

/-- A parser that emits for the frames of the scan, in order. It may keep
elements the scan would have given up, and give up elements early, as long as
the scan would come to the same residue. -/
structure ParsedBy (emit : List α → List β) (parse : List α → List β × List α) : Prop where
  emitted (bytes : List α) : (parse bytes).1 = (rule.scan bytes).1.flatMap emit
  residue (bytes : List α) : rule.scan (parse bytes).2 = ([], (rule.scan bytes).2)

/-- What is emitted does not depend on how the stream was cut. -/
theorem feed_eq_scan {emit : List α → List β} {parse : List α → List β × List α}
    (hparse : rule.ParsedBy emit parse) (hstable : rule.Stable)
    (buffer : List α) (hbuffer : (rule.scan buffer).1 = []) (chunks : List (List α)) :
    (feed parse buffer chunks).1 = (rule.scan (buffer ++ chunks.flatten)).1.flatMap emit := by
  induction chunks generalizing buffer with
  | nil => simp [feed, hbuffer]
  | cons chunk chunks ih =>
      have hresidue := hparse.residue (buffer ++ chunk)
      have hrest := ih (parse (buffer ++ chunk)).2 (by rw [hresidue])
      rw [rule.scan_append hstable, hresidue, List.nil_append] at hrest
      simp only [feed, List.flatten_cons, ← List.append_assoc]
      rw [rule.scan_append hstable (buffer ++ chunk) chunks.flatten, List.flatMap_append,
        hparse.emitted, hrest]

end Feed

/-! ## Streams of whole frames -/

/-- A frame the rule takes whatever follows it, and waits for while it is
incomplete. -/
structure Framed (frame : List α) : Prop where
  whole (more : List α) : rule.verdict (frame ++ more) = .accept frame.length
  unfinished (part : List α) : part <+: frame → part ≠ frame → rule.verdict part = .wait

variable {rule}

/-- The unfinished frames are the ones cut short. -/
theorem Framed.of_take {frame : List α}
    (hwhole : ∀ more, rule.verdict (frame ++ more) = .accept frame.length)
    (hcut : ∀ k < frame.length, rule.verdict (frame.take k) = .wait) : rule.Framed frame where
  whole := hwhole
  unfinished part hpart hne := by
    have hlt : part.length < frame.length :=
      Nat.lt_of_le_of_ne hpart.length_le fun hlength => hne (hpart.eq_of_length hlength)
    rw [List.prefix_iff_eq_take.mp hpart]
    exact hcut part.length hlt

theorem Framed.length_pos {frame : List α} (hframe : rule.Framed frame) : 0 < frame.length :=
  rule.accept_pos (hframe.whole [])

/-- A cut through a stream of frames falls behind the first frame, which the
rule then takes, or inside it, where the rule waits. -/
theorem verdict_of_framed {frames : List (List α)} (hframes : ∀ frame ∈ frames, rule.Framed frame)
    {bytes more : List α} (hstream : bytes ++ more = frames.flatten) :
    (∃ frame tail rest, frames = frame :: rest ∧ bytes = frame ++ tail ∧
        tail ++ more = rest.flatten ∧ rule.verdict bytes = .accept frame.length) ∨
      rule.verdict bytes = .wait ∧ ∀ frame ∈ frames.head?, bytes.length < frame.length := by
  cases frames with
  | nil =>
      obtain ⟨rfl, -⟩ := List.append_eq_nil_iff.mp hstream
      exact .inr ⟨rule.verdict_nil, by simp⟩
  | cons frame rest =>
      have hframe := hframes frame List.mem_cons_self
      rw [List.flatten_cons] at hstream
      by_cases hcut : frame.length ≤ bytes.length
      · -- the cut falls behind the first frame
        obtain ⟨tail, rfl⟩ : frame <+: bytes :=
          List.prefix_of_prefix_length_le (List.prefix_append frame _)
            (hstream ▸ List.prefix_append bytes more) hcut
        rw [List.append_assoc, List.append_cancel_left_eq] at hstream
        exact .inl ⟨frame, tail, rest, rfl, rfl, hstream, hframe.whole tail⟩
      · -- the cut falls inside it
        have hpart : bytes <+: frame :=
          List.prefix_of_prefix_length_le (List.prefix_append bytes more)
            (hstream ▸ List.prefix_append frame _) (by omega)
        have hne : bytes ≠ frame := fun heq => hcut (heq ▸ Nat.le_refl _)
        exact .inr ⟨hframe.unfinished bytes hpart hne, by simpa using hcut⟩

/-- Cutting a stream of frames anywhere, the scan of the first part finds the
frames that are complete there and stops inside the next one. -/
theorem scan_of_framed {frames : List (List α)} (hframes : ∀ frame ∈ frames, rule.Framed frame)
    {bytes more : List α} (hstream : bytes ++ more = frames.flatten) :
    ∃ pending, frames = (rule.scan bytes).1 ++ pending ∧
      (rule.scan bytes).2 ++ more = pending.flatten ∧
      ∀ frame ∈ pending.head?, (rule.scan bytes).2.length < frame.length := by
  induction frames generalizing bytes with
  | nil =>
      obtain ⟨rfl, rfl⟩ := List.append_eq_nil_iff.mp hstream
      exact ⟨[], by simp⟩
  | cons frame rest ih =>
      obtain ⟨_, tail, _, hcons, rfl, htail, haccept⟩ | ⟨hwait, hinside⟩ :=
        verdict_of_framed hframes hstream
      · obtain ⟨rfl, rfl⟩ := List.cons.inj hcons
        obtain ⟨pending, hpending, hmore, hlast⟩ :=
          ih (fun f hf => hframes f (List.mem_cons_of_mem _ hf)) htail
        rw [rule.scan_accept haccept, List.take_left, List.drop_left]
        exact ⟨pending, by rw [List.cons_append, ← hpending], hmore, hlast⟩
      · rw [rule.scan_wait hwait]
        exact ⟨frame :: rest, rfl, hstream, hinside⟩

/-- Inside a stream of frames no position is given up. -/
theorem not_skip_of_framed {frames : List (List α)} (hframes : ∀ frame ∈ frames, rule.Framed frame)
    {bytes more rest : List α} (hstream : bytes ++ more = frames.flatten)
    (hpasses : rule.Passes bytes rest) : rule.verdict rest ≠ .skip := by
  induction hpasses generalizing frames with
  | refl bytes =>
      -- the cut is behind a frame or inside one, and neither is given up
      rcases verdict_of_framed hframes hstream with ⟨_, _, _, _, _, _, haccept⟩ | ⟨hwait, _⟩
      · simp [haccept]
      · simp [hwait]
  | skip hverdict _ _ =>
      rcases verdict_of_framed hframes hstream with ⟨_, _, _, _, _, _, haccept⟩ | ⟨hwait, _⟩
      · simp [haccept] at hverdict
      · simp [hwait] at hverdict
  | accept hverdict _ ih =>
      -- what was taken is the first frame, and the rest is a stream again
      rcases verdict_of_framed hframes hstream with
        ⟨frame, tail, rest, rfl, rfl, htail, haccept⟩ | ⟨hwait, _⟩
      · obtain rfl := Verdict.accept.inj (haccept.symm.trans hverdict)
        rw [List.drop_left] at ih
        exact ih (fun f hf => hframes f (List.mem_cons_of_mem _ hf)) htail
      · simp [hwait] at hverdict

/-- A whole stream of frames is scanned into exactly these frames. -/
theorem scan_flatten {frames : List (List α)} (hframes : ∀ frame ∈ frames, rule.Framed frame) :
    rule.scan frames.flatten = (frames, []) := by
  induction frames with
  | nil => simp
  | cons frame rest ih =>
      have hframe := hframes frame List.mem_cons_self
      rw [List.flatten_cons, rule.scan_accept (hframe.whole _), List.take_left, List.drop_left,
        ih (fun f hf => hframes f (List.mem_cons_of_mem _ hf))]

end Rule

end Framing
