import PlantAssistant.Framing.Scan

/-! # Coming into a stream between two frames

A receiver that starts in the middle of a frame may take what is left of it for
something else. It has settled where a scan comes out, whatever it has found by
then.
-/

namespace Framing.Rule

variable {α : Type*} {rule : Rule α}

/-- However the stream goes on behind `bytes`, a scan finds at most `n` frames
before that, and from then on what it finds there. -/
def Settles (rule : Rule α) (n : ℕ) (bytes : List α) : Prop :=
  ∃ frames : List (List α), frames.length ≤ n ∧
    ∀ more, (rule.scan (bytes ++ more)).1 = frames ++ (rule.scan more).1

theorem settles_nil (n : ℕ) : rule.Settles n [] :=
  ⟨[], Nat.zero_le n, fun _ => rfl⟩

theorem Settles.mono {m n : ℕ} {bytes : List α} (hsettles : rule.Settles m bytes) (hle : m ≤ n) :
    rule.Settles n bytes := by
  obtain ⟨frames, hfew, hscan⟩ := hsettles
  exact ⟨frames, Nat.le_trans hfew hle, hscan⟩

theorem Settles.append {m n : ℕ} {bytes bytes' : List α} (hsettles : rule.Settles m bytes)
    (hsettles' : rule.Settles n bytes') : rule.Settles (m + n) (bytes ++ bytes') := by
  obtain ⟨frames, hfew, hscan⟩ := hsettles
  obtain ⟨frames', hfew', hscan'⟩ := hsettles'
  refine ⟨frames ++ frames', by rw [List.length_append]; omega, fun more => ?_⟩
  rw [List.append_assoc, hscan, hscan', List.append_assoc]

/-- A position that is given up whatever comes. -/
theorem Settles.skip (hstable : rule.Stable) {n : ℕ} {byte : α} {bytes : List α}
    (hsettles : rule.Settles n bytes) (hverdict : rule.verdict (byte :: bytes) = .skip) :
    rule.Settles n (byte :: bytes) := by
  obtain ⟨frames, hfew, hscan⟩ := hsettles
  refine ⟨frames, hfew, fun more => ?_⟩
  have hskip := hstable (byte :: bytes) more (by rw [hverdict]; exact Verdict.noConfusion)
  rw [rule.scan_skip (hskip.trans hverdict)]
  exact hscan more

/-- A frame that is taken whatever comes. -/
theorem Settles.accept (hstable : rule.Stable) {n : ℕ} {frame bytes : List α}
    (hsettles : rule.Settles n bytes)
    (hverdict : rule.verdict (frame ++ bytes) = .accept frame.length) :
    rule.Settles (n + 1) (frame ++ bytes) := by
  obtain ⟨frames, hfew, hscan⟩ := hsettles
  refine ⟨frame :: frames, Nat.succ_le_succ hfew, fun more => ?_⟩
  have haccept := hstable (frame ++ bytes) more (by rw [hverdict]; exact Verdict.noConfusion)
  rw [rule.scan_accept (haccept.trans hverdict), List.append_assoc, List.take_left,
    List.drop_left, hscan]
  rfl

theorem Framed.settles {frame : List α} (hframe : rule.Framed frame) : rule.Settles 1 frame := by
  refine ⟨[frame], Nat.le_refl 1, fun more => ?_⟩
  rw [rule.scan_accept (hframe.whole more), List.take_left, List.drop_left]
  rfl

/-- What is found before the receiver has settled is found in front of it. -/
theorem Settles.length_le (hstable : rule.Stable) {n : ℕ} {bytes part : List α}
    (hsettles : rule.Settles n bytes) (hpart : part <+: bytes) :
    (rule.scan part).1.length ≤ n := by
  obtain ⟨frames, hfew, hscan⟩ := hsettles
  obtain ⟨more, rfl⟩ := hpart
  have hwhole := hscan []
  rw [List.append_nil, rule.scan_nil, List.append_nil, rule.scan_append hstable] at hwhole
  have hlength := congrArg List.length hwhole
  rw [List.length_append] at hlength
  omega

/-- A receiver that settles in front of a stream of frames finds all of them that
are complete. -/
theorem Settles.finds {n : ℕ} {cut bytes more : List α} {frames : List (List α)}
    (hsettles : rule.Settles n cut) (hframes : ∀ frame ∈ frames, rule.Framed frame)
    (hstream : bytes ++ more = frames.flatten) :
    ∃ strange found pending, frames = found ++ pending ∧ strange.length ≤ n ∧
      (rule.scan (cut ++ bytes)).1 = strange ++ found ∧
      ∀ frame ∈ pending.head?, bytes.length < (found.flatten ++ frame).length := by
  obtain ⟨strange, hfew, hscan⟩ := hsettles
  obtain ⟨pending, hfound, hrest, hinside⟩ := scan_of_framed hframes hstream
  refine ⟨strange, _, pending, hfound, hfew, hscan bytes, fun frame hhead => ?_⟩
  have hlength := congrArg List.length hstream
  have hlength' := congrArg List.length hrest
  rw [hfound, List.flatten_append, List.length_append, List.length_append] at hlength
  rw [List.length_append] at hlength' ⊢
  have hshort := hinside frame hhead
  omega

end Framing.Rule
