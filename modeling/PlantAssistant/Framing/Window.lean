import PlantAssistant.Framing.Scan

/-! # Windows of a fixed size

A pattern takes the next `size` elements when they match, and moves on by one
element when they do not. The scan finds the leftmost matches that do not
overlap, and keeps less than one window.
-/

namespace Framing

variable {α : Type*}

/-- A nonempty window size and a test on windows. -/
structure Pattern (α : Type*) where
  size : Nat
  size_pos : 0 < size
  isMatch : List α → Bool

namespace Pattern

variable (pattern : Pattern α)

def rule : Rule α where
  verdict bytes :=
    if bytes.length < pattern.size then .wait
    else if pattern.isMatch (bytes.take pattern.size) then .accept pattern.size
    else .skip
  verdict_nil := if_pos pattern.size_pos
  accept_pos {bytes size} hverdict := by
    split_ifs at hverdict
    exact Verdict.accept.inj hverdict ▸ pattern.size_pos
  accept_le {bytes size} hverdict := by
    split_ifs at hverdict with hshort
    exact Verdict.accept.inj hverdict ▸ Nat.le_of_not_lt hshort

theorem verdict_of_lt {bytes : List α} (hshort : bytes.length < pattern.size) :
    pattern.rule.verdict bytes = .wait :=
  if_pos hshort

theorem verdict_of_le {bytes : List α} (hlong : pattern.size ≤ bytes.length) :
    pattern.rule.verdict bytes =
      if pattern.isMatch (bytes.take pattern.size) then .accept pattern.size else .skip :=
  if_neg (Nat.not_lt_of_le hlong)

theorem verdict_eq_wait_iff {bytes : List α} :
    pattern.rule.verdict bytes = .wait ↔ bytes.length < pattern.size := by
  constructor
  · intro hwait
    by_contra hlong
    rw [pattern.verdict_of_le (Nat.le_of_not_lt hlong)] at hwait
    split at hwait <;> cases hwait
  · exact pattern.verdict_of_lt

theorem verdict_eq_skip_iff {bytes : List α} :
    pattern.rule.verdict bytes = .skip ↔
      pattern.size ≤ bytes.length ∧ ¬ pattern.isMatch (bytes.take pattern.size) := by
  by_cases hlong : pattern.size ≤ bytes.length
  · rw [pattern.verdict_of_le hlong]
    split <;> simp_all
  · rw [pattern.verdict_of_lt (Nat.lt_of_not_le hlong)]
    simp [hlong]

theorem verdict_eq_accept_iff {bytes : List α} {size : Nat} :
    pattern.rule.verdict bytes = .accept size ↔
      size = pattern.size ∧ pattern.size ≤ bytes.length ∧
        pattern.isMatch (bytes.take pattern.size) := by
  by_cases hlong : pattern.size ≤ bytes.length
  · rw [pattern.verdict_of_le hlong]
    split
    next hmatch =>
      rw [Verdict.accept.injEq]
      exact ⟨fun hsize => ⟨hsize.symm, hlong, hmatch⟩, fun hsize => hsize.1.symm⟩
    next hmatch => simp [hmatch]
  · rw [pattern.verdict_of_lt (Nat.lt_of_not_le hlong)]
    simp [hlong]

/-- A window that has arrived is not changed by what follows it. -/
theorem stable_rule : pattern.rule.Stable := by
  intro bytes more hdecided
  have hlong : pattern.size ≤ bytes.length := by
    rw [Ne, verdict_eq_wait_iff] at hdecided
    exact Nat.le_of_not_lt hdecided
  have hlonger : pattern.size ≤ (bytes ++ more).length := by
    rw [List.length_append]
    omega
  rw [pattern.verdict_of_le hlong, pattern.verdict_of_le hlonger,
    List.take_append_of_le_length hlong]

theorem length_residue_lt (bytes : List α) : (pattern.rule.scan bytes).2.length < pattern.size :=
  pattern.verdict_eq_wait_iff.mp (pattern.rule.scan_residue_wait bytes)

/-! ## Leftmost matches -/

def window (stream : List α) (position : Nat) : List α :=
  (stream.drop position).take pattern.size

/-- A whole window stands at the position and matches. -/
def MatchAt (stream : List α) (position : Nat) : Prop :=
  position + pattern.size ≤ stream.length ∧ pattern.isMatch (pattern.window stream position)

/-- The positions of the leftmost matches from `start` on, each search beginning
behind the match before it. -/
inductive Leftmost (stream : List α) : Nat → List Nat → Prop
  | done {start : Nat} :
      (∀ position, start ≤ position → ¬ pattern.MatchAt stream position) →
      Leftmost stream start []
  | next {start position : Nat} {positions : List Nat} :
      start ≤ position → pattern.MatchAt stream position →
      (∀ earlier, start ≤ earlier → earlier < position → ¬ pattern.MatchAt stream earlier) →
      Leftmost stream (position + pattern.size) positions →
      Leftmost stream start (position :: positions)

variable {pattern} {stream : List α}

/-- A stream has one such list of positions. -/
theorem Leftmost.unique {start : Nat} {first second : List Nat}
    (hfirst : pattern.Leftmost stream start first)
    (hsecond : pattern.Leftmost stream start second) : first = second := by
  induction hfirst generalizing second with
  | done hnone =>
      cases hsecond with
      | done => rfl
      | next hle hmatch => exact absurd hmatch (hnone _ hle)
  | @next start position positions hle hmatch hbefore _ ih =>
      cases hsecond with
      | done hnone => exact absurd hmatch (hnone _ hle)
      | @next _ other _ hle' hmatch' hbefore' hrest' =>
          have hposition : position = other := by
            rcases Nat.lt_trichotomy position other with hlt | heq | hgt
            · exact absurd hmatch (hbefore' _ hle hlt)
            · exact heq
            · exact absurd hmatch' (hbefore _ hle' hgt)
          subst hposition
          rw [ih hrest']

/-- A position without a match can be left out of the search. -/
theorem Leftmost.of_succ {start : Nat} {positions : List Nat}
    (hstart : ¬ pattern.MatchAt stream start)
    (hleftmost : pattern.Leftmost stream (start + 1) positions) :
    pattern.Leftmost stream start positions := by
  have hextend : ∀ position, start ≤ position →
      (start + 1 ≤ position → ¬ pattern.MatchAt stream position) →
      ¬ pattern.MatchAt stream position := by
    intro position hle hlater
    rcases Nat.eq_or_lt_of_le hle with rfl | hlt
    · exact hstart
    · exact hlater hlt
  cases hleftmost with
  | done hnone => exact .done fun position hle => hextend position hle (hnone position)
  | next hle hmatch hbefore hrest =>
      refine .next (by omega) hmatch ?_ hrest
      intro earlier hearlier hlt
      exact hextend earlier hearlier fun hsucc => hbefore earlier hsucc hlt

variable (pattern)

/-- The scan finds the leftmost matches, in order. -/
theorem scan_leftmost (stream : List α) (start : Nat) :
    ∃ positions, pattern.Leftmost stream start positions ∧
      (pattern.rule.scan (stream.drop start)).1 = positions.map (pattern.window stream) := by
  induction hbytes : stream.drop start using pattern.rule.scan_induction generalizing start with
  | wait bytes hverdict =>
      subst hbytes
      rw [pattern.rule.scan_wait hverdict]
      refine ⟨[], .done ?_, rfl⟩
      -- less than one window is left
      rintro position hle ⟨hfits, -⟩
      rw [verdict_eq_wait_iff, List.length_drop] at hverdict
      omega
  | skip bytes hverdict ih =>
      subst hbytes
      obtain ⟨positions, hleftmost, hwindows⟩ := ih (start + 1) (List.tail_drop).symm
      rw [pattern.rule.scan_skip hverdict]
      refine ⟨positions, hleftmost.of_succ ?_, hwindows⟩
      rintro ⟨hfits, hmatch⟩
      have hlong : pattern.size ≤ (stream.drop start).length := by
        rw [List.length_drop]
        omega
      rw [pattern.verdict_of_le hlong] at hverdict
      rw [window] at hmatch
      simp [hmatch] at hverdict
  | accept bytes size hverdict ih =>
      subst hbytes
      have hlong : pattern.size ≤ (stream.drop start).length := by
        by_contra hshort
        simp [pattern.verdict_of_lt (Nat.lt_of_not_le hshort)] at hverdict
      rw [pattern.verdict_of_le hlong] at hverdict
      split at hverdict
      next hmatch =>
        obtain rfl := Verdict.accept.inj hverdict
        obtain ⟨positions, hleftmost, hwindows⟩ :=
          ih (start + pattern.size) (List.drop_drop).symm
        rw [pattern.rule.scan_accept (by rw [pattern.verdict_of_le hlong, if_pos hmatch]),
          hwindows]
        refine ⟨start :: positions, .next (Nat.le_refl _) ⟨?_, hmatch⟩ ?_ hleftmost, rfl⟩
        · have hpos := pattern.size_pos
          rw [List.length_drop] at hlong
          omega
        · intro earlier hle hlt
          omega
      next => cases hverdict

end Pattern

end Framing
