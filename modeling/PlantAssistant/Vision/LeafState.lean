import Mathlib.Data.List.MinMax
import Mathlib.Data.Rat.Defs
import Mathlib.Algebra.Order.Ring.Rat
import Mathlib.Tactic.Linarith
import Mathlib.Tactic.Ring
import Mathlib.Tactic.NormNum
import PlantAssistant.Transition.Run

/-! # The state of the leaves, frame by frame

`run_plant_mode` keeps the states it detected in the last frames, votes over
them, and reports a state once it won the vote in enough frames in a row.
-/

namespace PlantAssistant.Vision

open Transition

/-- `STATE_NORMAL`, `STATE_YELLOW`, `STATE_ROT` and `STATE_NONE`. -/
inductive LeafState where
  | normal
  | yellow
  | rot
  | none
deriving DecidableEq, Repr

def LeafState.code : LeafState → ℤ
  | .normal => 0
  | .yellow => 1
  | .rot => 2
  | .none => 3

def stableFrames : ℕ := 3
def serialResendMs : ℤ := 200
def voteWindow : ℕ := 5

/-! ## The vote -/

abbrev ScoreMap := LeafState → ℚ

/-- The loop over the history: a state weighs as much as its position. -/
def countScores (history : List LeafState) : ScoreMap :=
  history.zipIdx.foldl (fun scoreMap entry =>
    Function.update scoreMap entry.1 (scoreMap entry.1 + (entry.2 + 1 : ℕ))) fun _ => 0

/-- The bonus of the abnormal states. -/
def addBonus (scoreMap : ScoreMap) : ScoreMap :=
  if 0 < scoreMap .rot then Function.update scoreMap .rot (scoreMap .rot + 3 / 2)
  else if 0 < scoreMap .yellow then Function.update scoreMap .yellow (scoreMap .yellow + 1)
  else scoreMap

/-- The keys of `score_map`, in the order they are inserted in. -/
def scoreKeys : List LeafState := [.normal, .yellow, .rot, .none]

/-- `vote_state`. Python's `max` returns the first of several largest keys. -/
def voteState (history : List LeafState) : LeafState :=
  if history = [] then .none
  else (scoreKeys.argmax (addBonus (countScores history))).getD .none

/-- `update_stable_state`: the pending state, its count and the stable state. -/
def updateStableState (currentState : LeafState) (pendingState : Option LeafState)
    (pendingCount : ℕ) (stableState : LeafState) : Option LeafState × ℕ × LeafState :=
  let (pendingState, pendingCount) :=
    if some currentState = pendingState then (pendingState, pendingCount + 1)
    else (some currentState, 1)
  (pendingState, pendingCount,
    if stableFrames ≤ pendingCount then currentState else stableState)

/-! ## The loop -/

/-- The variables of `run_plant_mode`. -/
structure PlantLoop where
  pendingState : Option LeafState
  pendingCount : ℕ
  stableState : LeafState
  lastSentState : Option LeafState
  lastSendMs : ℤ
  stateHistory : List LeafState
deriving DecidableEq, Repr

/-- A frame: the state `summarize_objects` returns for it, the clock when it is
reported, and whether the port takes the packet. -/
structure Frame where
  current : Option LeafState
  nowMs : ℤ
  sendOk : Bool
deriving DecidableEq, Repr

/-- The state of a frame, a frame without objects included. -/
def Frame.state (frame : Frame) : LeafState := frame.current.getD .none

def PlantLoop.init : PlantLoop where
  pendingState := Option.none
  pendingCount := 0
  stableState := .none
  lastSentState := Option.none
  lastSendMs := 0
  stateHistory := []

/-- `state_history.append(current_state)`, and `pop(0)` from a full window. -/
def pushState (history : List LeafState) (state : LeafState) : List LeafState :=
  let history := history ++ [state]
  if voteWindow < history.length then history.drop 1 else history

/-- The variables after the vote over a frame. -/
def PlantLoop.vote (loop : PlantLoop) (frame : Frame) : PlantLoop :=
  let history := pushState loop.stateHistory frame.state
  let (pendingState, pendingCount, stableState) :=
    updateStableState (voteState history) loop.pendingState loop.pendingCount loop.stableState
  { loop with
    pendingState := pendingState
    pendingCount := pendingCount
    stableState := stableState
    stateHistory := history }

/-- One frame: the variables after it, and the state that is sent, if any. -/
def PlantLoop.frame (loop : PlantLoop) (frame : Frame) : PlantLoop × Option LeafState :=
  let loop := loop.vote frame
  if some loop.stableState ≠ loop.lastSentState ∨
      serialResendMs ≤ frame.nowMs - loop.lastSendMs then
    let kept := if frame.sendOk then
        { loop with lastSentState := some loop.stableState, lastSendMs := frame.nowMs }
      else loop
    (kept, some loop.stableState)
  else (loop, Option.none)

def plantModeSystem : System PlantLoop Frame where
  init := PlantLoop.init
  step loop frame := (loop.frame frame).1

theorem plantModeSystem_step (loop : PlantLoop) (frame : Frame) :
    plantModeSystem.step loop frame = (loop.frame frame).1 := rfl

/-! ## What a window weighs -/

theorem countScores_append (history : List LeafState) (state : LeafState) :
    countScores (history ++ [state]) =
      Function.update (countScores history) state
        (countScores history state + (history.length + 1 : ℕ)) := by
  unfold countScores
  rw [List.zipIdx_append, List.foldl_append, Nat.zero_add]
  rfl

theorem countScores_append_self (history : List LeafState) (state : LeafState) :
    countScores (history ++ [state]) state =
      countScores history state + (history.length + 1 : ℕ) := by
  rw [countScores_append, Function.update_self]

theorem countScores_append_of_ne (history : List LeafState) {state other : LeafState}
    (hne : other ≠ state) :
    countScores (history ++ [state]) other = countScores history other := by
  rw [countScores_append, Function.update_of_ne hne]

theorem countScores_nonneg (history : List LeafState) (state : LeafState) :
    0 ≤ countScores history state := by
  induction history using List.reverseRecOn with
  | nil => exact le_refl _
  | append_singleton history last ih =>
      by_cases hlast : state = last
      · subst hlast
        rw [countScores_append_self]
        exact add_nonneg ih (Nat.cast_nonneg _)
      · rw [countScores_append_of_ne history hlast]
        exact ih

/-- The share of the scores that is not `STATE_NORMAL`'s. -/
def abnormalScore (history : List LeafState) : ℚ :=
  countScores history .yellow + countScores history .rot + countScores history .none

theorem abnormalScore_append_normal (history : List LeafState) :
    abnormalScore (history ++ [.normal]) = abnormalScore history := by
  unfold abnormalScore
  rw [countScores_append_of_ne _ (by decide), countScores_append_of_ne _ (by decide),
    countScores_append_of_ne _ (by decide)]

theorem abnormalScore_append_abnormal (history : List LeafState) {state : LeafState}
    (hstate : state ≠ .normal) :
    abnormalScore (history ++ [state]) = abnormalScore history + (history.length + 1 : ℕ) := by
  unfold abnormalScore
  cases state with
  | normal => exact absurd rfl hstate
  | yellow =>
      rw [countScores_append_self, countScores_append_of_ne _ (by decide),
        countScores_append_of_ne _ (by decide)]
      ring
  | rot =>
      rw [countScores_append_self, countScores_append_of_ne _ (by decide),
        countScores_append_of_ne _ (by decide)]
      ring
  | none =>
      rw [countScores_append_self, countScores_append_of_ne _ (by decide),
        countScores_append_of_ne _ (by decide)]
      ring

/-- All scores together are the sum of the positions. -/
theorem normal_add_abnormalScore (history : List LeafState) :
    countScores history .normal + abnormalScore history =
      history.length * (history.length + 1) / 2 := by
  induction history using List.reverseRecOn with
  | nil => simp [countScores, abnormalScore]
  | append_singleton history last ih =>
      by_cases hlast : last = .normal
      · subst hlast
        rw [countScores_append_self, abnormalScore_append_normal, List.length_append]
        push_cast [List.length_singleton]
        linarith
      · rw [countScores_append_of_ne _ (Ne.symm hlast), abnormalScore_append_abnormal _ hlast,
          List.length_append]
        push_cast [List.length_singleton]
        linarith

def misdetections (history : List LeafState) : ℕ := history.countP (· ≠ .normal)

theorem misdetections_append (history rest : List LeafState) :
    misdetections (history ++ rest) = misdetections history + misdetections rest :=
  List.countP_append

theorem misdetections_eq_zero {history : List LeafState} :
    misdetections history = 0 ↔ ∀ state ∈ history, state = .normal := by
  simp [misdetections, List.countP_eq_zero]

theorem abnormalScore_of_normal {history : List LeafState} (hnormal : misdetections history = 0) :
    abnormalScore history = 0 := by
  induction history using List.reverseRecOn with
  | nil => simp [countScores, abnormalScore]
  | append_singleton history last ih =>
      rw [misdetections_append] at hnormal
      have hlast : misdetections [last] = 0 := by omega
      obtain rfl : last = .normal := misdetections_eq_zero.mp hlast last (List.mem_singleton_self _)
      rw [abnormalScore_append_normal]
      exact ih (by omega)

/-- One misdetection weighs no more than the last position. -/
theorem abnormalScore_le {history : List LeafState} (hisolated : misdetections history ≤ 1) :
    abnormalScore history ≤ history.length := by
  induction history using List.reverseRecOn with
  | nil => simp [countScores, abnormalScore]
  | append_singleton history last ih =>
      rw [misdetections_append] at hisolated
      rw [List.length_append]
      push_cast [List.length_singleton]
      by_cases hlast : last = .normal
      · subst hlast
        rw [abnormalScore_append_normal]
        have hbefore := ih (by omega)
        linarith
      · have hone : misdetections [last] = 1 := by simp [misdetections, hlast]
        rw [abnormalScore_append_abnormal _ hlast, abnormalScore_of_normal (by omega)]
        push_cast
        linarith

/-! ## Who wins the vote -/

theorem addBonus_normal (scoreMap : ScoreMap) : addBonus scoreMap .normal = scoreMap .normal := by
  unfold addBonus
  split
  · rfl
  · split <;> rfl

/-- The bonus is at most one and a half, and only for a state with a score. -/
theorem addBonus_le (scoreMap : ScoreMap) (state : LeafState) :
    addBonus scoreMap state ≤ scoreMap state + 3 / 2 ∧
      (scoreMap state ≤ 0 → addBonus scoreMap state ≤ scoreMap state) := by
  unfold addBonus
  split
  next hrot =>
    by_cases hstate : state = .rot
    · subst hstate
      rw [Function.update_self]
      exact ⟨le_refl _, fun hle => absurd hrot (not_lt.mpr hle)⟩
    · rw [Function.update_of_ne hstate]
      exact ⟨by linarith, fun _ => le_refl _⟩
  next =>
    split
    next hyellow =>
      by_cases hstate : state = .yellow
      · subst hstate
        rw [Function.update_self]
        exact ⟨by linarith, fun hle => absurd hyellow (not_lt.mpr hle)⟩
      · rw [Function.update_of_ne hstate]
        exact ⟨by linarith, fun _ => le_refl _⟩
    next => exact ⟨by linarith, fun _ => le_refl _⟩

theorem voteState_of_lt {history : List LeafState} (hne : history ≠ [])
    (hwins : ∀ state, state ≠ .normal →
      addBonus (countScores history) state < addBonus (countScores history) .normal) :
    voteState history = .normal := by
  unfold voteState
  rw [if_neg hne]
  cases hwinner : scoreKeys.argmax (addBonus (countScores history)) with
  | none => exact absurd (List.argmax_eq_none.mp hwinner) (by decide)
  | some winner =>
      have hbest := List.le_of_mem_argmax (by decide : LeafState.normal ∈ scoreKeys) hwinner
      by_contra hwinner
      exact absurd hbest (not_le.mpr (hwins winner hwinner))

/-- A full window with a single misdetection votes for `STATE_NORMAL`, and so
does any window without one. -/
theorem voteState_normal {history : List LeafState} (hne : history ≠ [])
    (hisolated : misdetections history ≤ 1)
    (hfull : history.length < voteWindow → misdetections history = 0) :
    voteState history = .normal := by
  apply voteState_of_lt hne
  intro state hstate
  rw [addBonus_normal]
  have htotal := normal_add_abnormalScore history
  have hshare : countScores history state ≤ abnormalScore history := by
    have hyellow := countScores_nonneg history .yellow
    have hrot := countScores_nonneg history .rot
    have hnone := countScores_nonneg history .none
    unfold abnormalScore
    cases state with
    | normal => exact absurd rfl hstate
    | yellow => linarith
    | rot => linarith
    | none => linarith
  obtain ⟨hbonus, hunscored⟩ := addBonus_le (countScores history) state
  have hlength : (1 : ℚ) ≤ history.length := by
    exact_mod_cast List.length_pos_iff.mpr hne
  by_cases hclean : misdetections history = 0
  · rw [abnormalScore_of_normal hclean] at htotal hshare
    have hzero := hunscored hshare
    have hscored : (1 : ℚ) ≤ history.length * (history.length + 1) / 2 := by nlinarith
    linarith
  · have hfive : (5 : ℚ) ≤ history.length := by
      have hwindow : voteWindow ≤ history.length := not_lt.mp fun hlt => hclean (hfull hlt)
      exact_mod_cast hwindow
    have hweight := abnormalScore_le hisolated
    -- from five frames on no single one weighs more than a third of them all
    have hgrows : (3 : ℚ) * history.length ≤ history.length * (history.length + 1) / 2 := by
      nlinarith
    linarith

end PlantAssistant.Vision
