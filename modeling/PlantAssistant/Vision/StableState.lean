import PlantAssistant.Vision.LeafState

/-! # Isolated misdetections

Over a run the vote sees the last five states. As long as no five of them in a
row hold two misdetections, every vote is for `STATE_NORMAL`, and so is every
report once three votes were counted.
-/

namespace PlantAssistant.Vision

open Transition

/-! ## The window over a run -/

/-- The states `run_plant_mode` votes over after the given ones. -/
def lastStates (states : List LeafState) : List LeafState :=
  states.drop (states.length - voteWindow)

theorem pushState_lastStates (states : List LeafState) (state : LeafState) :
    pushState (lastStates states) state = lastStates (states ++ [state]) := by
  unfold pushState lastStates
  simp only [List.length_append, List.length_drop, List.length_singleton, voteWindow]
  split
  next hfull =>
    rw [← List.drop_append_of_le_length (by omega), List.drop_drop]
    congr 1
    omega
  next hroom =>
    rw [← List.drop_append_of_le_length (by omega)]
    congr 1
    omega

@[simp] theorem frame_stateHistory (loop : PlantLoop) (frame : Frame) :
    (loop.frame frame).1.stateHistory = pushState loop.stateHistory frame.state := by
  unfold PlantLoop.frame
  dsimp only
  split
  · split <;> rfl
  · rfl

theorem run_stateHistory (frames : List Frame) :
    (plantModeSystem.run frames).stateHistory = lastStates (frames.map Frame.state) := by
  induction frames using List.reverseRecOn with
  | nil => rfl
  | append_singleton frames frame ih =>
      rw [System.run_concat, plantModeSystem_step, frame_stateHistory, ih, pushState_lastStates,
        List.map_append]
      rfl

/-! ## Isolated misdetections -/

/-- The first window is clean, and later ones hold one misdetection at most. -/
structure Isolated (states : List LeafState) : Prop where
  start : ∀ state ∈ states.take 5, state = .normal
  window : ∀ first, first + 5 ≤ states.length →
    misdetections ((states.drop first).take 5) ≤ 1

theorem Isolated.of_append {states rest : List LeafState} (hisolated : Isolated (states ++ rest)) :
    Isolated states where
  start state hstate := by
    apply hisolated.start state
    rw [List.take_append]
    exact List.mem_append_left _ hstate
  window first hfirst := by
    have hwindow := hisolated.window first (by rw [List.length_append]; omega)
    rwa [List.drop_append_of_le_length (by omega),
      List.take_append_of_le_length (by rw [List.length_drop]; omega)] at hwindow

theorem voteState_lastStates {states : List LeafState} (hisolated : Isolated states)
    (hne : states ≠ []) : voteState (lastStates states) = .normal := by
  have hlength := List.length_pos_iff.mpr hne
  have hwindow : (lastStates states).length = min states.length 5 := by
    rw [lastStates, List.length_drop, voteWindow]
    omega
  apply voteState_normal
  · rw [← List.length_pos_iff]
    omega
  · by_cases hfull : 5 ≤ states.length
    · have hlast := hisolated.window (states.length - 5) (by omega)
      rwa [List.take_of_length_le (by rw [List.length_drop]; omega)] at hlast
    · have hclean : misdetections (lastStates states) = 0 := by
        rw [misdetections_eq_zero]
        intro state hstate
        apply hisolated.start state
        rw [List.take_of_length_le (by omega)]
        exact List.mem_of_mem_drop hstate
      omega
  · intro hshort
    rw [voteWindow] at hshort
    rw [misdetections_eq_zero]
    intro state hstate
    apply hisolated.start state
    rw [List.take_of_length_le (by omega)]
    exact List.mem_of_mem_drop hstate

/-- What every frame so far voted for, and for how long. -/
structure Settled (frames : ℕ) (loop : PlantLoop) : Prop where
  pending : 0 < frames → loop.pendingState = some .normal
  count : loop.pendingCount = frames
  fresh : frames = 0 → loop.pendingState = Option.none
  stable : stableFrames ≤ frames → loop.stableState = .normal

/-- A frame that votes for `STATE_NORMAL` again. -/
theorem Settled.vote {frames : ℕ} {loop : PlantLoop} (hsettled : Settled frames loop)
    {frame : Frame} (hvote : voteState (pushState loop.stateHistory frame.state) = .normal) :
    Settled (frames + 1) (loop.vote frame) := by
  have hcount := hsettled.count
  rcases Nat.eq_zero_or_pos frames with hzero | hpos
  · have hfresh := hsettled.fresh hzero
    subst hzero
    simp only [PlantLoop.vote, updateStableState, hvote, hfresh]
    exact ⟨fun _ => rfl, rfl, nofun, fun hstable => absurd hstable (by decide)⟩
  · have hpending := hsettled.pending hpos
    simp only [PlantLoop.vote, updateStableState, hvote, hpending, if_true, hcount]
    exact ⟨fun _ => rfl, rfl, nofun, fun hstable => if_pos hstable⟩

/-- Sending changes none of the variables of the vote. -/
theorem Settled.frame {frames : ℕ} {loop : PlantLoop} (hsettled : Settled frames loop)
    {frame : Frame} (hvote : voteState (pushState loop.stateHistory frame.state) = .normal) :
    Settled (frames + 1) (loop.frame frame).1 := by
  obtain ⟨hpending, hcount, hfresh, hstable⟩ := hsettled.vote hvote
  unfold PlantLoop.frame
  dsimp only
  split
  · split
    · exact ⟨hpending, hcount, hfresh, hstable⟩
    · exact ⟨hpending, hcount, hfresh, hstable⟩
  · exact ⟨hpending, hcount, hfresh, hstable⟩

theorem settled_run {frames : List Frame} (hisolated : Isolated (frames.map Frame.state)) :
    Settled frames.length (plantModeSystem.run frames) := by
  induction frames using List.reverseRecOn with
  | nil => exact ⟨fun h => absurd h (lt_irrefl 0), rfl, fun _ => rfl, nofun⟩
  | append_singleton frames frame ih =>
      have hstates : (frames ++ [frame]).map Frame.state =
          frames.map Frame.state ++ [frame.state] := List.map_append
      rw [hstates] at hisolated
      rw [System.run_concat, List.length_append]
      apply (ih hisolated.of_append).frame
      rw [run_stateHistory, pushState_lastStates]
      exact voteState_lastStates hisolated (by simp)

/-- What is sent in a frame is the stable state. -/
theorem sent_eq_stableState {loop : PlantLoop} {frame : Frame} {state : LeafState}
    (hsent : (loop.frame frame).2 = some state) : state = (loop.frame frame).1.stableState := by
  unfold PlantLoop.frame at *
  dsimp only at *
  split at hsent
  next hdue =>
    rw [if_pos hdue]
    cases hsent
    split <;> rfl
  next => cases hsent

theorem isolated_misdetections_not_sent (before after : List Frame) (frame : Frame)
    (hisolated : Isolated ((before ++ frame :: after).map Frame.state))
    (hthird : 2 ≤ before.length) :
    ((plantModeSystem.run before).frame frame).1.stableState = .normal ∧
      ∀ state, ((plantModeSystem.run before).frame frame).2 = some state → state = .normal := by
  have hprefix : Isolated ((before ++ [frame]).map Frame.state) := by
    rw [List.append_cons, List.map_append] at hisolated
    exact hisolated.of_append
  have hsettled := settled_run hprefix
  rw [System.run_concat, List.length_append] at hsettled
  have hstable : ((plantModeSystem.run before).frame frame).1.stableState = .normal :=
    hsettled.stable (Nat.succ_le_succ hthird)
  refine ⟨hstable, ?_⟩
  intro state hsent
  rw [sent_eq_stableState hsent, hstable]

theorem isolated_misdetections_not_sent_rot :
    let frames := [0, 1, 2, 3, 4].map fun ms => Frame.mk (some .normal) ms true
    Isolated ((frames ++ Frame.mk (some .rot) 5 true :: []).map Frame.state) ∧
      ((plantModeSystem.run frames).frame ⟨some .rot, 5, true⟩).1.stableState = .normal := by
  have hisolated : Isolated (List.replicate 5 LeafState.normal ++ [.rot]) := by
    refine ⟨by decide, ?_⟩
    intro first hfirst
    have hle : first ≤ 1 := by simpa using hfirst
    obtain rfl | rfl : first = 0 ∨ first = 1 := by omega
    · decide
    · decide
  intro frames
  have hnot := isolated_misdetections_not_sent frames [] ⟨some .rot, 5, true⟩ hisolated (by decide)
  exact ⟨hisolated, hnot.1⟩

end PlantAssistant.Vision
