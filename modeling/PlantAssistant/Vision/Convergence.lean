import PlantAssistant.Vision.Script
import PlantAssistant.Vision.StableState

/-! # How fast a leaf state is reported

Two frames in a row decide the vote, whatever the window held before, and three
votes in a row the stable state. So the fourth frame in a row that shows a state
reports it, if it was not reported already.
-/

namespace PlantAssistant.Vision

open Transition

/-! ## The vote -/

theorem countScores_le (history : List LeafState) (state : LeafState) :
    countScores history state ≤ history.length * (history.length + 1) / 2 := by
  induction history using List.reverseRecOn with
  | nil => simp [countScores]
  | append_singleton history last ih =>
      rw [List.length_append, List.length_singleton]
      push_cast
      by_cases hlast : state = last
      · subst hlast
        rw [countScores_append_self]
        push_cast
        linarith
      · rw [countScores_append_of_ne history hlast]
        have hlength : (0 : ℚ) ≤ history.length := Nat.cast_nonneg _
        linarith

theorem le_addBonus (scoreMap : ScoreMap) (state : LeafState) :
    scoreMap state ≤ addBonus scoreMap state := by
  unfold addBonus
  split
  · by_cases hstate : state = .rot
    · subst hstate
      rw [Function.update_self]
      linarith
    · rw [Function.update_of_ne hstate]
  · split
    · by_cases hstate : state = .yellow
      · subst hstate
        rw [Function.update_self]
        linarith
      · rw [Function.update_of_ne hstate]
    · exact le_refl _

theorem voteState_eq_of_lt {history : List LeafState} (hne : history ≠ []) {winner : LeafState}
    (hwins : ∀ state, state ≠ winner →
      addBonus (countScores history) state < addBonus (countScores history) winner) :
    voteState history = winner := by
  unfold voteState
  rw [if_neg hne]
  cases hfirst : scoreKeys.argmax (addBonus (countScores history)) with
  | none => exact absurd (List.argmax_eq_none.mp hfirst) (by decide)
  | some first =>
      have hkey : winner ∈ scoreKeys := by cases winner <;> decide
      have hbest := List.le_of_mem_argmax hkey hfirst
      by_contra hother
      exact absurd hbest (not_le.mpr (hwins first hother))

/-- The last two of at most five states, if they agree, win the vote. -/
theorem voteState_twice {history : List LeafState} (hlength : history.length ≤ 3)
    (state : LeafState) : voteState (history ++ [state] ++ [state]) = state := by
  apply voteState_eq_of_lt (by simp)
  intro other hother
  have hscore := countScores_nonneg history state
  have hlast : countScores (history ++ [state] ++ [state]) state =
      countScores history state + (2 * history.length + 3) := by
    rw [countScores_append_self, countScores_append_self, List.length_append,
      List.length_singleton]
    push_cast
    ring
  have hrest : countScores (history ++ [state] ++ [state]) other ≤
      history.length * (history.length + 1) / 2 := by
    rw [countScores_append_of_ne _ hother, countScores_append_of_ne _ hother]
    exact countScores_le history other
  have hbonus := (addBonus_le (countScores (history ++ [state] ++ [state])) other).1
  have hwinner := le_addBonus (countScores (history ++ [state] ++ [state])) state
  have hshort : (history.length : ℚ) ≤ 3 := by exact_mod_cast hlength
  have hpos : (0 : ℚ) ≤ history.length := Nat.cast_nonneg _
  have hweight : (history.length : ℚ) * (history.length + 1) / 2 + 3 / 2 <
      2 * history.length + 3 := by nlinarith
  linarith

/-- With two equal states at the end of a run, its window votes for them. -/
theorem voteState_lastStates_twice (states : List LeafState) (state : LeafState) :
    voteState (lastStates (states ++ [state] ++ [state])) = state := by
  have hwindow : lastStates (states ++ [state] ++ [state]) =
      states.drop (states.length + 2 - 5) ++ [state] ++ [state] := by
    unfold lastStates voteWindow
    rw [List.length_append, List.length_append, List.length_singleton,
      List.drop_append_of_le_length (by simp; omega), List.drop_append_of_le_length (by omega)]
  rw [hwindow]
  apply voteState_twice
  rw [List.length_drop]
  omega

/-! ## Votes in a row -/

/-- The last `votes` votes, if not more, were for `state`. -/
structure Voted (state : LeafState) (votes : ℕ) (loop : PlantLoop) : Prop where
  pending : loop.pendingState = some state
  count : votes ≤ loop.pendingCount
  stable : stableFrames ≤ votes → loop.stableState = state

theorem PlantLoop.frame_vote (loop : PlantLoop) (frame : Frame) :
    (loop.frame frame).1.pendingState = (loop.vote frame).pendingState ∧
      (loop.frame frame).1.pendingCount = (loop.vote frame).pendingCount ∧
      (loop.frame frame).1.stableState = (loop.vote frame).stableState := by
  unfold PlantLoop.frame
  dsimp only
  split
  · split <;> exact ⟨rfl, rfl, rfl⟩
  · exact ⟨rfl, rfl, rfl⟩

section Vote

variable {state : LeafState} {loop : PlantLoop} {frame : Frame}

theorem Voted.first (hvote : voteState (pushState loop.stateHistory frame.state) = state) :
    Voted state 1 (loop.frame frame).1 := by
  obtain ⟨hpending, hcount, hstable⟩ := loop.frame_vote frame
  by_cases hsame : some state = loop.pendingState
  · refine ⟨?_, ?_, nofun⟩
    · rw [hpending, hsame]
      simp [PlantLoop.vote, updateStableState, hvote, hsame]
    · rw [hcount]
      simp [PlantLoop.vote, updateStableState, hvote, hsame]
  · refine ⟨?_, ?_, nofun⟩
    · rw [hpending]
      simp [PlantLoop.vote, updateStableState, hvote, hsame]
    · rw [hcount]
      simp [PlantLoop.vote, updateStableState, hvote, hsame]

theorem Voted.next {votes : ℕ} (hvoted : Voted state votes loop)
    (hvote : voteState (pushState loop.stateHistory frame.state) = state) :
    Voted state (votes + 1) (loop.frame frame).1 := by
  obtain ⟨hpending, hcount, hstable⟩ := loop.frame_vote frame
  have hsame : some state = loop.pendingState := hvoted.pending.symm
  have hmore := hvoted.count
  refine ⟨?_, ?_, fun hvotes => ?_⟩
  · rw [hpending]
    simp [PlantLoop.vote, updateStableState, hvote, ← hsame]
  · rw [hcount]
    simpa [PlantLoop.vote, updateStableState, hvote, ← hsame] using hmore
  · rw [hstable]
    have henough : stableFrames ≤ loop.pendingCount + 1 := by omega
    simp [PlantLoop.vote, updateStableState, hvote, ← hsame, henough]

end Vote

/-- After frames in a row that show a state, all votes but the first were for it. -/
theorem voted_run (before later : List Frame) {state : LeafState}
    (hsame : ∀ frame ∈ later, frame.state = state) (hlength : 2 ≤ later.length) :
    Voted state (later.length - 1) (plantModeSystem.run (before ++ later)) := by
  induction later using List.reverseRecOn with
  | nil => exact absurd hlength (by decide)
  | append_singleton later frame ih =>
      rw [List.length_append, List.length_singleton] at hlength
      have hframe : frame.state = state := hsame frame (by simp)
      have hlater : ∀ frame ∈ later, frame.state = state := fun frame hmem =>
        hsame frame (List.mem_append_left _ hmem)
      rw [← List.append_assoc, System.run_concat, plantModeSystem_step, List.length_append,
        List.length_singleton, Nat.add_sub_cancel]
      obtain ⟨earlier, previous, rfl⟩ : ∃ earlier previous, later = earlier ++ [previous] := by
        rcases List.eq_nil_or_concat later with rfl | ⟨earlier, previous, rfl⟩
        · exact absurd hlength (by decide)
        · exact ⟨earlier, previous, List.concat_eq_append⟩
      have hprevious : previous.state = state := hlater previous (by simp)
      have hvote : voteState (pushState
          (plantModeSystem.run (before ++ (earlier ++ [previous]))).stateHistory frame.state) =
          state := by
        rw [run_stateHistory, pushState_lastStates, ← List.append_assoc, List.map_append,
          List.map_singleton, hframe, hprevious]
        exact voteState_lastStates_twice _ state
      by_cases hearlier : earlier = []
      · subst hearlier
        exact Voted.first hvote
      · have hmore : 2 ≤ (earlier ++ [previous]).length := by
          have hpos := List.length_pos_iff.mpr hearlier
          rw [List.length_append, List.length_singleton]
          omega
        have hvoted := ih hlater hmore
        have hcount : (earlier ++ [previous]).length = (earlier ++ [previous]).length - 1 + 1 := by
          omega
        rw [hcount]
        exact hvoted.next hvote

/-! ## The report -/

/-- A port that takes what is sent knows the stable state. -/
theorem PlantLoop.lastSent_frame_ok (loop : PlantLoop) {frame : Frame} (hok : frame.sendOk = true) :
    (loop.frame frame).1.lastSentState = some (loop.frame frame).1.stableState := by
  unfold PlantLoop.frame
  dsimp only
  split
  next => rfl
  next hquiet =>
    rw [not_or, not_not] at hquiet
    exact hquiet.1.symm

/-- The state remembered as sent is the one before, or that of the packet taken. -/
theorem PlantLoop.lastSent_frame (loop : PlantLoop) (frame : Frame) :
    (loop.frame frame).1.lastSentState = loop.lastSentState ∧
        (frame.sendOk = false ∨ (loop.frame frame).2 = none) ∨
      frame.sendOk = true ∧ (loop.frame frame).1.lastSentState = (loop.frame frame).2 := by
  unfold PlantLoop.frame
  dsimp only
  split
  · by_cases hok : frame.sendOk = true
    · rw [if_pos hok]
      exact .inr ⟨hok, rfl⟩
    · rw [if_neg hok]
      exact .inl ⟨rfl, .inl (Bool.eq_false_iff.mpr hok)⟩
  · exact .inl ⟨rfl, .inr rfl⟩

/-- The loop of a plant stay has come about by frames, and the state it remembers
as sent was the last report. -/
structure PlantStay (sent : List Report) (loop : PlantLoop) : Prop where
  reached : ∃ frames, loop = plantModeSystem.run frames
  last : ∀ state, loop.lastSentState = some state →
    ∃ report ∈ sent.getLast?, report.packet = .state state.code

section Stay

variable {width height : ℕ}

/-- The script after a frame of a plant stay. -/
theorem PlantStay.frame {sent : List Report} {loop : PlantLoop} (hstay : PlantStay sent loop)
    (view : View width height) (entry : ℕ) :
    let out := loop.frame view.frame
    let packet := out.2.map fun state => Packet.state state.code
    let reports := if view.sendOk then
      packet.toList.map fun packet => (⟨packet, view.nowMs, entry⟩ : Report) else []
    PlantStay (sent ++ reports) out.1 := by
  intro out packet reports
  obtain ⟨⟨frames, hframes⟩, hlast⟩ := hstay
  refine ⟨⟨frames ++ [view.frame], ?_⟩, fun state hstate => ?_⟩
  · rw [System.run_concat, ← hframes]
    rfl
  · rcases loop.lastSent_frame view.frame with ⟨hsame, hnone⟩ | ⟨hok, hsent⟩
    · have hreports : reports = [] := by
        rcases hnone with hfailed | hquiet
        · exact if_neg (Bool.eq_false_iff.mp hfailed)
        · change (if view.sendOk then ((loop.frame view.frame).2.map _).toList.map _ else []) = []
          rw [hquiet]
          exact ite_self _
      rw [hreports, List.append_nil]
      exact hlast state (hsame.symm.trans hstate)
    · have hout : (loop.frame view.frame).2 = some state := hsent.symm.trans hstate
      have hreports : reports = [⟨.state state.code, view.nowMs, entry⟩] := by
        change (if view.sendOk then ((loop.frame view.frame).2.map _).toList.map _ else []) = _
        rw [hout]
        exact if_pos hok
      rw [hreports, List.getLast?_concat]
      exact ⟨_, rfl, rfl⟩

/-- In the plant mode, the script is in such a stay. -/
def InStay (s : Script) : Prop :=
  match s.phase with
  | .running (.plant loop) _ => PlantStay s.sent loop
  | _ => True

theorem inStay_enter (s : Script) (mode : Mode) : InStay (s.enter mode) := by
  cases mode with
  | plant => exact ⟨⟨[], rfl⟩, nofun⟩
  | light => trivial

theorem inStay_invariant (width height : ℕ) : (scriptSystem width height).Invariant InStay where
  init := trivial
  step s event hstay := by
    obtain ⟨phase, entry, sent⟩ := s
    cases phase with
    | selecting selection =>
        cases event with
        | poll | frame => exact hstay
        | touch tp nowMs nowMs' sendOk =>
            have hstart : (Script.mk (.selecting selection) entry sent).phase =
                .selecting selection := rfl
            change InStay (Script.step _ (.touch tp nowMs nowMs' sendOk : ScriptEvent width height))
            obtain ⟨code, -, hstep⟩ | hstep := Script.step_touch hstart tp nowMs nowMs' sendOk
            · rw [hstep]
              exact inStay_enter _ _
            · rw [hstep]
              trivial
    | running loop point =>
        cases event with
        | touch => exact hstay
        | poll recvCode =>
            have hstart : (Script.mk (.running loop point) entry sent).phase =
                .running loop point := rfl
            change InStay (Script.step _ (.poll recvCode))
            rw [Script.step_poll hstart]
            split
            · exact hstay
            · cases recvCode with
              | some mode => exact inStay_enter _ _
              | none => cases loop <;> exact hstay
        | frame view =>
            cases point with
            | started | captured | examined | shown => exact hstay
            | reporting =>
                cases loop with
                | plant loop => exact PlantStay.frame hstay view entry
                | light loop => trivial

/-- A pass of the loop that no mode command interrupts. -/
def pass (view : View width height) : List (ScriptEvent width height) :=
  [.poll none, .poll none, .poll none, .frame view, .poll none]

theorem phase_pass {s : Script} {loop : PlantLoop}
    (hphase : s.phase = .running (.plant loop) .started) (view : View width height) :
    ((scriptSystem width height).runFrom s (pass view)).phase =
      .running (.plant (loop.frame view.frame).1) .started := by
  obtain ⟨phase, entry, sent⟩ := s
  obtain rfl : phase = _ := hphase
  rfl

theorem phase_passes {s : Script} {frames : List Frame}
    (hphase : s.phase = .running (.plant (plantModeSystem.run frames)) .started)
    (views : List (View width height)) :
    ((scriptSystem width height).runFrom s (views.flatMap pass)).phase =
      .running (.plant (plantModeSystem.run (frames ++ views.map View.frame))) .started := by
  induction views generalizing s frames with
  | nil => rwa [List.flatMap_nil, List.map_nil, List.append_nil]
  | cons view views ih =>
      have hnext := phase_pass hphase view
      rw [← plantModeSystem_step, ← System.run_concat] at hnext
      rw [List.flatMap_cons, System.runFrom_append, ih hnext, List.append_assoc]
      rfl

/-- The worst of the leaves detected is in this state, or there are none. -/
def View.Shows (view : View width height) (state : LeafState) : Prop :=
  let objs := filterObjects width height view.objs
  (∀ obj ∈ objs, stateSeverity obj.classId ≤ stateSeverity state) ∧
    ((∃ obj ∈ objs, obj.classId = state) ∨ objs = [] ∧ state = .none)

instance (view : View width height) (state : LeafState) : Decidable (view.Shows state) :=
  inferInstanceAs (Decidable (_ ∧ _))

theorem View.Shows.state_frame {view : View width height} {state : LeafState}
    (hshows : view.Shows state) : view.frame.state = state := by
  obtain ⟨hworst, hobj | ⟨hnone, rfl⟩⟩ := hshows
  · have hsummary := summarizeObjects_eq_some.mpr ⟨hobj, hworst⟩
    rw [Frame.state, View.frame, hsummary, Option.getD_some]
  · rw [Frame.state, View.frame, hnone]
    rfl

/-- After any run that leaves the script in the plant mode: four frames in a row
with the same worst leaf, and that state is the stable one and, if the port takes
what is sent in the last of them, also the last that was reported. -/
theorem leaf_state_reported (before : List (ScriptEvent width height))
    (views : List (View width height)) (state : LeafState)
    (hplant : ∃ loop, ((scriptSystem width height).run before).phase =
      .running (.plant loop) .started)
    (hfour : 4 ≤ views.length) (hshows : ∀ view ∈ views, view.Shows state)
    (hok : ∀ view ∈ views.getLast?, view.sendOk = true) :
    let s := (scriptSystem width height).run (before ++ views.flatMap pass)
    (∃ loop, s.phase = .running (.plant loop) .started ∧ loop.stableState = state) ∧
      ∃ report ∈ s.sent.getLast?, report.packet = .state state.code := by
  intro s
  obtain ⟨loop, hphase⟩ := hplant
  have hbefore := (inStay_invariant width height).run before
  obtain ⟨frames, rfl⟩ : ∃ frames, loop = plantModeSystem.run frames := by
    unfold InStay at hbefore
    rw [hphase] at hbefore
    exact hbefore.reached
  have hlater := phase_passes hphase views
  rw [← System.run_append] at hlater
  have hvoted : Voted state (views.length - 1)
      (plantModeSystem.run (frames ++ views.map View.frame)) := by
    rw [← List.length_map View.frame]
    refine voted_run frames _ (fun frame hframe => ?_) (by rw [List.length_map]; omega)
    obtain ⟨view, hview, rfl⟩ := List.mem_map.mp hframe
    exact (hshows view hview).state_frame
  have hstable := hvoted.stable (by unfold stableFrames; omega)
  refine ⟨⟨_, hlater, hstable⟩, ?_⟩
  have hstay := (inStay_invariant width height).run (before ++ views.flatMap pass)
  unfold InStay at hstay
  rw [hlater] at hstay
  apply hstay.last state
  rcases List.eq_nil_or_concat views with rfl | ⟨earlier, view, rfl⟩
  · exact absurd hfour (by simp)
  · have hview : view.sendOk = true := hok view (by rw [List.concat_eq_append]; simp)
    rw [List.concat_eq_append, List.map_append, ← List.append_assoc] at hstable ⊢
    change (plantModeSystem.run (frames ++ earlier.map View.frame ++ [view.frame])).stableState =
      state at hstable
    change (plantModeSystem.run (frames ++ earlier.map View.frame ++ [view.frame])).lastSentState =
      some state
    rw [System.run_concat, plantModeSystem_step] at hstable ⊢
    rw [PlantLoop.lastSent_frame_ok _ hview, hstable]

/-- A rotten leaf in the middle of a frame. -/
def rottenView (nowMs : ℤ) : View 320 240 where
  contours := []
  raised := false
  objs := [⟨.rot, 9 / 10, 100, 100⟩]
  nowMs := nowMs
  sendOk := true

/-- The first plant type is chosen, then four frames show a rotten leaf. -/
theorem leaf_state_reported_rot :
    let s := (scriptSystem 320 240).run ([.touch (some ⟨100, 80, true⟩) 301 1102 true] ++
      ([2000, 2033, 2066, 2100].map rottenView).flatMap pass)
    (∃ loop, s.phase = .running (.plant loop) .started ∧ loop.stableState = .rot) ∧
      ∃ report ∈ s.sent.getLast?, report.packet = .state LeafState.rot.code :=
  leaf_state_reported [.touch (some ⟨100, 80, true⟩) 301 1102 true]
    ([2000, 2033, 2066, 2100].map rottenView) .rot ⟨_, rfl⟩ (by decide) (by decide +kernel)
    (by simp [rottenView])

end Stay

end PlantAssistant.Vision
