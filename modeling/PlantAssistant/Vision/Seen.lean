import PlantAssistant.Vision.Convergence

/-! # What is reported has been seen

Packets about the light describe the frame they are sent on. The leaf state goes
through a vote and a filter first, but neither brings up a state that no frame
has shown.
-/

namespace PlantAssistant.Vision

open Transition

/-! ## The vote -/

theorem countScores_of_notMem {history : List LeafState} {state : LeafState}
    (hmissing : state ∉ history) : countScores history state = 0 := by
  induction history using List.reverseRecOn with
  | nil => rfl
  | append_singleton history last ih =>
      rw [List.mem_append, List.mem_singleton, not_or] at hmissing
      rw [countScores_append_of_ne history hmissing.2, ih hmissing.1]

/-- The winner of a vote got at least one. -/
theorem voteState_mem {history : List LeafState} (hne : history ≠ []) :
    voteState history ∈ history := by
  obtain ⟨earlier, last, rfl⟩ := List.eq_nil_or_concat' history |>.resolve_left hne
  unfold voteState
  rw [if_neg hne]
  cases hfirst : scoreKeys.argmax (addBonus (countScores (earlier ++ [last]))) with
  | none => exact absurd (List.argmax_eq_none.mp hfirst) (by decide)
  | some first =>
      rw [Option.getD_some]
      by_contra hmissing
      have hkey : last ∈ scoreKeys := by cases last <;> decide
      have hbest := List.le_of_mem_argmax hkey hfirst
      have hfirst := countScores_of_notMem hmissing
      have hnothing := (addBonus_le (countScores (earlier ++ [last])) first).2 hfirst.le
      have hlast := le_addBonus (countScores (earlier ++ [last])) last
      rw [countScores_append_self] at hlast
      have hscore := countScores_nonneg earlier last
      have hweight : (0 : ℚ) < (earlier.length + 1 : ℕ) := by exact_mod_cast Nat.succ_pos _
      linarith

/-- The stable state is kept, or becomes the one voted for. -/
theorem stable_updateStableState (currentState : LeafState) (pendingState : Option LeafState)
    (pendingCount : ℕ) (stableState : LeafState) :
    (updateStableState currentState pendingState pendingCount stableState).2.2 = stableState ∨
      (updateStableState currentState pendingState pendingCount stableState).2.2 =
        currentState := by
  unfold updateStableState
  dsimp only
  split <;> dsimp only <;> split
  · exact .inr rfl
  · exact .inl rfl
  · exact .inr rfl
  · exact .inl rfl

/-- A frame adds its state to the history, and the stable state is the old one or
one of the history. -/
theorem PlantLoop.frame_seen (loop : PlantLoop) (frame : Frame) {seen : LeafState → Prop}
    (hhistory : ∀ state ∈ loop.stateHistory, seen state) (hframe : seen frame.state) :
    (∀ state ∈ (loop.frame frame).1.stateHistory, seen state) ∧
      ((loop.frame frame).1.stableState = loop.stableState ∨
        seen (loop.frame frame).1.stableState) := by
  have hpushed : ∀ state ∈ pushState loop.stateHistory frame.state, seen state := by
    intro state hstate
    have hmem : state ∈ loop.stateHistory ++ [frame.state] := by
      unfold pushState at hstate
      dsimp only at hstate
      split at hstate
      · exact List.mem_of_mem_drop hstate
      · exact hstate
    rcases List.mem_append.mp hmem with hold | hnew
    · exact hhistory state hold
    · rw [List.mem_singleton.mp hnew]
      exact hframe
  have hne : pushState loop.stateHistory frame.state ≠ [] := by
    unfold pushState
    dsimp only
    split
    next hfull =>
      apply List.ne_nil_of_length_pos
      rw [List.length_drop]
      exact Nat.sub_pos_of_lt (Nat.lt_of_le_of_lt (by decide) hfull)
    next => exact List.append_ne_nil_of_right_ne_nil _ (List.cons_ne_nil _ _)
  refine ⟨by rwa [frame_stateHistory], ?_⟩
  rw [(loop.frame_vote frame).2.2]
  have hstable := stable_updateStableState (voteState (pushState loop.stateHistory frame.state))
    loop.pendingState loop.pendingCount loop.stableState
  rcases hstable with hkept | hvoted
  · exact .inl hkept
  · right
    have hvote := hpushed _ (voteState_mem hne)
    rw [← hvoted] at hvote
    exact hvote

/-! ## Frames and touches that were looked at -/

section Seen

variable {width height : ℕ}

theorem View.shows_state (view : View width height) : view.Shows view.frame.state := by
  unfold Frame.state View.frame
  dsimp only
  cases hsummary : summarizeObjects (filterObjects width height view.objs) with
  | some state =>
      obtain ⟨hobj, hworst⟩ := summarizeObjects_eq_some.mp hsummary
      exact ⟨hworst, .inl hobj⟩
  | none =>
      have hnone : filterObjects width height view.objs = [] := by
        cases hobjs : filterObjects width height view.objs with
        | nil => rfl
        | cons first objs =>
            rw [hobjs] at hsummary
            cases hsummary
      refine ⟨fun obj hobj => ?_, .inr ⟨hnone, rfl⟩⟩
      rw [hnone] at hobj
      cases hobj

variable (width height) in
/-- The script with the frames it has reported on and the touches it has looked
at while it waited for a plant type. -/
structure Watched where
  script : Script := {}
  views : List (View width height) := []
  touches : List Touch := []

def Watched.step (s : Watched width height) (event : ScriptEvent width height) :
    Watched width height where
  script := s.script.step event
  views := s.views ++
    match s.script.phase, event with
    | .running _ .reporting, .frame view => [view]
    | _, _ => []
  touches := s.touches ++
    match s.script.phase, event with
    | .selecting _, .touch (some touch) _ _ _ => [touch]
    | _, _ => []

variable (width height) in
def watchedSystem : System (Watched width height) (ScriptEvent width height) where
  init := {}
  step := Watched.step

/-- Watching does not change what the script does. -/
theorem watched_script (events : List (ScriptEvent width height)) :
    ((watchedSystem width height).run events).script =
      (scriptSystem width height).run events := by
  have hfollows : System.Follows (watchedSystem width height) (scriptSystem width height)
      Watched.script := fun _ _ => rfl
  exact hfollows.runFrom {} events

namespace Watched

variable {s s' : Watched width height}

def Showed (s : Watched width height) (state : LeafState) : Prop :=
  ∃ view ∈ s.views, view.Shows state

/-- The button of the plant type was pressed. -/
def Pressed (s : Watched width height) (code : PlantCode) : Prop :=
  ∃ touch ∈ s.touches, touch.pressed ∧
    pointInRect touch.x touch.y (plantButtonRect width code)

/-- What the packet says has been seen: a light in the frame of that moment, a leaf
state in a frame so far, a plant type in a touch. No state is reported before one
is stable, and no light where the search for one failed. -/
def Seen (s : Watched width height) (report : Report) : Prop :=
  match report.packet with
  | .lightCenter x y =>
      ∃ view ∈ s.views, view.nowMs = report.nowMs ∧ view.raised = false ∧
        ∃ region ∈ view.contours, Large region ∧
          (∀ other ∈ view.contours, Large other → other.area ≤ region.area) ∧
            x = region.center.1 ∧ y = region.center.2
  | .lightNotFound =>
      ∃ view ∈ s.views, view.nowMs = report.nowMs ∧
        (view.raised = true ∨ ∀ region ∈ view.contours, ¬ Large region)
  | .state code => ∃ state : LeafState, code = state.code ∧ (state = .none ∨ s.Showed state)
  | .plantType code => s.Pressed code

theorem Showed.mono {state : LeafState} (hshowed : s.Showed state) (hviews : s.views ⊆ s'.views) :
    s'.Showed state := by
  obtain ⟨view, hview, hshows⟩ := hshowed
  exact ⟨view, hviews hview, hshows⟩

theorem Pressed.mono {code : PlantCode} (hpressed : s.Pressed code)
    (htouches : s.touches ⊆ s'.touches) : s'.Pressed code := by
  obtain ⟨touch, htouch, hbutton⟩ := hpressed
  exact ⟨touch, htouches htouch, hbutton⟩

theorem Seen.mono {report : Report} (hseen : s.Seen report) (hviews : s.views ⊆ s'.views)
    (htouches : s.touches ⊆ s'.touches) : s'.Seen report := by
  obtain ⟨packet, nowMs, entry⟩ := report
  cases packet with
  | lightCenter x y =>
      obtain ⟨view, hview, hlight⟩ := hseen
      exact ⟨view, hviews hview, hlight⟩
  | lightNotFound =>
      obtain ⟨view, hview, hdark⟩ := hseen
      exact ⟨view, hviews hview, hdark⟩
  | state code =>
      obtain ⟨state, hcode, hstate⟩ := hseen
      exact ⟨state, hcode, hstate.imp_right fun hshowed => hshowed.mono hviews⟩
  | plantType code => exact Pressed.mono hseen htouches

/-- What the variables of the present phase hold has been seen as well. -/
def Remembers (s : Watched width height) : Phase → Prop
  | .selecting selection => ∀ code ∈ selection.selectedCode, s.Pressed code
  | .running (.plant loop) _ =>
      (∀ state ∈ loop.stateHistory, s.Showed state) ∧
        (loop.stableState = .none ∨ s.Showed loop.stableState)
  | .running (.light _) _ => True

/-- Everything sent and everything remembered has been seen. -/
structure Grounded (s : Watched width height) : Prop where
  sent : ∀ report ∈ s.script.sent, s.Seen report
  remembers : s.Remembers s.script.phase

theorem remembers_enter (s : Watched width height) (mode : Mode) (point : Point) :
    s.Remembers (.running (.enter mode) point) := by
  cases mode with
  | plant => exact ⟨nofun, .inl rfl⟩
  | light => trivial

theorem Remembers.mono {phase : Phase} (hremembers : s.Remembers phase)
    (hviews : s.views ⊆ s'.views) (htouches : s.touches ⊆ s'.touches) : s'.Remembers phase := by
  cases phase with
  | selecting selection => exact fun code hcode => (hremembers code hcode).mono htouches
  | running loop point =>
      cases loop with
      | plant loop =>
          obtain ⟨hhistory, hstable⟩ := hremembers
          exact ⟨fun state hstate => (hhistory state hstate).mono hviews,
            hstable.imp_right fun hshowed => hshowed.mono hviews⟩
      | light loop => trivial

/-- A pass of the selection keeps the type or takes that of the button pressed. -/
theorem pressed_touch {selection : Selection}
    (hselected : ∀ code ∈ selection.selectedCode, s.Pressed code) {tp : Option Touch}
    (htouch : ∀ touch ∈ tp, touch ∈ s.touches) (nowMs : ℤ) :
    ∀ code ∈ (selection.touch width tp nowMs).selectedCode, s.Pressed code := by
  intro code hcode
  unfold Selection.touch at hcode
  split at hcode
  next touch =>
    split at hcode
    next hpressed =>
      split at hcode
      next code' hbutton =>
        obtain rfl := Option.some.inj hcode
        have hinside := List.find?_some hbutton
        exact ⟨touch, htouch touch rfl, hpressed.1, hinside⟩
      next => exact hselected code hcode
    next => exact hselected code hcode
  next => exact hselected code hcode

/-- A frame in either mode, once it is among those reported on. -/
theorem seen_frame {loop : ModeLoop} {point : Point}
    (hremembers : s.Remembers (.running loop point)) {view : View width height}
    (hview : view ∈ s.views) (point' : Point) (entry : ℕ) :
    (∀ packet ∈ (loop.frame view).2, s.Seen ⟨packet, view.nowMs, entry⟩) ∧
      s.Remembers (.running (loop.frame view).1 point') := by
  cases loop with
  | plant loop =>
      obtain ⟨hhistory, hstable⟩ := hremembers
      obtain ⟨hhistory', hstable'⟩ :=
        loop.frame_seen view.frame hhistory ⟨view, hview, view.shows_state⟩
      have hkept : (loop.frame view.frame).1.stableState = .none ∨
          s.Showed (loop.frame view.frame).1.stableState := by
        rcases hstable' with hsame | hshowed
        · rw [hsame]
          exact hstable
        · exact .inr hshowed
      refine ⟨fun packet hpacket => ?_, hhistory', hkept⟩
      obtain ⟨state, hsent, rfl⟩ := Option.map_eq_some_iff.mp hpacket
      rw [← sent_eq_stableState hsent] at hkept
      exact ⟨state, rfl, hkept⟩
  | light loop =>
      refine ⟨fun packet hpacket => ?_, trivial⟩
      obtain ⟨hbrightest, hdark⟩ := findLightCenter_spec view.raised view.contours
      change packet ∈ (loop.frame view.center view.nowMs).2 at hpacket
      unfold LightLoop.frame at hpacket
      split at hpacket
      next cx cy hcenter =>
        obtain ⟨region, hregion, hsame⟩ := Option.map_eq_some_iff.mp hcenter
        obtain ⟨hraised, hmem, hlarge, hmost⟩ := hbrightest region hregion
        split at hpacket
        · obtain rfl := Option.some.inj hpacket
          exact ⟨view, hview, rfl, hraised, region, hmem, hlarge, hmost,
            congrArg (fun center => (center.1 : ℤ)) hsame.symm,
            congrArg (fun center => (center.2 : ℤ)) hsame.symm⟩
        · cases hpacket
      next hcenter =>
        split at hpacket
        · obtain rfl := Option.some.inj hpacket
          exact ⟨view, hview, rfl, hdark.mp (Option.map_eq_none_iff.mp hcenter)⟩
        · cases hpacket

theorem seen_send {script : Script} {packet : Option Packet} {nowMs : ℤ}
    (hsent : ∀ report ∈ script.sent, s.Seen report)
    (hpacket : ∀ packet' ∈ packet, s.Seen ⟨packet', nowMs, script.entry⟩) (sendOk : Bool) :
    ∀ report ∈ (script.send packet nowMs sendOk).sent, s.Seen report := by
  intro report hreport
  rcases List.mem_append.mp hreport with hold | hnew
  · exact hsent report hold
  · split at hnew
    · obtain ⟨packet', hpacket', rfl⟩ := List.mem_map.mp hnew
      exact hpacket packet' (Option.mem_toList.mp hpacket')
    · cases hnew

theorem grounded_of_script {script : Script} (hscript : s.script = script)
    (hsent : ∀ report ∈ script.sent, s.Seen report) (hremembers : s.Remembers script.phase) :
    s.Grounded := by
  subst hscript
  exact ⟨hsent, hremembers⟩

theorem Grounded.step (hgrounded : s.Grounded) (event : ScriptEvent width height) :
    (s.step event).Grounded := by
  have hviews : s.views ⊆ (s.step event).views := List.subset_append_left _ _
  have htouches : s.touches ⊆ (s.step event).touches := List.subset_append_left _ _
  have hsent : ∀ report ∈ s.script.sent, (s.step event).Seen report :=
    fun report hreport => (hgrounded.sent report hreport).mono hviews htouches
  have hremembers := hgrounded.remembers.mono hviews htouches
  obtain ⟨⟨phase, entry, sent⟩, views, touches⟩ := s
  cases phase with
  | selecting selection =>
      cases event with
      | poll | frame => exact ⟨hsent, hremembers⟩
      | touch tp nowMs nowMs' sendOk =>
          have hstart : (Script.mk (.selecting selection) entry sent).phase =
              .selecting selection := rfl
          have htouched : ∀ touch ∈ tp, touch ∈ (Watched.step
              (⟨⟨.selecting selection, entry, sent⟩, views, touches⟩ : Watched width height)
              (.touch tp nowMs nowMs' sendOk)).touches := fun touch htouch => by
            cases htouch
            exact List.mem_append_right _ List.mem_cons_self
          have hcodes := pressed_touch hremembers htouched nowMs
          obtain ⟨code, hcode, hstep⟩ | hstep :=
            @Script.step_touch width height _ _ hstart tp nowMs nowMs' sendOk
          · refine grounded_of_script hstep (seen_send hsent (fun packet hpacket => ?_) sendOk)
              (remembers_enter _ _ _)
            obtain rfl := Option.some.inj hpacket
            exact hcodes code hcode
          · exact grounded_of_script hstep hsent hcodes
  | running loop point =>
      cases event with
      | touch => exact ⟨hsent, hremembers⟩
      | poll recvCode =>
          have hstart : (Script.mk (.running loop point) entry sent).phase =
              .running loop point := rfl
          apply grounded_of_script (@Script.step_poll width height _ _ _ hstart recvCode)
          · split
            · exact hsent
            · cases recvCode <;> exact hsent
          · split
            · exact hremembers
            · cases recvCode with
              | none => cases loop <;> exact hremembers
              | some mode => exact remembers_enter _ _ _
      | frame view =>
          cases point with
          | started | captured | examined | shown => exact ⟨hsent, hremembers⟩
          | reporting =>
              obtain ⟨hpackets, hremembers'⟩ := seen_frame hremembers
                (List.mem_append_right views List.mem_cons_self) .shown entry
              exact ⟨seen_send hsent hpackets view.sendOk, hremembers'⟩

theorem grounded_invariant (width height : ℕ) :
    (watchedSystem width height).Invariant Grounded where
  init := ⟨nofun, nofun⟩
  step _ event hgrounded := hgrounded.step event

end Watched

/-- Nothing is reported that was not there: in every run each packet about the light
describes the largest bright region of the frame it was sent on, or that there is
none or that the search failed; each leaf state but the one at the start is the
worst of a frame; and the plant type is that of a button pressed. -/
theorem reports_seen (events : List (ScriptEvent width height)) :
    ∀ report ∈ ((scriptSystem width height).run events).sent,
      ((watchedSystem width height).run events).Seen report := by
  rw [← watched_script]
  exact ((Watched.grounded_invariant width height).run events).sent

/-- A lamp that fills an eighth of the frame. -/
def brightView : View 320 240 where
  contours := [⟨10000, 10, 20, 100, 100, by decide, by decide⟩]
  raised := false
  objs := []
  nowMs := 2000
  sendOk := true

/-- The mode is changed to the search for light, and the first frame shows a lamp. -/
theorem reports_seen_light :
    ((watchedSystem 320 240).run [.touch (some ⟨100, 80, true⟩) 301 1102 true,
      .poll (some .light), .poll none, .poll none, .poll none, .frame brightView]).Seen
        ⟨.lightCenter 60 70, 2000, 2⟩ :=
  reports_seen _ _ (by decide +kernel)

end Seen

end PlantAssistant.Vision
