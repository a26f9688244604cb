import Mathlib.Data.List.Chain
import PlantAssistant.Vision.Script

/-! # How often the script reports

Within one stay in a mode it sends that mode's packets only, light packets of
one kind a tenth of a second apart, and a leaf state again only after a fifth of
a second. The plant type comes first and once.
-/

namespace PlantAssistant.Vision

open Transition

/-- The mode in which a packet is sent; the plant type is sent before. -/
def Packet.mode : Packet → Option Mode
  | .lightCenter _ _ => some .light
  | .lightNotFound => some .light
  | .state _ => some .plant
  | .plantType _ => none

/-- Two light packets of one kind. -/
def SameLight : Packet → Packet → Prop
  | .lightCenter _ _, .lightCenter _ _ => True
  | .lightNotFound, .lightNotFound => True
  | _, _ => False

/-- What holds of a report and any later one. -/
structure Spaced (earlier later : Report) : Prop where
  later_mode : later.packet.mode ≠ none
  same_mode : earlier.entry = later.entry → earlier.packet.mode = later.packet.mode
  light : earlier.entry = later.entry → SameLight earlier.packet later.packet →
    earlier.nowMs + lightSendMs ≤ later.nowMs

/-- What holds of a report and the next one. -/
def Fresh (earlier later : Report) : Prop :=
  earlier.entry = later.entry → later.packet.mode = some .plant →
    earlier.packet ≠ later.packet ∨ earlier.nowMs + serialResendMs ≤ later.nowMs

theorem LeafState.code_injective : Function.Injective LeafState.code := by
  intro state state' hsame
  cases state <;> cases state' <;> first | rfl | exact absurd hsame (by decide)

/-! ## One frame -/

/-- The loop of the plant mode knows the last report of its stay. -/
def PlantLoop.Knows (loop : PlantLoop) (report : Report) : Prop :=
  ∃ state, loop.lastSentState = some state ∧ report.packet = .state state.code ∧
    loop.lastSendMs = report.nowMs

theorem PlantLoop.vote_lastSent (loop : PlantLoop) (frame : Frame) :
    (loop.vote frame).lastSentState = loop.lastSentState ∧
      (loop.vote frame).lastSendMs = loop.lastSendMs := ⟨rfl, rfl⟩

/-- What a frame of the plant mode sends is new or due again, and is remembered
if the port takes it. -/
theorem PlantLoop.frame_spec (loop : PlantLoop) (frame : Frame) :
    (loop.frame frame).2 = none ∧
        (∀ report, loop.Knows report → (loop.frame frame).1.Knows report) ∨
      ∃ state, (loop.frame frame).2 = some state ∧
        (frame.sendOk = true →
          (loop.frame frame).1.lastSentState = some state ∧
            (loop.frame frame).1.lastSendMs = frame.nowMs) ∧
        (frame.sendOk = false → ∀ report, loop.Knows report →
          (loop.frame frame).1.Knows report) ∧
        ∀ report, loop.Knows report →
          report.packet ≠ .state state.code ∨ report.nowMs + serialResendMs ≤ frame.nowMs := by
  unfold PlantLoop.frame
  dsimp only
  split
  next hdue =>
    refine .inr ⟨_, rfl, fun hok => ?_, fun hfailed report hknows => ?_, fun report hknows => ?_⟩
    · rw [if_pos hok]
      exact ⟨rfl, rfl⟩
    · rw [if_neg (by rw [hfailed]; decide)]
      exact hknows
    · obtain ⟨state, hlast, hpacket, htime⟩ := hknows
      obtain ⟨hlast', htime'⟩ := loop.vote_lastSent frame
      rw [hlast', htime', hlast, htime] at hdue
      rcases hdue with hnew | hagain
      · left
        rw [hpacket]
        intro hsame
        exact hnew (congrArg some (LeafState.code_injective (Packet.state.inj hsame)).symm)
      · right
        linarith
  next => exact .inl ⟨rfl, fun report hknows => hknows⟩

/-- The loop of the light mode has the times of its last packets. -/
def LightLoop.Covers (loop : LightLoop) (report : Report) : Prop :=
  match report.packet with
  | .lightCenter _ _ => report.nowMs ≤ loop.lastLightSendMs
  | .lightNotFound => report.nowMs ≤ loop.lastLightNoneSendMs
  | _ => True

/-- What a frame of the light mode sends is due, and from then on covered. -/
theorem LightLoop.frame_spec (loop : LightLoop) (center : Option (ℕ × ℕ)) (nowMs : ℤ) (entry : ℕ) :
    (∀ report, loop.Covers report → (loop.frame center nowMs).1.Covers report) ∧
      ∀ packet ∈ (loop.frame center nowMs).2,
        packet.mode = some .light ∧ (loop.frame center nowMs).1.Covers ⟨packet, nowMs, entry⟩ ∧
          ∀ report, loop.Covers report → SameLight report.packet packet →
            report.nowMs + lightSendMs ≤ nowMs := by
  have hlater {last : ℤ} (hdue : lightSendMs ≤ nowMs - last) : last ≤ nowMs := by
    unfold lightSendMs at hdue
    linarith
  unfold LightLoop.frame
  split
  · split
    next hdue =>
      refine ⟨fun report hcovers => ?_, fun packet hpacket => ?_⟩
      · obtain ⟨packet, time, _⟩ := report
        cases packet with
        | lightCenter => exact le_trans hcovers (hlater hdue)
        | lightNotFound | state | plantType => exact hcovers
      · cases hpacket
        refine ⟨rfl, le_refl nowMs, fun report hcovers hsame => ?_⟩
        obtain ⟨packet, time, _⟩ := report
        cases packet with
        | lightCenter =>
            have hcovered : time ≤ loop.lastLightSendMs := hcovers
            dsimp only
            linarith
        | lightNotFound | state | plantType => cases hsame
    next => exact ⟨fun report hcovers => hcovers, nofun⟩
  · split
    next hdue =>
      refine ⟨fun report hcovers => ?_, fun packet hpacket => ?_⟩
      · obtain ⟨packet, time, _⟩ := report
        cases packet with
        | lightNotFound => exact le_trans hcovers (hlater hdue)
        | lightCenter | state | plantType => exact hcovers
      · cases hpacket
        refine ⟨rfl, le_refl nowMs, fun report hcovers hsame => ?_⟩
        obtain ⟨packet, time, _⟩ := report
        cases packet with
        | lightNotFound =>
            have hcovered : time ≤ loop.lastLightNoneSendMs := hcovers
            dsimp only
            linarith
        | lightCenter | state | plantType => cases hsame
    next => exact ⟨fun report hcovers => hcovers, nofun⟩

/-! ## All runs -/

/-- What the variables of a mode tell of the reports of the present stay. -/
def ModeLoop.Remembers (entry : ℕ) (sent : List Report) : ModeLoop → Prop
  | .plant loop => ∀ report ∈ sent.getLast?, report.entry = entry → loop.Knows report
  | .light loop => ∀ report ∈ sent, report.entry = entry → loop.Covers report

/-- The reports so far, in any phase. -/
structure Reported (sent : List Report) (entry : ℕ) : Prop where
  spaced : sent.Pairwise Spaced
  fresh : sent.IsChain Fresh
  entries : ∀ report ∈ sent, report.entry ≤ entry

/-- The reports of the present stay. -/
structure Staying (sent : List Report) (entry : ℕ) (loop : ModeLoop) : Prop where
  mode : ∀ report ∈ sent, report.entry = entry → report.packet.mode = some loop.mode
  remembers : loop.Remembers entry sent

def Paced (s : Script) : Prop :=
  Reported s.sent s.entry ∧
    match s.phase with
    | .selecting _ => s.sent = []
    | .running loop _ => Staying s.sent s.entry loop

theorem Reported.concat {sent : List Report} {entry : ℕ} (hreported : Reported sent entry)
    {report : Report} (hentry : report.entry = entry)
    (hspaced : ∀ earlier ∈ sent, Spaced earlier report)
    (hfresh : ∀ earlier ∈ sent.getLast?, Fresh earlier report) :
    Reported (sent ++ [report]) entry := by
  obtain ⟨hpairs, hchain, hentries⟩ := hreported
  refine ⟨?_, ?_, ?_⟩
  · rw [List.pairwise_append]
    refine ⟨hpairs, List.pairwise_singleton _ _, fun earlier hearlier later hlater => ?_⟩
    rw [List.mem_singleton.mp hlater]
    exact hspaced earlier hearlier
  · rw [List.isChain_append]
    refine ⟨hchain, List.isChain_singleton _, fun earlier hearlier later hlater => ?_⟩
    cases hlater
    exact hfresh earlier hearlier
  · intro earlier hearlier
    rcases List.mem_append.mp hearlier with hold | hnew
    · exact hentries earlier hold
    · rw [List.mem_singleton.mp hnew, hentry]

/-- A mode starts with a new stay, of which nothing has been reported. -/
theorem Paced.enter {s : Script} (hreported : Reported s.sent s.entry) (mode : Mode) :
    Paced (s.enter mode) := by
  have hold : ∀ report ∈ s.sent, report.entry ≠ s.entry + 1 := fun report hreport =>
    Nat.ne_of_lt (Nat.lt_succ_of_le (hreported.entries report hreport))
  refine ⟨⟨hreported.spaced, hreported.fresh, fun report hreport =>
    (hreported.entries report hreport).trans (Nat.le_succ _)⟩, ⟨fun report hreport hentry =>
      absurd hentry (hold report hreport), ?_⟩⟩
  cases mode with
  | plant =>
      intro report hreport hentry
      exact absurd hentry (hold report (List.mem_of_mem_getLast? hreport))
  | light =>
      intro report hreport hentry
      exact absurd hentry (hold report hreport)

section Frame

variable {width height : ℕ} {sent : List Report} {entry : ℕ}

/-- A frame of the plant mode. -/
theorem Staying.plant (hreported : Reported sent entry) {loop : PlantLoop}
    (hstaying : Staying sent entry (.plant loop)) (view : View width height) :
    let out := loop.frame view.frame
    let packet := out.2.map fun state => Packet.state state.code
    let reports := if view.sendOk then
      packet.toList.map fun packet => (⟨packet, view.nowMs, entry⟩ : Report) else []
    Reported (sent ++ reports) entry ∧ Staying (sent ++ reports) entry (.plant out.1) := by
  intro out packet reports
  obtain ⟨hmode, hremembers⟩ := hstaying
  have hnothing (hnone : reports = []) (hkept : ∀ report, loop.Knows report → out.1.Knows report) :
      Reported (sent ++ reports) entry ∧ Staying (sent ++ reports) entry (.plant out.1) := by
    rw [hnone, List.append_nil]
    exact ⟨hreported, hmode, fun report hreport hentry =>
      hkept report (hremembers report hreport hentry)⟩
  rcases loop.frame_spec view.frame with ⟨hquiet, hkept⟩ | ⟨state, hsent, htaken, hfailed, hdue⟩
  · apply hnothing _ hkept
    change (if view.sendOk then ((loop.frame view.frame).2.map _).toList.map _ else []) = []
    rw [hquiet]
    exact ite_self _
  · by_cases hok : view.sendOk = true
    · have hreports : reports = [⟨.state state.code, view.nowMs, entry⟩] := by
        change (if view.sendOk then ((loop.frame view.frame).2.map _).toList.map _ else []) = _
        rw [hsent, if_pos hok]
        rfl
      obtain ⟨hlast, htime⟩ := htaken hok
      rw [hreports]
      refine ⟨hreported.concat rfl (fun earlier hearlier => ?_) fun earlier hearlier hentry _ => ?_,
        fun report hreport hentry => ?_, fun report hreport _ => ?_⟩
      · refine ⟨nofun, hmode earlier hearlier, fun _ hsame => ?_⟩
        obtain ⟨packet, _, _⟩ := earlier
        cases packet <;> cases hsame
      · exact hdue earlier (hremembers earlier hearlier hentry)
      · rcases List.mem_append.mp hreport with hold | hnew
        · exact hmode report hold hentry
        · rw [List.mem_singleton.mp hnew]
          rfl
      · rw [List.getLast?_concat] at hreport
        cases hreport
        exact ⟨state, hlast, rfl, htime⟩
    · exact hnothing (if_neg hok) (hfailed (Bool.eq_false_iff.mpr hok))

/-- A frame of the light mode. -/
theorem Staying.light (hreported : Reported sent entry) {loop : LightLoop}
    (hstaying : Staying sent entry (.light loop)) (center : Option (ℕ × ℕ)) (nowMs : ℤ)
    (sendOk : Bool) :
    let out := loop.frame center nowMs
    let reports := if sendOk then
      out.2.toList.map fun packet => (⟨packet, nowMs, entry⟩ : Report) else []
    Reported (sent ++ reports) entry ∧ Staying (sent ++ reports) entry (.light out.1) := by
  intro out reports
  obtain ⟨hmode, hremembers⟩ := hstaying
  obtain ⟨hcovers, hsent⟩ := loop.frame_spec center nowMs entry
  have hnothing (hnone : reports = []) :
      Reported (sent ++ reports) entry ∧ Staying (sent ++ reports) entry (.light out.1) := by
    rw [hnone, List.append_nil]
    exact ⟨hreported, hmode, fun report hreport hentry =>
      hcovers report (hremembers report hreport hentry)⟩
  by_cases hok : sendOk = true
  · cases hpacket : out.2 with
    | none =>
        apply hnothing
        change (if sendOk then out.2.toList.map _ else []) = []
        rw [hpacket]
        exact ite_self _
    | some packet =>
        have hreports : reports = [⟨packet, nowMs, entry⟩] := by
          change (if sendOk then out.2.toList.map _ else []) = _
          rw [hpacket, if_pos hok]
          rfl
        obtain ⟨hlight, hcovered, hdue⟩ := hsent packet hpacket
        rw [hreports]
        refine ⟨hreported.concat rfl (fun earlier hearlier => ?_) fun _ _ _ hplant => ?_,
          fun report hreport hentry => ?_, fun report hreport hentry => ?_⟩
        · refine ⟨by rw [hlight]; nofun, fun hentry => ?_, fun hentry hsame => ?_⟩
          · exact (hmode earlier hearlier hentry).trans hlight.symm
          · exact hdue earlier (hremembers earlier hearlier hentry) hsame
        · rw [hlight] at hplant
          cases hplant
        · rcases List.mem_append.mp hreport with hold | hnew
          · exact hmode report hold hentry
          · rw [List.mem_singleton.mp hnew]
            exact hlight
        · rcases List.mem_append.mp hreport with hold | hnew
          · exact hcovers report (hremembers report hold hentry)
          · rw [List.mem_singleton.mp hnew]
            exact hcovered
  · exact hnothing (if_neg hok)

end Frame

/-- The plant type is the first report, in the stay before any mode. -/
theorem paced_select {s : Script} (hsent : s.sent = []) (code : PlantCode) (nowMs : ℤ)
    (sendOk : Bool) (mode : Mode) :
    Paced ((s.send (some (.plantType code)) nowMs sendOk).enter mode) := by
  apply Paced.enter
  change Reported (s.sent ++ if sendOk then [⟨.plantType code, nowMs, s.entry⟩] else []) s.entry
  rw [hsent, List.nil_append]
  split
  · exact ⟨List.pairwise_singleton _ _, List.isChain_singleton _, fun report hreport =>
      (congrArg Report.entry (List.mem_singleton.mp hreport)).le⟩
  · exact ⟨List.Pairwise.nil, List.IsChain.nil, nofun⟩

theorem paced_invariant (width height : ℕ) : (scriptSystem width height).Invariant Paced where
  init := ⟨⟨List.Pairwise.nil, List.IsChain.nil, nofun⟩, rfl⟩
  step s event hpaced := by
    obtain ⟨phase, entry, sent⟩ := s
    obtain ⟨hreported, hphase⟩ := hpaced
    cases phase with
    | selecting selection =>
        cases event with
        | poll | frame => exact ⟨hreported, hphase⟩
        | touch tp nowMs nowMs' sendOk =>
            have hstart : (Script.mk (.selecting selection) entry sent).phase =
                .selecting selection := rfl
            change Paced (Script.step _ (.touch tp nowMs nowMs' sendOk : ScriptEvent width height))
            obtain ⟨code, -, hstep⟩ | hstep := Script.step_touch hstart tp nowMs nowMs' sendOk
            · rw [hstep]
              exact paced_select hphase _ _ _ _
            · rw [hstep]
              exact ⟨hreported, hphase⟩
    | running loop point =>
        cases event with
        | touch => exact ⟨hreported, hphase⟩
        | poll recvCode =>
            have hstart : (Script.mk (.running loop point) entry sent).phase =
                .running loop point := rfl
            change Paced (Script.step _ (.poll recvCode))
            rw [Script.step_poll hstart]
            split
            · exact ⟨hreported, hphase⟩
            · cases recvCode with
              | some mode => exact Paced.enter hreported _
              | none => exact ⟨hreported, hphase⟩
        | frame view =>
            cases point with
            | started | captured | examined | shown => exact ⟨hreported, hphase⟩
            | reporting =>
                cases loop with
                | plant loop => exact Staying.plant hreported hphase view
                | light loop =>
                    exact Staying.light hreported hphase view.center view.nowMs view.sendOk

/-- In every run of the script, whatever is touched, polled and seen: the plant
type is sent before anything else and once; what is sent between two changes of
the mode belongs to one mode; light packets of one kind are a tenth of a second
apart, and a leaf state is repeated after a fifth of a second at the earliest. -/
theorem script_paces {width height : ℕ} (events : List (ScriptEvent width height)) :
    let sent := ((scriptSystem width height).run events).sent
    (sent.Pairwise fun earlier later => (∀ code, later.packet ≠ .plantType code) ∧
      (earlier.entry = later.entry → earlier.packet.mode = later.packet.mode ∧
        (SameLight earlier.packet later.packet → earlier.nowMs + lightSendMs ≤ later.nowMs))) ∧
      sent.IsChain Fresh := by
  intro sent
  obtain ⟨hreported, -⟩ := (paced_invariant width height).run events
  refine ⟨hreported.spaced.imp fun {_ later} hspaced => ?_, hreported.fresh⟩
  refine ⟨fun code hcode => hspaced.later_mode ?_, fun hentry =>
    ⟨hspaced.same_mode hentry, hspaced.light hentry⟩⟩
  rw [hcode]
  rfl

end PlantAssistant.Vision
