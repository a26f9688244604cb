import PlantAssistant.Firmware.ReceiveThread
import PlantAssistant.Link.PanelCommands

/-! # From the wire to the handler

Interrupts and the receive thread share a small ring and a counting semaphore.
Whatever the order of their steps, the thread is handed the bytes of the wire in
order, it loses bytes exactly when an interrupt overruns the ring, and it never
sleeps on a byte it was told about.
-/

namespace PlantAssistant.Link

open Framing Transition PlantAssistant.Firmware PlantAssistant.Panel

/-- What arrives with an event. -/
def arrived : PortEvent → List UInt8
  | .interrupt bytes => bytes
  | _ => []

/-- What arrives during a run. -/
def wire (events : List PortEvent) : List UInt8 := events.flatMap arrived

section Stream

variable {τ : Type*}

/-- What has been received but not handed over. -/
def undelivered (s : PortState τ) : List UInt8 := s.position.inHand ++ s.fifo.content

/-- How many bytes an event pushes out of the ring. -/
def overrun (s : PortState τ) (event : PortEvent) : ℕ :=
  s.fifo.content.length + (arrived event).length - (serialRbBufsz - 1)

/-- The ring has room for what arrives. -/
def Stores (s : PortState τ) (event : PortEvent) : Prop :=
  s.fifo.content.length + (arrived event).length < serialRbBufsz

instance (s : PortState τ) (event : PortEvent) : Decidable (Stores s event) :=
  inferInstanceAs (Decidable (_ < _))

theorem overrun_eq_zero_iff (s : PortState τ) (event : PortEvent) :
    overrun s event = 0 ↔ Stores s event := by
  have : serialRbBufsz = 64 := rfl
  unfold overrun Stores
  omega

/-- A thread step that takes a byte has not yet read `limit` of them. -/
def ReadsUpTo (limit : ℕ) (s : PortState τ) (event : PortEvent) : Prop :=
  event = .schedule → s.fifo.content ≠ [] → s.position.inHand.length < limit

instance (limit : ℕ) (s : PortState τ) (event : PortEvent) : Decidable (ReadsUpTo limit s event) :=
  inferInstanceAs (Decidable (_ → _))

end Stream

/-! ## Reads

A loop body that only keeps what it reads says everything about the others.
-/

def keepRead (reads : List (List UInt8)) (data : List UInt8) : List (List UInt8) := reads ++ [data]

def readLog : System (PortState (List (List UInt8))) PortEvent := portSystem keepRead []

/-- Everything received so far. -/
def received (s : PortState (List (List UInt8))) : List UInt8 := s.receiver.flatten ++ undelivered s

theorem received_step {s : PortState (List (List UInt8))} (hs : s.Consistent) (event : PortEvent) :
    received (readLog.step s event) =
      s.receiver.flatten ++ (s.position.inHand ++
        (s.fifo.content ++ arrived event).drop (overrun s event)) := by
  have hlength := s.fifo.length_content_lt
  have hstill (hnone : arrived event = []) :
      (s.fifo.content ++ arrived event).drop (overrun s event) = s.fifo.content := by
    rw [overrun, hnone, List.append_nil, List.length_nil, Nat.sub_eq_zero_of_le (by omega),
      List.drop_zero]
  cases event with
  | setRxIndicate =>
      rw [hstill rfl]
      rfl
  | startup =>
      obtain ⟨hfifo, hreceiver, hhand⟩ := s.startup_frame keepRead
      change received (s.step keepRead .startup) = _
      rw [hstill rfl, received, undelivered, hfifo, hreceiver, hhand]
  | interrupt bytes =>
      obtain ⟨hfifo, -, hreceiver, hhand⟩ := (PortState.rtHwSerialIsr_spec bytes s).frame
      change received (s.rtHwSerialIsr bytes) = _
      rw [received, undelivered, hfifo, hreceiver, hhand]
      exact congrArg _ (congrArg _ (s.fifo.content_foldl_store bytes))
  | schedule =>
      rw [hstill rfl]
      have hspec := PortState.threadStep_spec keepRead s hs.flagged
      change received (s.threadStep keepRead) = _
      generalize s.threadStep keepRead = next at hspec ⊢
      cases hspec with
      | idle => rfl
      | take hposition | suspend hposition | leave hposition =>
          unfold received undelivered
          rw [hposition]
          rfl
      | fetch data ch fifo hposition _ hcontent =>
          unfold received undelivered
          rw [hposition, hcontent]
          simp [Position.inHand]
      | handOver data hposition =>
          unfold received undelivered
          rw [hposition]
          simp [Position.inHand, keepRead]

theorem received_step_sublist {s : PortState (List (List UInt8))} (hs : s.Consistent)
    (event : PortEvent) :
    (received (readLog.step s event)).Sublist (received s ++ arrived event) := by
  have hdrop := List.drop_sublist (overrun s event) (s.fifo.content ++ arrived event)
  rw [received_step hs, received, undelivered, List.append_assoc, List.append_assoc]
  exact (hdrop.append_left _).append_left _

theorem received_step_of_stores {s : PortState (List (List UInt8))} (hs : s.Consistent)
    {event : PortEvent} (hstores : Stores s event) :
    received (readLog.step s event) = received s ++ arrived event := by
  rw [received_step hs, (overrun_eq_zero_iff s event).mpr hstores, List.drop_zero, received,
    undelivered, List.append_assoc, List.append_assoc]

/-- Every byte that an event pushes out of the ring is missing afterwards. -/
theorem length_received_step {s : PortState (List (List UInt8))} (hs : s.Consistent)
    (event : PortEvent) :
    (received (readLog.step s event)).length + overrun s event =
      (received s).length + (arrived event).length := by
  have hle : overrun s event ≤ (s.fifo.content ++ arrived event).length := by
    rw [List.length_append]
    exact Nat.sub_le _ _
  rw [received_step hs, received, undelivered]
  simp only [List.length_append, List.length_drop] at hle ⊢
  omega

theorem consistent_readLog : readLog.Invariant PortState.Consistent :=
  PortState.consistent_invariant _ _

theorem received_runFrom_sublist {s : PortState (List (List UInt8))} (hs : s.Consistent)
    (events : List PortEvent) :
    (received (readLog.runFrom s events)).Sublist (received s ++ wire events) := by
  induction events generalizing s with
  | nil =>
      rw [wire, List.flatMap_nil, List.append_nil]
      exact List.Sublist.refl _
  | cons event events ih =>
      have hstep := received_step_sublist hs event
      have hrest := ih (consistent_readLog.step s event hs)
      rw [System.runFrom_cons, wire, List.flatMap_cons, ← List.append_assoc]
      exact hrest.trans (hstep.append_right _)

/-- A run loses a byte exactly when one of its interrupts overruns the ring. -/
theorem received_runFrom_eq_iff {s : PortState (List (List UInt8))} (hs : s.Consistent)
    (events : List PortEvent) :
    received (readLog.runFrom s events) = received s ++ wire events ↔
      readLog.AlongFrom Stores s events := by
  induction events generalizing s with
  | nil =>
      rw [wire, List.flatMap_nil, List.append_nil]
      exact iff_of_true rfl trivial
  | cons event events ih =>
      have hnext := consistent_readLog.step s event hs
      have hwire : wire (event :: events) = arrived event ++ wire events := List.flatMap_cons
      rw [System.runFrom_cons, hwire, ← List.append_assoc, System.AlongFrom]
      constructor
      · intro heq
        have hle := (received_runFrom_sublist hnext events).length_le
        have hlength := length_received_step hs event
        rw [heq] at hle
        simp only [List.length_append] at hle
        have hstores := (overrun_eq_zero_iff s event).mp (by omega)
        refine ⟨hstores, (ih hnext).mp ?_⟩
        rw [heq, received_step_of_stores hs hstores]
      · rintro ⟨hstores, hrest⟩
        rw [(ih hnext).mpr hrest, received_step_of_stores hs hstores]

/-- No read is empty or longer than `limit`. -/
structure ReadsBounded (limit : ℕ) (s : PortState (List (List UInt8))) : Prop where
  consistent : s.Consistent
  inHand_le : s.position.inHand.length ≤ limit
  reads : ∀ data ∈ s.receiver, 0 < data.length ∧ data.length ≤ limit

theorem readsBounded_step {limit : ℕ} {s : PortState (List (List UInt8))} {event : PortEvent}
    (hs : ReadsBounded limit s)
    (hevent : event = .schedule → s.fifo.content ≠ [] → s.position.inHand.length < uartMaxLen →
      s.position.inHand.length < limit) :
    ReadsBounded limit (readLog.step s event) := by
  obtain ⟨hconsistent, hhand, hreads⟩ := hs
  have hnext := consistent_readLog.step s event hconsistent
  cases event with
  | setRxIndicate => exact ⟨hnext, hhand, hreads⟩
  | startup =>
      obtain ⟨-, hreceiver, hsame⟩ := s.startup_frame keepRead
      exact ⟨hnext, hsame ▸ hhand, hreceiver ▸ hreads⟩
  | interrupt bytes =>
      obtain ⟨-, -, hreceiver, hsame⟩ := (PortState.rtHwSerialIsr_spec bytes s).frame
      exact ⟨hnext, hsame ▸ hhand, hreceiver ▸ hreads⟩
  | schedule =>
      have hspec := PortState.threadStep_spec keepRead s hconsistent.flagged
      change PortState.Consistent (s.threadStep keepRead) at hnext
      change ReadsBounded limit (s.threadStep keepRead)
      generalize s.threadStep keepRead = next at hspec hnext ⊢
      cases hspec with
      | idle => exact ⟨hnext, hhand, hreads⟩
      | take | suspend | leave => exact ⟨hnext, Nat.zero_le _, hreads⟩
      | fetch data ch fifo hposition hroom hcontent =>
          refine ⟨hnext, ?_, hreads⟩
          rw [hposition] at hevent
          have hshort := hevent rfl (hcontent ▸ List.cons_ne_nil _ _) hroom
          change (data ++ [ch]).length ≤ limit
          rw [List.length_append, List.length_singleton]
          exact hshort
      | handOver data hposition hdata =>
          refine ⟨hnext, Nat.zero_le _, fun read hread => ?_⟩
          rcases List.mem_append.mp hread with hold | hlast
          · exact hreads read hold
          · obtain rfl := List.mem_singleton.mp hlast
            rw [hposition] at hhand
            exact ⟨hdata, hhand⟩

theorem content_step_suffix {s : PortState (List (List UInt8))} (hs : s.Consistent)
    (event : PortEvent) :
    (readLog.step s event).fifo.content <:+ s.fifo.content ++ arrived event := by
  cases event with
  | setRxIndicate => exact (List.append_nil _).symm ▸ List.suffix_refl _
  | startup =>
      change (s.step keepRead .startup).fifo.content <:+ _
      rw [(s.startup_frame keepRead).1]
      exact (List.append_nil _).symm ▸ List.suffix_refl _
  | interrupt bytes =>
      change (s.rtHwSerialIsr bytes).fifo.content <:+ _
      rw [(PortState.rtHwSerialIsr_spec bytes s).frame.1]
      exact (s.fifo.content_foldl_store bytes).symm ▸ List.drop_suffix _ _
  | schedule =>
      have hspec := PortState.threadStep_spec keepRead s hs.flagged
      change (s.threadStep keepRead).fifo.content <:+ _
      generalize s.threadStep keepRead = next at hspec ⊢
      change _ <:+ s.fifo.content ++ []
      rw [List.append_nil]
      cases hspec with
      | fetch data ch fifo _ _ hcontent => exact hcontent ▸ List.suffix_cons _ _
      | idle | take | suspend | handOver | leave => exact List.suffix_refl _

/-- What stands in the ring is the end of what arrived. -/
theorem content_runFrom_suffix {s : PortState (List (List UInt8))} (hs : s.Consistent)
    {before : List UInt8} (hbefore : s.fifo.content <:+ before) (events : List PortEvent) :
    (readLog.runFrom s events).fifo.content <:+ before ++ wire events := by
  induction events generalizing s before with
  | nil =>
      rw [wire, List.flatMap_nil, List.append_nil]
      exact hbefore
  | cons event events ih =>
      have hstep := content_step_suffix hs event
      have hlonger : s.fifo.content ++ arrived event <:+ before ++ arrived event := by
        obtain ⟨older, rfl⟩ := hbefore
        exact ⟨older, (List.append_assoc _ _ _).symm⟩
      have hrest := ih (consistent_readLog.step s event hs) (hstep.trans hlonger)
      rwa [List.append_assoc] at hrest

/-! ## Any loop body -/

variable {τ : Type*} (rxEntry : τ → List UInt8 → τ) (receiver : τ)

/-- A port is what its reads make of it. -/
theorem readLog_follows :
    readLog.Follows (portSystem rxEntry receiver)
      (PortState.map fun reads => reads.foldl rxEntry receiver) :=
  PortState.map_follows (fun reads data => List.foldl_concat rxEntry receiver data reads) []
    receiver

theorem run_eq_map (events : List PortEvent) :
    (portSystem rxEntry receiver).run events =
      (readLog.run events).map fun reads => reads.foldl rxEntry receiver :=
  ((readLog_follows rxEntry receiver).runFrom readLog.init events).symm

/-- Whatever the order of interrupts and thread steps, the loop body gets the
bytes of the wire in order, cut into reads that its buffer holds; the ring keeps
the latest of those not read yet; and nothing is missing exactly when no
interrupt overran the ring. -/
theorem receive_stream (events : List PortEvent) :
    ∃ reads : List (List UInt8),
      ((portSystem rxEntry receiver).run events).receiver = reads.foldl rxEntry receiver ∧
      (∀ data ∈ reads, 0 < data.length ∧ data.length ≤ uartMaxLen) ∧
      (reads.flatten ++ undelivered ((portSystem rxEntry receiver).run events)).Sublist
        (wire events) ∧
      ((portSystem rxEntry receiver).run events).fifo.content <:+ wire events ∧
      (reads.flatten ++ undelivered ((portSystem rxEntry receiver).run events) = wire events ↔
        (portSystem rxEntry receiver).Along Stores events) := by
  have hinit : readLog.init.Consistent := consistent_readLog.init
  have hbounded : ReadsBounded uartMaxLen (readLog.run events) := by
    have hinv : readLog.Invariant (ReadsBounded uartMaxLen) :=
      { init := ⟨hinit, Nat.zero_le _, fun data hdata => by cases hdata⟩
        step := fun s event hs => readsBounded_step hs fun _ _ hroom => hroom }
    exact hinv.run events
  have halong := (readLog_follows rxEntry receiver).alongFrom Stores readLog.init events
  refine ⟨(readLog.run events).receiver, ?_, hbounded.reads, ?_⟩
  · rw [run_eq_map]
    rfl
  · rw [run_eq_map]
    exact ⟨received_runFrom_sublist hinit events,
      content_runFrom_suffix hinit (List.suffix_refl []) events,
      (received_runFrom_eq_iff hinit events).trans halong.symm⟩

/-! ## Sleeping and waking -/

/-- The interrupt calls the thread, and has done so for every byte that waits:
the thread is reading, or has a semaphore to take. -/
def Awake (s : PortState τ) : Prop :=
  s.rxIndicate = true ∧
    ((∃ data, s.position = .reading data) ∨ s.fifo.content = [] ∨ 0 < s.semValue)

theorem awake_interrupt (s : PortState τ) (bytes : List UInt8) (hindicate : s.rxIndicate = true) :
    Awake (s.rtHwSerialIsr bytes) := by
  have hspec := PortState.rtHwSerialIsr_spec bytes s
  generalize s.rtHwSerialIsr bytes = next at hspec ⊢
  refine ⟨hspec.frame.2.1.trans hindicate, ?_⟩
  cases hspec with
  | silent hsilent => exact .inr (.inl (hsilent hindicate))
  | wake => exact .inl ⟨[], rfl⟩
  | count => exact .inr (.inr (Nat.succ_pos _))
  | saturated _ _ hvalue => exact .inr (.inr (Nat.lt_of_lt_of_le (by decide) hvalue))

theorem awake_threadStep {s : PortState τ} (hs : s.Consistent) (hawake : Awake s) :
    Awake (s.threadStep rxEntry) := by
  obtain ⟨hindicate, hwaits⟩ := hawake
  have hspec := PortState.threadStep_spec rxEntry s hs.flagged
  generalize s.threadStep rxEntry = next at hspec ⊢
  cases hspec with
  | idle => exact ⟨hindicate, hwaits⟩
  | take | fetch | handOver => exact ⟨hindicate, .inl ⟨_, rfl⟩⟩
  | suspend hposition hvalue =>
      refine ⟨hindicate, .inr (.inl ?_)⟩
      rcases hwaits with ⟨data, hreading⟩ | hempty | hpositive
      · rw [hposition] at hreading
        cases hreading
      · exact hempty
      · exact absurd hvalue (Nat.ne_of_gt hpositive)
  | leave _ hcontent => exact ⟨hindicate, .inr (.inl hcontent)⟩

theorem awake_step {s : PortState τ} (hs : s.Consistent) (hawake : Awake s) (event : PortEvent) :
    Awake (s.step rxEntry event) := by
  cases event with
  | setRxIndicate => exact ⟨rfl, hawake.2⟩
  | startup =>
      unfold PortState.step
      simp only
      split
      next hposition =>
        obtain ⟨hindicate, ⟨data, hreading⟩ | hwaits⟩ := hawake
        · rw [hposition] at hreading
          cases hreading
        · exact ⟨hindicate, .inr hwaits⟩
      next => exact hawake
  | interrupt bytes => exact awake_interrupt s bytes hawake.1
  | schedule => exact awake_threadStep rxEntry hs hawake

/-- Bounds what is left for the thread to do: two steps for each byte and for
each semaphore, and those that close a read. -/
def work (s : PortState τ) : ℕ :=
  2 * s.fifo.content.length + 2 * s.semValue +
    match s.position with
    | .unstarted => 1
    | .taking => 1
    | .suspended => 0
    | .reading data => if data = [] then 2 else 3

theorem empty_of_suspended {s : PortState τ} (hs : s.Consistent) (hawake : Awake s)
    (hposition : s.position = .suspended) : s.fifo.content = [] ∧ s.semValue = 0 := by
  have hvalue := hs.semValue_eq hposition
  obtain ⟨-, ⟨data, hreading⟩ | hempty | hpositive⟩ := hawake
  · rw [hposition] at hreading
    cases hreading
  · exact ⟨hempty, hvalue⟩
  · exact absurd hvalue (Nat.ne_of_gt hpositive)

theorem work_threadStep {s : PortState τ} (hs : s.Consistent)
    (hstarted : s.position ≠ .unstarted) (hrunning : s.position ≠ .suspended) :
    work (s.threadStep rxEntry) < work s := by
  have hspec := PortState.threadStep_spec rxEntry s hs.flagged
  generalize s.threadStep rxEntry = next at hspec ⊢
  cases hspec with
  | idle hposition => exact absurd hposition (not_or.mpr ⟨hstarted, hrunning⟩)
  | take hposition hvalue =>
      simp only [work, hposition, if_true]
      omega
  | suspend hposition =>
      simp only [work, hposition]
      omega
  | fetch data ch fifo hposition _ hcontent =>
      have hlonger : data ++ [ch] ≠ [] :=
        List.append_ne_nil_of_right_ne_nil _ (List.cons_ne_nil _ _)
      simp only [work, hposition, hcontent, List.length_cons, if_neg hlonger]
      split <;> omega
  | handOver data hposition hdata =>
      have hfull : data ≠ [] := List.length_pos_iff.mp hdata
      simp only [work, hposition, if_true, if_neg hfull]
      omega
  | leave hposition =>
      simp only [work, hposition, if_true]
      omega

/-- The port is open: the callback is set and the thread runs. -/
structure Running (s : PortState τ) : Prop where
  consistent : s.Consistent
  indicate : s.rxIndicate = true
  started : s.position ≠ .unstarted

theorem step_indicate {s : PortState τ} (hs : s.Consistent) {event : PortEvent}
    (hindicate : s.rxIndicate = true ∨ event = .setRxIndicate) :
    (s.step rxEntry event).rxIndicate = true := by
  cases event with
  | setRxIndicate => rfl
  | startup =>
      have hsame := hindicate.resolve_right fun hevent => nomatch hevent
      unfold PortState.step
      simp only
      split <;> exact hsame
  | interrupt bytes =>
      have hsame := hindicate.resolve_right fun hevent => nomatch hevent
      exact (PortState.rtHwSerialIsr_spec bytes s).frame.2.1.trans hsame
  | schedule =>
      have hsame := hindicate.resolve_right fun hevent => nomatch hevent
      have hspec := PortState.threadStep_spec rxEntry s hs.flagged
      change (s.threadStep rxEntry).rxIndicate = true
      generalize s.threadStep rxEntry = next at hspec ⊢
      cases hspec with
      | idle | take | suspend | fetch | handOver | leave => exact hsame

theorem step_started {s : PortState τ} (hs : s.Consistent) {event : PortEvent}
    (hstarted : s.position ≠ .unstarted ∨ event = .startup) :
    (s.step rxEntry event).position ≠ .unstarted := by
  cases event with
  | setRxIndicate => exact hstarted.resolve_right fun hevent => nomatch hevent
  | startup =>
      unfold PortState.step
      simp only
      split
      next => exact fun hposition => nomatch hposition
      next hposition => exact hposition
  | interrupt bytes =>
      have hsame := hstarted.resolve_right fun hevent => nomatch hevent
      have hspec := PortState.rtHwSerialIsr_spec bytes s
      change (s.rtHwSerialIsr bytes).position ≠ .unstarted
      generalize s.rtHwSerialIsr bytes = next at hspec ⊢
      cases hspec with
      | wake => exact fun hposition => nomatch hposition
      | silent | count | saturated => exact hsame
  | schedule =>
      have hsame := hstarted.resolve_right fun hevent => nomatch hevent
      have hspec := PortState.threadStep_spec rxEntry s hs.flagged
      change (s.threadStep rxEntry).position ≠ .unstarted
      generalize s.threadStep rxEntry = next at hspec ⊢
      cases hspec with
      | idle => exact hsame
      | take | suspend | fetch | handOver | leave => exact fun hposition => nomatch hposition

/-- A port that was opened stays open. -/
theorem running_runFrom {s : PortState τ} (hs : s.Consistent) {events : List PortEvent}
    (hindicate : s.rxIndicate = true ∨ .setRxIndicate ∈ events)
    (hstarted : s.position ≠ .unstarted ∨ .startup ∈ events) :
    Running ((portSystem rxEntry receiver).runFrom s events) := by
  induction events generalizing s with
  | nil => exact ⟨hs, hindicate.resolve_right List.not_mem_nil,
      hstarted.resolve_right List.not_mem_nil⟩
  | cons event events ih =>
      rw [List.mem_cons, ← or_assoc] at hindicate hstarted
      refine ih (PortState.consistent_step rxEntry s event hs)
        (hindicate.imp_left fun h => ?_) (hstarted.imp_left fun h => ?_)
      · exact step_indicate rxEntry hs (h.imp_right Eq.symm)
      · exact step_started rxEntry hs (h.imp_right Eq.symm)

theorem Running.step {s : PortState τ} (hs : Running s) (event : PortEvent) :
    Running (s.step rxEntry event) where
  consistent := PortState.consistent_step rxEntry s event hs.consistent
  indicate := step_indicate rxEntry hs.consistent (.inl hs.indicate)
  started := step_started rxEntry hs.consistent (.inl hs.started)

/-- Left alone, the thread reads all there is and goes to sleep. -/
theorem runFrom_schedule {s : PortState τ} (hs : Running s) (hawake : Awake s) {steps : ℕ}
    (hsteps : work s ≤ steps) :
    let rest := (portSystem rxEntry receiver).runFrom s (List.replicate steps .schedule)
    rest.position = .suspended ∧ rest.fifo.content = [] ∧ rest.semValue = 0 := by
  induction steps generalizing s with
  | zero =>
      have hsuspended : s.position = .suspended := by
        by_contra hrunning
        have hless := work_threadStep rxEntry hs.consistent hs.started hrunning
        omega
      exact ⟨hsuspended, empty_of_suspended hs.consistent hawake hsuspended⟩
  | succ steps ih =>
      rw [List.replicate_succ, System.runFrom_cons]
      refine ih (hs.step rxEntry .schedule) (awake_threadStep rxEntry hs.consistent hawake) ?_
      change work (s.threadStep rxEntry) ≤ steps
      by_cases hrunning : s.position = .suspended
      · -- a sleeping thread has nothing left to do
        obtain ⟨hempty, hvalue⟩ := empty_of_suspended hs.consistent hawake hrunning
        have hidle : s.threadStep rxEntry = s := by simp only [PortState.threadStep, hrunning]
        rw [hidle, work, hempty, hvalue, hrunning]
        exact Nat.zero_le _
      · have hless := work_threadStep rxEntry hs.consistent hs.started hrunning
        omega

theorem runFrom_awake {s : PortState τ} (hs : Running s) (hawake : Awake s)
    (events : List PortEvent) : Awake ((portSystem rxEntry receiver).runFrom s events) := by
  induction events generalizing s with
  | nil => exact hawake
  | cons event events ih =>
      exact ih (hs.step rxEntry event) (awake_step rxEntry hs.consistent hawake event)

/-- Once the port is open, any interrupt makes sure that no byte is slept on
afterwards, also of those that came before the callback was set: the thread never
sleeps on a filled ring, and when it gets its turn it reads everything. -/
theorem receive_thread_drains (early late : List PortEvent) (bytes : List UInt8) (steps : ℕ)
    (hindicate : .setRxIndicate ∈ early) (hstarted : .startup ∈ early)
    (hsteps : work ((portSystem rxEntry receiver).run (early ++ .interrupt bytes :: late)) ≤ steps) :
    let s := (portSystem rxEntry receiver).run (early ++ .interrupt bytes :: late)
    let rest := (portSystem rxEntry receiver).runFrom s (List.replicate steps .schedule)
    (s.position = .suspended → s.fifo.content = []) ∧
      rest.position = .suspended ∧ rest.fifo.content = [] ∧ rest.semValue = 0 := by
  have hearly : Running ((portSystem rxEntry receiver).run early) :=
    running_runFrom rxEntry receiver (PortState.consistent_invariant rxEntry receiver).init
      (.inr hindicate) (.inr hstarted)
  have hinterrupt := awake_interrupt ((portSystem rxEntry receiver).run early) bytes hearly.indicate
  have hnext := hearly.step rxEntry (.interrupt bytes)
  have hawake := runFrom_awake rxEntry receiver hnext hinterrupt late
  intro s rest
  have hs : s = (portSystem rxEntry receiver).runFrom
      (((portSystem rxEntry receiver).run early).step rxEntry (.interrupt bytes)) late :=
    System.run_append _ _ _
  rw [← hs] at hawake
  have hrunning : Running s :=
    hs ▸ running_runFrom rxEntry receiver hnext.consistent (.inl hnext.indicate)
      (.inl hnext.started)
  exact ⟨fun hposition => (empty_of_suspended hrunning.consistent hawake hposition).1,
    runFrom_schedule rxEntry receiver hrunning hawake hsteps⟩

/-- A byte from before the callback was set is read with the first one after it. -/
theorem receive_thread_drains_early_byte :
    let opening : List PortEvent := [.interrupt [0x01], .setRxIndicate, .startup, .schedule]
    let s := readLog.run (opening ++ .interrupt [0x02] :: [.schedule])
    let rest := readLog.runFrom s (List.replicate 7 .schedule)
    (s.position = .suspended → s.fifo.content = []) ∧
      rest.position = .suspended ∧ rest.fifo.content = [] ∧ rest.semValue = 0 :=
  receive_thread_drains keepRead [] [.interrupt [0x01], .setRxIndicate, .startup, .schedule]
    [.schedule] [0x02] 7 (by decide) (by decide) (by decide)

/-! ## A port and what is sent to it -/

/-- Every byte is stored and no read takes more than `limit`. -/
def Paced (limit : ℕ) (s : PortState τ) (event : PortEvent) : Prop :=
  Stores s event ∧ ReadsUpTo limit s event

instance (limit : ℕ) (s : PortState τ) (event : PortEvent) : Decidable (Paced limit s event) :=
  inferInstanceAs (Decidable (_ ∧ _))

/-- The events of a run in which the port is opened and then left to `events`,
and at last to its thread. -/
def session (events : List PortEvent) (steps : ℕ) : List PortEvent :=
  [.setRxIndicate, .startup] ++ (events ++ List.replicate steps .schedule)

theorem wire_append (first second : List PortEvent) :
    wire (first ++ second) = wire first ++ wire second :=
  List.flatMap_append

theorem wire_session (events : List PortEvent) (steps : ℕ) :
    wire (session events steps) = wire events := by
  have hidle : wire (List.replicate steps .schedule) = [] := by
    rw [wire, List.flatMap_eq_nil_iff]
    intro event hevent
    rw [List.eq_of_mem_replicate hevent]
    rfl
  rw [session, wire_append, wire_append, hidle, List.append_nil]
  rfl

/-- In a paced run that ends with enough thread steps the loop body has been
given the whole wire, in reads of at most `limit`. -/
theorem run_session {limit : ℕ} (events : List PortEvent) (steps : ℕ)
    (hpaced : (portSystem rxEntry receiver).Along (Paced limit) (session events steps))
    (hsteps : work ((portSystem rxEntry receiver).run ([.setRxIndicate, .startup] ++ events)) ≤
      steps) :
    ∃ reads : List (List UInt8),
      ((portSystem rxEntry receiver).run (session events steps)).receiver =
        reads.foldl rxEntry receiver ∧
      reads.flatten = wire events ∧ ∀ data ∈ reads, data.length ≤ limit := by
  have hinit : readLog.init.Consistent := consistent_readLog.init
  have hlog : readLog.AlongFrom (Paced limit) readLog.init (session events steps) :=
    ((readLog_follows rxEntry receiver).alongFrom (Paced limit) _ _).mp hpaced
  -- everything is stored, so what is received is the wire
  have hreceived := (received_runFrom_eq_iff hinit (session events steps)).mpr
    (hlog.imp fun _ _ => And.left)
  rw [wire_session] at hreceived
  -- the thread ends asleep, so what is received has been read
  have hopen : Running ((portSystem rxEntry receiver).run [.setRxIndicate, .startup]) :=
    running_runFrom rxEntry receiver (PortState.consistent_invariant rxEntry receiver).init
      (.inr (by decide)) (.inr (by decide))
  have hrunning : Running ((portSystem rxEntry receiver).runFrom _ events) :=
    running_runFrom rxEntry receiver hopen.consistent (.inl hopen.indicate) (.inl hopen.started)
  have hawake := runFrom_awake rxEntry receiver hopen ⟨rfl, .inr (.inl rfl)⟩ events
  rw [← System.run_append] at hrunning hawake
  obtain ⟨hposition, hempty, -⟩ := runFrom_schedule rxEntry receiver hrunning hawake hsteps
  rw [← System.run_append, List.append_assoc] at hposition hempty
  have hrun := run_eq_map rxEntry receiver (session events steps)
  have hdelivered : undelivered (readLog.run (session events steps)) = [] := by
    have hsuspended : (readLog.run (session events steps)).position = .suspended :=
      (congrArg PortState.position hrun).symm.trans hposition
    have hnil : (readLog.run (session events steps)).fifo.content = [] :=
      (congrArg (fun s => s.fifo.content) hrun).symm.trans hempty
    rw [undelivered, hsuspended, hnil]
    rfl
  have hbounded : ReadsBounded limit (readLog.run (session events steps)) :=
    System.AlongFrom.kept (ReadsBounded limit)
      (fun s event hs hpace => readsBounded_step hs fun hevent hfilled _ => hpace.2 hevent hfilled)
      ⟨hinit, Nat.zero_le _, fun data hdata => nomatch hdata⟩ hlog
  refine ⟨(readLog.run (session events steps)).receiver, ?_, ?_, fun data hdata =>
    (hbounded.reads data hdata).2⟩
  · rw [hrun]
    rfl
  · change received (readLog.run _) = _ at hreceived
    rw [received, hdelivered, List.append_nil] at hreceived
    exact hreceived

/-- The commands that arrive on UART5 in a paced run have their effects on the
shared variables, once each and in order, however interrupts and thread steps
interleave. -/
theorem uart5_receives_commands (commands : List Command) (memory : Memory) (g : Globals)
    (events : List PortEvent) (steps : ℕ)
    (hwire : wire events = (commands.map Command.bytes).flatten)
    (hpaced : (portSystem uart5RxEntry (⟨memory, 0⟩, g)).Along
      (Paced (uartMaxLen - 8)) (session events steps))
    (hsteps : work ((portSystem uart5RxEntry (⟨memory, 0⟩, g)).run
      ([.setRxIndicate, .startup] ++ events)) ≤ steps) :
    ((portSystem uart5RxEntry (⟨memory, 0⟩, g)).run
      (session events steps)).receiver.2 = commands.foldl (fun g command => effect command g) g := by
  obtain ⟨reads, hreceiver, hflatten, hlimit⟩ := run_session _ _ events steps hpaced hsteps
  rw [hreceiver]
  refine (uart5Port.foldl_rxEntry_encoded plantSoftDataProc Command.bytes effect
    (fun command _ => framed_bytes command)
    (fun command _ data g hdata => plantSoftDataProc_bytes command data g hdata)
    (fun command _ => length_command_le command) reads memory g (fun data hdata => ?_)
    (hflatten.trans hwire)).2
  have hshort := hlimit data hdata
  have : uartMaxLen = 400 := rfl
  omega

/-- A pump command whose bytes come in two interrupts, with the thread in between. -/
theorem uart5_receives_commands_split :
    ((portSystem uart5RxEntry (⟨fun _ => 0, 0⟩, {})).run
      (session [.interrupt [0xAA, 0x20], .schedule, .schedule, .interrupt [0x00, 0x55]] 12)
      ).receiver.2 = effect (.pump false) {} :=
  uart5_receives_commands [.pump false] (fun _ => 0) {}
    [.interrupt [0xAA, 0x20], .schedule, .schedule, .interrupt [0x00, 0x55]] 12 (by decide)
    (by decide) (by decide)

end PlantAssistant.Link
