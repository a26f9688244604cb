import PlantAssistant.Firmware.SerialDevice

/-! # The receive thread of a port

All receive threads have one body: take the semaphore, then read and parse until
a read finds nothing. Interrupts come between any two steps of it.
-/

namespace PlantAssistant.Firmware

open Transition

/-- Where the receive thread stands: before `rt_thread_startup`, at its
`rt_sem_take`, suspended in it, or in `rt_device_read` with the bytes read so far. -/
inductive Position where
  | unstarted
  | taking
  | suspended
  | reading (data : List UInt8)
deriving DecidableEq

/-- The bytes of the read under way. -/
def Position.inHand : Position → List UInt8
  | .reading data => data
  | _ => []

/-- What the port keeps; `receiver` stands for what the loop body works on, the
parse buffer and the variables that the handler sets. -/
structure PortState (τ : Type*) where
  fifo : RxFifo
  semValue : ℕ
  rxIndicate : Bool
  position : Position
  receiver : τ

inductive PortEvent where
  | setRxIndicate
  | startup
  | interrupt (bytes : List UInt8)
  | schedule
deriving DecidableEq

namespace PortState

variable {τ : Type*} (rxEntry : τ → List UInt8 → τ)

def rtSemRelease (s : PortState τ) : PortState τ :=
  if s.position = .suspended then { s with position := .reading [] }
  else if s.semValue < semValueMax then { s with semValue := s.semValue + 1 }
  else s

/-- `rt_hw_serial_isr` at `RT_SERIAL_EVENT_RX_IND`, with the bytes that `getc` has. -/
def rtHwSerialIsr (bytes : List UInt8) (s : PortState τ) : PortState τ :=
  let s := { s with fifo := bytes.foldl RxFifo.store s.fifo }
  if s.rxIndicate = true ∧ s.fifo.rxLength ≠ 0 then s.rtSemRelease else s

/-- Behind `rt_device_read`. -/
def afterRead (data : List UInt8) (s : PortState τ) : PortState τ :=
  if 0 < data.length then { s with receiver := rxEntry s.receiver data, position := .reading [] }
  else { s with position := .taking }

def threadStep (s : PortState τ) : PortState τ :=
  match s.position with
  | .unstarted => s
  | .suspended => s
  | .taking =>
      if 0 < s.semValue then { s with semValue := s.semValue - 1, position := .reading [] }
      else { s with position := .suspended }
  | .reading data =>
      if data.length < uartMaxLen then
        match s.fifo.fetch with
        | some (ch, fifo) => { s with fifo := fifo, position := .reading (data ++ [ch]) }
        | none => s.afterRead rxEntry data
      else s.afterRead rxEntry data

def step (s : PortState τ) : PortEvent → PortState τ
  | .setRxIndicate => { s with rxIndicate := true }
  | .startup => if s.position = .unstarted then { s with position := .taking } else s
  | .interrupt bytes => s.rtHwSerialIsr bytes
  | .schedule => s.threadStep rxEntry

/-- A device just opened. -/
def opened (receiver : τ) : PortState τ where
  fifo := {
    ring := {
      buffer := fun _ => 0
      putIndex := 0
      getIndex := 0
      putIndex_lt := by decide
      getIndex_lt := by decide }
    isFull := false }
  semValue := 0
  rxIndicate := false
  position := .unstarted
  receiver := receiver

end PortState

/-- A port whose loop body turns its variables by `rxEntry`. -/
def portSystem {τ : Type*} (rxEntry : τ → List UInt8 → τ) (receiver : τ) :
    System (PortState τ) PortEvent where
  init := PortState.opened receiver
  step := PortState.step rxEntry

namespace PortState

variable {τ : Type*} (rxEntry : τ → List UInt8 → τ)

/-! ## What a step does -/

/-- The steps of the thread. -/
inductive ThreadStep (s : PortState τ) : PortState τ → Prop where
  | idle (hposition : s.position = .unstarted ∨ s.position = .suspended) : ThreadStep s s
  | take (hposition : s.position = .taking) (hvalue : 0 < s.semValue) :
      ThreadStep s { s with semValue := s.semValue - 1, position := .reading [] }
  | suspend (hposition : s.position = .taking) (hvalue : s.semValue = 0) :
      ThreadStep s { s with position := .suspended }
  | fetch (data : List UInt8) (ch : UInt8) (fifo : RxFifo) (hposition : s.position = .reading data)
      (hroom : data.length < uartMaxLen) (hcontent : s.fifo.content = ch :: fifo.content)
      (hflag : fifo.Flagged) :
      ThreadStep s { s with fifo := fifo, position := .reading (data ++ [ch]) }
  | handOver (data : List UInt8) (hposition : s.position = .reading data) (hdata : 0 < data.length)
      (hend : s.fifo.content = [] ∨ uartMaxLen ≤ data.length) :
      ThreadStep s { s with receiver := rxEntry s.receiver data, position := .reading [] }
  | leave (hposition : s.position = .reading []) (hcontent : s.fifo.content = []) :
      ThreadStep s { s with position := .taking }

theorem threadStep_spec (s : PortState τ) (hflag : s.fifo.Flagged) :
    ThreadStep rxEntry s (s.threadStep rxEntry) := by
  cases hposition : s.position with
  | unstarted =>
      have hstep : s.threadStep rxEntry = s := by simp only [threadStep, hposition]
      rw [hstep]
      exact .idle (.inl hposition)
  | suspended =>
      have hstep : s.threadStep rxEntry = s := by simp only [threadStep, hposition]
      rw [hstep]
      exact .idle (.inr hposition)
  | taking =>
      simp only [threadStep, hposition]
      split
      next hvalue => exact .take hposition hvalue
      next hvalue => exact .suspend hposition (Nat.eq_zero_of_not_pos hvalue)
  | reading data =>
      simp only [threadStep, hposition, afterRead]
      split
      next hroom =>
        split
        next ch fifo hfetch =>
          obtain ⟨hcontent, hrest⟩ := s.fifo.content_of_fetch hflag hfetch
          exact .fetch data ch fifo hposition hroom hcontent hrest
        next hfetch =>
          have hnil := (s.fifo.fetch_eq_none_iff hflag).mp hfetch
          split
          next hdata => exact .handOver data hposition hdata (.inl hnil)
          next hdata =>
            obtain rfl : data = [] := List.eq_nil_of_length_eq_zero (Nat.eq_zero_of_not_pos hdata)
            exact .leave hposition hnil
      next hroom =>
        have hlong : uartMaxLen ≤ data.length := Nat.le_of_not_lt hroom
        have hdata : 0 < data.length := Nat.lt_of_lt_of_le (by decide) hlong
        rw [if_pos hdata]
        exact .handOver data hposition hdata (.inr hlong)

/-- What the ring holds after an interrupt. -/
def stored (bytes : List UInt8) (s : PortState τ) : RxFifo := bytes.foldl RxFifo.store s.fifo

/-- The outcomes of an interrupt. -/
inductive Interrupted (bytes : List UInt8) (s : PortState τ) : PortState τ → Prop where
  | silent (hsilent : s.rxIndicate = true → (s.stored bytes).content = []) :
      Interrupted bytes s { s with fifo := s.stored bytes }
  | wake (hindicate : s.rxIndicate = true) (hposition : s.position = .suspended) :
      Interrupted bytes s { s with fifo := s.stored bytes, position := .reading [] }
  | count (hindicate : s.rxIndicate = true) (hposition : s.position ≠ .suspended) :
      Interrupted bytes s { s with fifo := s.stored bytes, semValue := s.semValue + 1 }
  | saturated (hindicate : s.rxIndicate = true) (hposition : s.position ≠ .suspended)
      (hvalue : semValueMax ≤ s.semValue) :
      Interrupted bytes s { s with fifo := s.stored bytes }

theorem rtHwSerialIsr_spec (bytes : List UInt8) (s : PortState τ) :
    Interrupted bytes s (s.rtHwSerialIsr bytes) := by
  unfold rtHwSerialIsr
  simp only
  split
  next hrelease =>
    unfold rtSemRelease
    simp only
    split
    next hposition => exact .wake hrelease.1 hposition
    next hposition =>
      split
      next => exact .count hrelease.1 hposition
      next hvalue => exact .saturated hrelease.1 hposition (Nat.le_of_not_lt hvalue)
  next hrelease =>
    refine .silent fun hindicate => ?_
    have hlength : ¬ (s.stored bytes).rxLength ≠ 0 := fun hne => hrelease ⟨hindicate, hne⟩
    rw [RxFifo.rxLength_eq] at hlength
    exact List.eq_nil_of_length_eq_zero (Decidable.not_not.mp hlength)

theorem Interrupted.frame {bytes : List UInt8} {s next : PortState τ}
    (hnext : Interrupted bytes s next) :
    next.fifo = s.stored bytes ∧ next.rxIndicate = s.rxIndicate ∧ next.receiver = s.receiver ∧
      next.position.inHand = s.position.inHand := by
  cases hnext with
  | silent | count | saturated => exact ⟨rfl, rfl, rfl, rfl⟩
  | wake _ hposition =>
      rw [hposition]
      exact ⟨rfl, rfl, rfl, rfl⟩

/-- Starting the thread touches nothing but its position. -/
theorem startup_frame (s : PortState τ) :
    (s.step rxEntry .startup).fifo = s.fifo ∧
      (s.step rxEntry .startup).receiver = s.receiver ∧
      (s.step rxEntry .startup).position.inHand = s.position.inHand := by
  unfold step
  simp only
  split
  next hposition =>
    rw [hposition]
    exact ⟨rfl, rfl, rfl⟩
  next => exact ⟨rfl, rfl, rfl⟩

/-! ## What every state keeps -/

/-- The flag of the ring is not up without reason, no read is longer than its
buffer, and a suspended thread has left the semaphore at zero. -/
structure Consistent (s : PortState τ) : Prop where
  flagged : s.fifo.Flagged
  inHand_le : s.position.inHand.length ≤ uartMaxLen
  semValue_eq : s.position = .suspended → s.semValue = 0

theorem Interrupted.consistent {bytes : List UInt8} {s next : PortState τ}
    (hnext : Interrupted bytes s next) (hs : s.Consistent) : next.Consistent := by
  have hflag := s.fifo.flagged_foldl_store bytes hs.flagged
  cases hnext with
  | silent | saturated => exact ⟨hflag, hs.inHand_le, hs.semValue_eq⟩
  | wake => exact ⟨hflag, Nat.zero_le _, fun hposition => by cases hposition⟩
  | count _ hposition => exact ⟨hflag, hs.inHand_le, fun hsuspended => absurd hsuspended hposition⟩

theorem ThreadStep.consistent {rxEntry : τ → List UInt8 → τ} {s next : PortState τ}
    (hnext : ThreadStep rxEntry s next) (hs : s.Consistent) : next.Consistent := by
  cases hnext with
  | idle => exact hs
  | take | leave | handOver =>
      exact ⟨hs.flagged, Nat.zero_le _, fun hposition => by cases hposition⟩
  | suspend _ hvalue => exact ⟨hs.flagged, Nat.zero_le _, fun _ => hvalue⟩
  | fetch data ch fifo _ hroom _ hflag =>
      refine ⟨hflag, ?_, fun hposition => by cases hposition⟩
      change (data ++ [ch]).length ≤ uartMaxLen
      rw [List.length_append, List.length_singleton]
      exact hroom

theorem consistent_step (s : PortState τ) (event : PortEvent) (hs : s.Consistent) :
    (s.step rxEntry event).Consistent := by
  cases event with
  | setRxIndicate => exact ⟨hs.flagged, hs.inHand_le, hs.semValue_eq⟩
  | startup =>
      unfold step
      simp only
      split
      next => exact ⟨hs.flagged, Nat.zero_le _, fun hposition => by cases hposition⟩
      next => exact hs
  | interrupt bytes => exact (rtHwSerialIsr_spec bytes s).consistent hs
  | schedule => exact (threadStep_spec rxEntry s hs.flagged).consistent hs

theorem consistent_invariant (receiver : τ) :
    (portSystem rxEntry receiver).Invariant Consistent where
  init := {
    flagged := fun hup => nomatch hup
    inHand_le := Nat.zero_le _
    semValue_eq := fun hposition => nomatch hposition }
  step := consistent_step rxEntry

/-! ## Loop bodies that follow each other -/

/-- The same port with its variables seen through `f`. -/
def map {τ' : Type*} (f : τ → τ') (s : PortState τ) : PortState τ' where
  fifo := s.fifo
  semValue := s.semValue
  rxIndicate := s.rxIndicate
  position := s.position
  receiver := f s.receiver

section Map

variable {τ' : Type*} {f : τ → τ'} {rxEntry : τ → List UInt8 → τ} {rxEntry' : τ' → List UInt8 → τ'}

theorem map_rtHwSerialIsr (bytes : List UInt8) (s : PortState τ) :
    (s.rtHwSerialIsr bytes).map f = (s.map f).rtHwSerialIsr bytes := by
  have hrelease (s : PortState τ) : s.rtSemRelease.map f = (s.map f).rtSemRelease := by
    unfold rtSemRelease
    rw [apply_ite (map f), apply_ite (map f)]
    rfl
  unfold rtHwSerialIsr
  simp only
  rw [apply_ite (map f), hrelease]
  rfl

theorem map_threadStep (hfollow : ∀ receiver data,
    f (rxEntry receiver data) = rxEntry' (f receiver) data) (s : PortState τ) :
    (s.threadStep rxEntry).map f = (s.map f).threadStep rxEntry' := by
  have hafter (data : List UInt8) :
      (s.afterRead rxEntry data).map f = (s.map f).afterRead rxEntry' data := by
    unfold afterRead
    rw [apply_ite (map f)]
    simp only [map, hfollow]
  have hposition : (s.map f).position = s.position := rfl
  unfold threadStep
  rw [hposition]
  cases s.position with
  | unstarted => rfl
  | suspended => rfl
  | taking => exact apply_ite (map f) _ _ _
  | reading data =>
      have hfifo : (s.map f).fifo = s.fifo := rfl
      simp only [hfifo]
      rw [apply_ite (map f), hafter]
      cases s.fifo.fetch with
      | none => rw [hafter]
      | some pair => rfl

/-- A loop body that follows another one makes its port follow the other. -/
theorem map_follows (hfollow : ∀ receiver data,
    f (rxEntry receiver data) = rxEntry' (f receiver) data) (receiver : τ) (receiver' : τ') :
    (portSystem rxEntry receiver).Follows (portSystem rxEntry' receiver') (map f) := by
  intro s event
  cases event with
  | setRxIndicate => rfl
  | startup => exact apply_ite (map f) _ _ _
  | interrupt bytes => exact map_rtHwSerialIsr bytes s
  | schedule => exact map_threadStep hfollow s

end Map

end PortState

end PlantAssistant.Firmware
