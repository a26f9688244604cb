import PlantAssistant.Climate.Capture
import PlantAssistant.Transition.Run

/-! # The sensor driver under any edges and ticks

Edges and ticks arrive in any order and at any time. An observer keeps the bits
stored since the capture was last reset, and the capture that was published
last; neither influences the driver.
-/

namespace PlantAssistant.Climate

open Transition PlantAssistant.Firmware

inductive Event where
  | edge (gpioPin : UInt16) (level : Bool) (nowCycle : UInt32)
  | tick
deriving DecidableEq, Repr

structure Observed (F : Type) where
  driver : Dht11 F
  bits : List Bool
  published : Option (List Bool)

variable {F : Type}

/-- Making a request and releasing the line both start the capture anew. -/
def Restarts (s next : Dht11 F) : Prop :=
  next.dht11State ≠ s.dht11State ∧
    (next.dht11State = .startLow ∨ next.dht11State = .waitFrame)

instance (s next : Dht11 F) : Decidable (Restarts s next) :=
  inferInstanceAs (Decidable (_ ∧ _))

theorem not_restarts_of_idle {s next : Dht11 F} (hidle : next.dht11State = .idle) :
    ¬ Restarts s next := by
  simp [Restarts, hidle]

section Driver

variable [CFloat F]

def Observed.step (o : Observed F) : Event → Observed F
  | .edge gpioPin level nowCycle =>
      { o with
        driver := o.driver.extiCallback gpioPin level nowCycle
        bits := o.bits ++ (storedBit o.driver gpioPin level nowCycle).toList }
  | .tick =>
      { driver := o.driver.task10ms
        bits := if Restarts o.driver o.driver.task10ms then [] else o.bits
        published :=
          if o.driver.frameDone = true ∧ ChecksumValid o.driver.frameBytes then some o.bits
          else o.published }

/-- The driver from `DHT11_Init` on. -/
def driverSystem (F : Type) [CFloat F] (systemCoreClock : UInt32) : System (Observed F) Event where
  init := { driver := Dht11.statics.init systemCoreClock, bits := [], published := none }
  step := Observed.step

/-! ## What a tick can do -/

/-- A tick ends a frame, counts down, makes a request or listens. -/
theorem task10ms_cases (s : Dht11 F) :
    s.frameDone = true ∧ s.task10ms = Dht11.processFrame { s with frameDone := false } ∨
    s.frameDone = false ∧ s.frameError = true ∧
      s.task10ms = Dht11.handleFailedFrame { s with frameError := false } ∨
    s.frameDone = false ∧ s.frameError = false ∧
      (s.task10ms = { s with stateTicks := s.stateTicks - 1 } ∧
          (s.dht11State = .waitFrame → 0 < s.stateTicks) ∨
        s.task10ms = s.startRequest ∧ s.dht11State ≠ .waitFrame ∧ s.dht11State ≠ .startLow ∨
        (∃ ticks, s.task10ms = Dht11.releaseAndListen { s with stateTicks := ticks }) ∧
          s.dht11State = .startLow ∨
        s.task10ms = s.handleFailedFrame ∧ s.dht11State = .waitFrame ∧ s.stateTicks = 0) := by
  unfold Dht11.task10ms
  by_cases hdone : s.frameDone = true
  case pos => exact .inl ⟨hdone, if_pos hdone⟩
  by_cases herror : s.frameError = true
  case pos => exact .inr (.inl ⟨by simpa using hdone, herror, by simp [hdone, herror]⟩)
  refine .inr (.inr ⟨by simpa using hdone, by simpa using herror, ?_⟩)
  rw [if_neg hdone, if_neg herror]
  cases hstate : s.dht11State with
  | powerupWait | idle =>
      by_cases hticks : 0 < s.stateTicks
      · exact .inl ⟨by simp [hticks], by simp⟩
      · exact .inr (.inl ⟨by simp [hticks], by simp, by simp⟩)
  | startLow =>
      by_cases hticks : s.stateTicks - 1 = 0
      · refine .inr (.inr (.inl ⟨⟨s.stateTicks - 1, ?_⟩, rfl⟩))
        by_cases hpos : 0 < s.stateTicks
        · simp [hpos, hticks]
        · obtain hzero : s.stateTicks = 0 := by omega
          simp only [hzero, Nat.lt_irrefl, ↓reduceIte]
          rfl
      · have hpos : 0 < s.stateTicks := by omega
        exact .inl ⟨by simp [hpos, hticks], by simp⟩
  | waitFrame =>
      by_cases hticks : 0 < s.stateTicks
      · exact .inl ⟨by simp [hticks], fun _ => hticks⟩
      · exact .inr (.inr (.inr ⟨by simp [hticks], rfl, by omega⟩))

/-! ## The invariant -/

/-- What is published: the initial zeros, or the values of one valid capture. -/
def PublishedValues (s : Dht11 F) : Option (List Bool) → Prop
  | none => s.humidityRh = CFloat.lit 0 ∧ s.temperatureC = CFloat.lit 0
  | some bits =>
      bits.length = 40 ∧ ChecksumValid (Bits.pack 5 bits) ∧
        s.humidityRh = humidityOf (Bits.pack 5 bits) ∧
        s.temperatureC = temperatureOf (Bits.pack 5 bits)

structure DriverInvariant (s : Dht11 F) (bits : List Bool) (published : Option (List Bool)) :
    Prop where
  holds : Holds s bits
  active_state : s.transactionActive = true → s.dht11State = .waitFrame
  active_room : s.transactionActive = true → bits.length < 40
  active_pending : s.transactionActive = true → s.frameDone = false ∧ s.frameError = false
  one_flag : ¬ (s.frameDone = true ∧ s.frameError = true)
  done_full : s.frameDone = true → bits.length = 40
  timeout : s.dht11State = .waitFrame → s.stateTicks ≤ dht11FrameTimeoutTicks
  published : PublishedValues s published

def Observed.Sound (o : Observed F) : Prop :=
  DriverInvariant o.driver o.bits o.published

variable {s : Dht11 F} {bits : List Bool} {published : Option (List Bool)}

theorem publishedValues_congr {t : Dht11 F} (htemperature : t.temperatureC = s.temperatureC)
    (hhumidity : t.humidityRh = s.humidityRh) (hvalues : PublishedValues s published) :
    PublishedValues t published := by
  cases published <;> simpa only [PublishedValues, htemperature, hhumidity] using hvalues

theorem DriverInvariant.edge (hinv : DriverInvariant s bits published) (gpioPin : UInt16)
    (level : Bool) (nowCycle : UInt32) :
    DriverInvariant (s.extiCallback gpioPin level nowCycle)
      (bits ++ (storedBit s gpioPin level nowCycle).toList) published := by
  obtain ⟨hholds, hstate, hroom, hpending, hflag, hfull, htimeout, hpublished⟩ := hinv
  obtain ⟨hedge, hbit⟩ | ⟨hactive, hbit, _, _, hedge⟩ | ⟨hactive, hbit, hedge⟩ |
      ⟨hactive, hbit, hedge⟩ := extiCallback_cases s gpioPin level nowCycle <;>
    rw [hedge, hbit]
  · simp only [Option.toList_none, List.append_nil]
    exact ⟨hholds, hstate, hroom, hpending, hflag, hfull, htimeout, hpublished⟩
  · simp only [Option.toList_none, List.append_nil]
    exact ⟨⟨hholds.1, hholds.2⟩, hstate, hroom, hpending, hflag, hfull, htimeout,
      publishedValues_congr rfl rfl hpublished⟩
  · -- the capture ends, and no frame was complete
    have hdone := (hpending hactive).1
    simp only [Option.toList_none, List.append_nil]
    exact ⟨⟨hholds.1, hholds.2⟩, nofun, nofun, nofun, by simp [Dht11.captureError, hdone], hfull,
      htimeout, publishedValues_congr rfl rfl hpublished⟩
  · have hlt := hroom hactive
    obtain ⟨hdone, herror⟩ := hpending hactive
    rw [hholds.storeBit hlt nowCycle]
    simp only [Option.toList_some]
    by_cases hlast : bits.length = 39
    · simp only [hlast, ↓reduceIte]
      exact ⟨⟨rfl, by simp [hlast]⟩, nofun, nofun, nofun, by simp [herror], by simp [hlast],
        htimeout, publishedValues_congr rfl rfl hpublished⟩
    · simp only [hlast, ↓reduceIte]
      refine ⟨⟨rfl, by simp⟩, hstate, fun _ => ?_, hpending, hflag, by simp [hdone], htimeout,
        publishedValues_congr rfl rfl hpublished⟩
      rw [List.length_append, List.length_singleton]
      omega

theorem DriverInvariant.tick (hinv : DriverInvariant s bits published) :
    DriverInvariant s.task10ms (if Restarts s s.task10ms then [] else bits)
      (if s.frameDone = true ∧ ChecksumValid s.frameBytes then some bits else published) := by
  obtain ⟨hholds, hstate, hroom, hpending, hflag, hfull, htimeout, hpublished⟩ := hinv
  obtain ⟨hdone, htick⟩ | ⟨hdone, herror, htick⟩ | ⟨hdone, herror, hcases⟩ := task10ms_cases s
  · -- a frame is complete
    have herror : s.frameError = false := by simpa [hdone] using hflag
    rw [htick, processFrame_eq]
    by_cases hvalid : ChecksumValid s.frameBytes
    · rw [if_pos hvalid, if_neg (not_restarts_of_idle rfl), if_pos (And.intro hdone hvalid)]
      refine ⟨⟨hholds.1, hholds.2⟩, nofun, nofun, nofun, nofun, nofun, nofun, hfull hdone, ?_⟩
      rw [← hholds.frameBytes]
      exact ⟨hvalid, rfl, rfl⟩
    · rw [if_neg hvalid, if_neg (not_restarts_of_idle rfl), if_neg fun h => hvalid h.2]
      exact ⟨⟨hholds.1, hholds.2⟩, nofun, nofun, nofun, nofun, nofun, nofun,
        publishedValues_congr rfl rfl hpublished⟩
  · -- the capture met an edge it did not expect
    rw [htick, if_neg (not_restarts_of_idle rfl), if_neg fun h => by simp [hdone] at h]
    refine ⟨⟨hholds.1, hholds.2⟩, nofun, nofun, nofun, nofun, fun h => ?_, nofun,
      publishedValues_congr rfl rfl hpublished⟩
    exact hfull h
  · have hnone : ¬ (s.frameDone = true ∧ ChecksumValid s.frameBytes) := by simp [hdone]
    rw [if_neg hnone]
    rcases hcases with ⟨htick, -⟩ | ⟨htick, hwait, hlow⟩ | ⟨⟨ticks, htick⟩, hlow⟩ |
        ⟨htick, -, -⟩ <;> rw [htick]
    · rw [if_neg fun h => h.1 rfl]
      exact ⟨⟨hholds.1, hholds.2⟩, hstate, hroom, hpending, hflag, hfull,
        fun h => le_trans (Nat.sub_le _ _) (htimeout h), publishedValues_congr rfl rfl hpublished⟩
    · rw [if_pos ⟨fun h => hlow h.symm, .inl rfl⟩]
      exact ⟨⟨rfl, rfl⟩, fun h => absurd (hstate h) hwait, fun _ => by simp, fun _ => ⟨rfl, rfl⟩,
        nofun, nofun, nofun, publishedValues_congr rfl rfl hpublished⟩
    · rw [if_pos ⟨fun h => by simp [Dht11.releaseAndListen, hlow] at h, .inr rfl⟩]
      exact ⟨⟨rfl, rfl⟩, fun _ => rfl, fun _ => by simp, fun _ => ⟨rfl, rfl⟩, nofun, nofun,
        fun _ => Nat.le_refl 2, publishedValues_congr rfl rfl hpublished⟩
    · rw [if_neg (not_restarts_of_idle rfl)]
      exact ⟨⟨hholds.1, hholds.2⟩, nofun, nofun, nofun, hflag, hfull, nofun,
        publishedValues_congr rfl rfl hpublished⟩

theorem driverSystem_invariant (systemCoreClock : UInt32) :
    (driverSystem F systemCoreClock).Invariant Observed.Sound where
  init := ⟨⟨rfl, rfl⟩, nofun, nofun, nofun, nofun, nofun, nofun, rfl, rfl⟩
  step o event hinv := by
    cases event with
    | edge gpioPin level nowCycle => exact hinv.edge gpioPin level nowCycle
    | tick => exact hinv.tick

/-! ## Time spent waiting for a frame -/

/-- A tick after which the driver still waits has counted down. -/
theorem stateTicks_task10ms (hstate : s.dht11State = .waitFrame)
    (hstill : s.task10ms.dht11State = .waitFrame) :
    s.task10ms.stateTicks + 1 = s.stateTicks := by
  obtain ⟨-, htick⟩ | ⟨-, -, htick⟩ | ⟨-, -, hcases⟩ := task10ms_cases s
  · simp [htick, Dht11.processFrame, Dht11.enterIdle] at hstill
  · simp [htick, Dht11.handleFailedFrame, Dht11.enterIdle] at hstill
  · rcases hcases with ⟨htick, hpos⟩ | ⟨-, hwait, -⟩ | ⟨-, hlow⟩ | ⟨htick, -, -⟩
    · have hpos := hpos hstate
      rw [htick]
      dsimp only
      omega
    · exact absurd hstate hwait
    · simp [hlow] at hstate
    · simp [htick, Dht11.handleFailedFrame, Dht11.enterIdle] at hstill

/-- While the driver waits, every tick takes one of the ticks left, and the
last one ends the wait. -/
theorem count_tick_le (systemCoreClock : UInt32) (events : List Event) (o : Observed F)
    (hwaiting : (driverSystem F systemCoreClock).AlongFrom
      (fun o _ => o.driver.dht11State = .waitFrame) o events) :
    events.count .tick ≤ o.driver.stateTicks + 1 := by
  induction events generalizing o with
  | nil => simp
  | cons event events ih =>
      obtain ⟨hstate, hrest⟩ := hwaiting
      have hle := ih _ hrest
      cases event with
      | edge gpioPin level nowCycle =>
          -- no edge touches the ticks left
          have hticks : (o.driver.extiCallback gpioPin level nowCycle).stateTicks =
              o.driver.stateTicks := by
            obtain ⟨hedge, -⟩ | ⟨-, -, _, _, hedge⟩ | ⟨-, -, hedge⟩ | ⟨-, -, hedge⟩ :=
              extiCallback_cases o.driver gpioPin level nowCycle <;> rw [hedge]
            · rfl
            · unfold Dht11.storeBit
              dsimp only
              split <;> rfl
          change _ ≤ (o.driver.extiCallback gpioPin level nowCycle).stateTicks + 1 at hle
          simpa [hticks] using hle
      | tick =>
          -- the last tick may end the wait; each one before it counts down
          change _ ≤ o.driver.task10ms.stateTicks + 1 at hle
          rw [List.count_cons_self]
          rcases events with - | ⟨next, events⟩
          · simp
          · have hstill : o.driver.task10ms.dht11State = .waitFrame := hrest.1
            have hticks := stateTicks_task10ms hstate hstill
            omega

/-- Whatever edges and ticks have arrived: a transaction is active only while a
frame is awaited, a bit is stored only inside the frame, at most one of the two
flags is set, no wait lasts longer than three ticks, and the published values
are the initial zeros or those of one complete capture with a valid checksum. -/
theorem driver_invariants (systemCoreClock : UInt32) (events : List Event) :
    let o := (driverSystem F systemCoreClock).run events
    (o.driver.transactionActive = true → o.driver.dht11State = .waitFrame) ∧
      (∀ gpioPin level nowCycle, storedBit o.driver gpioPin level nowCycle ≠ none →
        o.driver.bitIndex < 40 ∧ o.driver.bitIndex >>> 3 ≤ 4) ∧
      ¬ (o.driver.frameDone = true ∧ o.driver.frameError = true) ∧
      (∀ more, (driverSystem F systemCoreClock).AlongFrom
        (fun o _ => o.driver.dht11State = .waitFrame) o more → more.count .tick ≤ 3) ∧
      PublishedValues o.driver o.published := by
  intro o
  have hinv : o.Sound := (driverSystem_invariant systemCoreClock).run events
  refine ⟨hinv.active_state, fun gpioPin level nowCycle hstored => ?_, hinv.one_flag,
    fun more hwaiting => ?_, hinv.published⟩
  · have hactive : o.driver.transactionActive = true := by
      by_contra hidle
      simp [storedBit, hidle] at hstored
    have hroom := hinv.active_room hactive
    rw [hinv.holds.bitIndex, Nat.shiftRight_eq_div_pow]
    omega
  · cases more with
    | nil => simp
    | cons event more =>
        have hle := count_tick_le systemCoreClock (event :: more) o hwaiting
        have htimeout : o.driver.stateTicks ≤ 2 := hinv.timeout hwaiting.1
        omega

end Driver

end PlantAssistant.Climate
