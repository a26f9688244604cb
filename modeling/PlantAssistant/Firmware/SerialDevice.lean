import PlantAssistant.Firmware.UartPort
import PlantAssistant.Queue.Ring
import PlantAssistant.Transition.Run

/-! # The serial device and its receive thread

The receive interrupt stores bytes in the ring of the device and releases the
semaphore of the port; the receive thread takes the semaphore and reads until a
read finds nothing. Both only touch the ring with interrupts off, so a step is
one byte of the thread or one whole interrupt.
-/

namespace PlantAssistant.Firmware

open Queue Transition

/-- `RT_SERIAL_RB_BUFSZ`, the size that `RT_SERIAL_CONFIG_DEFAULT` gives. -/
def serialRbBufsz : ℕ := 64

/-- `RT_SEM_VALUE_MAX` -/
def semValueMax : ℕ := 0xFFFF

/-- `struct rt_serial_rx_fifo` -/
structure RxFifo where
  ring : Ring UInt8 serialRbBufsz
  isFull : Bool

namespace RxFifo

def content (fifo : RxFifo) : List UInt8 := fifo.ring.content

/-- The part of `rt_hw_serial_isr` between two calls of `getc`. -/
def store (fifo : RxFifo) (ch : UInt8) : RxFifo :=
  let ring := fifo.ring.write ch
  -- the next position is the read index: the oldest byte is given up
  if ring.putIndex = ring.getIndex then { ring := ring.skip, isFull := true }
  else { fifo with ring := ring }

/-- The `rx_length` of `rt_hw_serial_isr`. -/
def rxLength (fifo : RxFifo) : ℕ :=
  if fifo.ring.getIndex ≤ fifo.ring.putIndex then fifo.ring.putIndex - fifo.ring.getIndex
  else serialRbBufsz - (fifo.ring.getIndex - fifo.ring.putIndex)

/-- One pass of the loop of `_serial_int_rx`. -/
def fetch (fifo : RxFifo) : Option (UInt8 × RxFifo) :=
  if fifo.ring.getIndex = fifo.ring.putIndex ∧ fifo.isFull = false then none
  else some (fifo.ring.peek, { ring := fifo.ring.skip, isFull := false })

/-- The flag is only up while the ring holds all it can. -/
def Flagged (fifo : RxFifo) : Prop := fifo.isFull = true → fifo.ring.Full

variable (fifo : RxFifo)

theorem rxLength_eq : fifo.rxLength = fifo.content.length := by
  have hput := fifo.ring.putIndex_lt
  have hget := fifo.ring.getIndex_lt
  rw [content, Ring.length_content]
  unfold rxLength span
  split <;> omega

theorem length_content_lt : fifo.content.length < serialRbBufsz := fifo.ring.length_content_lt

/-- Storing a byte keeps the newest that fit. -/
theorem content_store (ch : UInt8) :
    (fifo.store ch).content =
      if fifo.ring.Full then fifo.content.tail ++ [ch] else fifo.content ++ [ch] := by
  unfold store content
  simp only [fifo.ring.putIndex_write_eq_iff ch]
  split
  next hfull => exact fifo.ring.content_write_skip ch hfull (by decide)
  next hroom => exact fifo.ring.content_write ch hroom

theorem flagged_store (ch : UInt8) (hflag : fifo.Flagged) : (fifo.store ch).Flagged := by
  intro hup
  have hlong := fifo.ring.full_iff
  have hcontent := fifo.content_store ch
  rw [Ring.full_iff]
  change (fifo.store ch).content.length + 1 = _
  by_cases hfull : fifo.ring.Full
  · have hlength : fifo.content.length + 1 = serialRbBufsz := hlong.mp hfull
    rw [hcontent, if_pos hfull, List.length_append, List.length_tail, List.length_singleton]
    have : serialRbBufsz = 64 := rfl
    omega
  · -- with room the flag stays, and it was down
    have hdown : (fifo.store ch).isFull = fifo.isFull := by
      unfold store
      rw [if_neg (mt (fifo.ring.putIndex_write_eq_iff ch).mp hfull)]
    rw [hdown] at hup
    exact absurd (hflag hup) hfull

theorem fetch_eq_none_iff (hflag : fifo.Flagged) : fifo.fetch = none ↔ fifo.content = [] := by
  have hempty : fifo.content = [] ↔ fifo.ring.getIndex = fifo.ring.putIndex :=
    fifo.ring.content_eq_nil_iff
  unfold fetch
  constructor
  · intro hnone
    split at hnone
    next hcond => exact hempty.mpr hcond.1
    next => cases hnone
  · intro hnil
    refine if_pos ⟨hempty.mp hnil, ?_⟩
    cases hdown : fifo.isFull with
    | false => rfl
    | true =>
        have hlong := (fifo.ring.full_iff).mp (hflag hdown)
        have hshort : fifo.ring.content = [] := hnil
        rw [hshort] at hlong
        exact absurd hlong (by decide)

/-- Reading takes the oldest byte, and the flag with it. -/
theorem content_of_fetch (hflag : fifo.Flagged) {ch : UInt8} {rest : RxFifo}
    (hfetch : fifo.fetch = some (ch, rest)) :
    fifo.content = ch :: rest.content ∧ rest.Flagged := by
  have hne : fifo.ring.getIndex ≠ fifo.ring.putIndex := by
    intro heq
    have hnone := (fifo.fetch_eq_none_iff hflag).mpr ((fifo.ring.content_eq_nil_iff).mpr heq)
    rw [hnone] at hfetch
    cases hfetch
  unfold fetch at hfetch
  rw [if_neg fun hcond => hne hcond.1] at hfetch
  cases hfetch
  exact ⟨fifo.ring.content_skip hne, fun hup => by cases hup⟩

/-- The bytes of one interrupt: what the ring holds are the newest bytes. -/
theorem content_foldl_store (bytes : List UInt8) :
    (bytes.foldl store fifo).content =
      (fifo.content ++ bytes).drop (fifo.content.length + bytes.length - (serialRbBufsz - 1)) := by
  induction bytes generalizing fifo with
  | nil =>
      have hlength := fifo.length_content_lt
      rw [List.foldl_nil, List.append_nil, List.length_nil, Nat.sub_eq_zero_of_le (by omega),
        List.drop_zero]
  | cons ch bytes ih =>
      have hlength := fifo.length_content_lt
      have hfull : fifo.ring.Full ↔ fifo.content.length + 1 = serialRbBufsz := fifo.ring.full_iff
      rw [List.foldl_cons, ih, fifo.content_store ch]
      split
      next hring =>
        have hlong := hfull.mp hring
        cases hcontent : fifo.content with
        | nil =>
            rw [hcontent] at hlong
            exact absurd hlong (by decide)
        | cons oldest content =>
            rw [hcontent, List.length_cons] at hlong
            have hdrop : (oldest :: content).length + (ch :: bytes).length - (serialRbBufsz - 1) =
                bytes.length + 1 := by
              simp only [List.length_cons]
              omega
            have hdrop' : ((oldest :: content).tail ++ [ch]).length + bytes.length -
                (serialRbBufsz - 1) = bytes.length := by
              simp only [List.tail_cons, List.length_append, List.length_singleton]
              omega
            rw [hdrop, hdrop', List.cons_append, List.drop_succ_cons, List.tail_cons,
              List.append_assoc, List.singleton_append]
      next hroom =>
        rw [List.append_assoc, List.singleton_append, List.length_append, List.length_singleton,
          List.length_cons, Nat.add_assoc, Nat.add_comm 1]

theorem flagged_foldl_store (bytes : List UInt8) (hflag : fifo.Flagged) :
    (bytes.foldl store fifo).Flagged := by
  induction bytes generalizing fifo with
  | nil => exact hflag
  | cons ch bytes ih => exact ih _ (fifo.flagged_store ch hflag)

end RxFifo

end PlantAssistant.Firmware
