import PlantAssistant.Climate.Capture

/-! # Decoding the sensor's answer

The answer is a waveform of eighty-three edges. Whatever the counter shows when
it begins, and however long the pulses last, the bits that the high times code
arrive in the frame.
-/

namespace PlantAssistant.Climate

open PlantAssistant.Firmware

/-- One bit on the line, in cycles. -/
structure Pulse where
  low : UInt32
  high : UInt32
deriving DecidableEq, Repr

/-- The level after each edge and the cycles since the edge before. -/
def waveform (respFall respRise firstFall : UInt32) (pulses : List Pulse) :
    List (Bool × UInt32) :=
  [(false, respFall), (true, respRise), (false, firstFall)] ++
    pulses.flatMap fun pulse => [(true, pulse.low), (false, pulse.high)]

/-- The edges with the values the cycle counter shows at them. -/
def edges : UInt32 → List (Bool × UInt32) → List (Bool × UInt32)
  | _, [] => []
  | cycle, (level, width) :: rest => (level, cycle + width) :: edges (cycle + width) rest

variable {F : Type}

/-- The interrupts of some edges, with no tick in between. -/
def deliver (s : Dht11 F) (list : List (Bool × UInt32)) : Dht11 F :=
  list.foldl (fun s edge => s.extiCallback dht11GpioPin edge.1 edge.2) s

/-- The high time tells a one from a zero: at least 51 microseconds or less. -/
def Codes (cyclesPerUs : UInt32) (pulse : Pulse) (bit : Bool) : Prop :=
  bit = true ↔ 51 * cyclesPerUs.toNat ≤ pulse.high.toNat

instance (cyclesPerUs : UInt32) (pulse : Pulse) (bit : Bool) :
    Decidable (Codes cyclesPerUs pulse bit) :=
  inferInstanceAs (Decidable (_ ↔ _))

/-! ## What no edge changes -/

structure SameValues (s t : Dht11 F) : Prop where
  cyclesPerUs : t.cyclesPerUs = s.cyclesPerUs
  temperatureC : t.temperatureC = s.temperatureC
  humidityRh : t.humidityRh = s.humidityRh

theorem sameValues_extiCallback (s : Dht11 F) (gpioPin : UInt16) (level : Bool)
    (nowCycle : UInt32) : SameValues s (s.extiCallback gpioPin level nowCycle) := by
  obtain ⟨hedge, -⟩ | ⟨-, -, _, _, hedge⟩ | ⟨-, -, hedge⟩ | ⟨-, -, hedge⟩ :=
    extiCallback_cases s gpioPin level nowCycle <;> rw [hedge]
  · exact ⟨rfl, rfl, rfl⟩
  · exact ⟨rfl, rfl, rfl⟩
  · exact ⟨rfl, rfl, rfl⟩
  · unfold Dht11.storeBit
    dsimp only
    split <;> exact ⟨rfl, rfl, rfl⟩

theorem sameValues_deliver (s : Dht11 F) (list : List (Bool × UInt32)) :
    SameValues s (deliver s list) := by
  induction list generalizing s with
  | nil => exact ⟨rfl, rfl, rfl⟩
  | cons edge rest ih =>
      have hedge := sameValues_extiCallback s dht11GpioPin edge.1 edge.2
      have hrest := ih (s.extiCallback dht11GpioPin edge.1 edge.2)
      exact ⟨hrest.cyclesPerUs.trans hedge.cyclesPerUs,
        hrest.temperatureC.trans hedge.temperatureC, hrest.humidityRh.trans hedge.humidityRh⟩

/-! ## One bit -/

/-- The capture stands before the next bit, having stored `bits`. -/
structure Receiving (s : Dht11 F) (bits : List Bool) : Prop where
  active : s.transactionActive = true
  captureState : s.captureState = .waitBitRise
  holds : Holds s bits

/-- Subtraction of counter values gives the width, across a wrap as well. -/
theorem elapsedUs_gt_iff {s : Dht11 F} (hclock : s.cyclesPerUs ≠ 0) (cycle width : UInt32) :
    s.elapsedUs cycle (cycle + width) > dht11BitHighThresholdUs ↔
      51 * s.cyclesPerUs.toNat ≤ width.toNat := by
  have hpos : 0 < s.cyclesPerUs.toNat := by
    refine Nat.pos_of_ne_zero fun hzero => hclock ?_
    exact UInt32.toNat_inj.mp hzero
  have hwidth : cycle + width - cycle = width := by
    rw [UInt32.add_comm, UInt32.add_sub_cancel]
  rw [Dht11.elapsedUs, hwidth, gt_iff_lt, UInt32.lt_iff_toNat_lt, UInt32.toNat_div,
    Nat.mul_comm 51, Nat.mul_comm _ 51, ← Nat.le_div_iff_mul_le hpos]
  exact Iff.rfl

/-- One pulse stores the bit it codes. -/
theorem Receiving.pulse {s : Dht11 F} {bits : List Bool} (hreceiving : Receiving s bits)
    (hroom : bits.length < 40) (hclock : s.cyclesPerUs ≠ 0) {pulse : Pulse} {bit : Bool}
    (hcodes : Codes s.cyclesPerUs pulse bit) (cycle : UInt32) :
    let t := deliver s [(true, cycle), (false, cycle + pulse.high)]
    Holds t (bits ++ [bit]) ∧
      if bits.length = 39 then t.frameDone = true else Receiving t (bits ++ [bit]) := by
  have hrise : s.extiCallback dht11GpioPin true cycle =
      { s with highStartCycle := cycle, captureState := .waitBitFall } := by
    simp [Dht11.extiCallback, hreceiving.active, hreceiving.captureState]
  have hheld : Holds { s with highStartCycle := cycle, captureState := .waitBitFall } bits :=
    ⟨hreceiving.holds.frameBytes, hreceiving.holds.bitIndex⟩
  have hbit : (decide (({ s with highStartCycle := cycle, captureState := .waitBitFall } :
      Dht11 F).elapsedUs cycle (cycle + pulse.high) > dht11BitHighThresholdUs)) = bit := by
    rw [Bool.eq_iff_iff, decide_eq_true_iff]
    exact (elapsedUs_gt_iff hclock cycle pulse.high).trans hcodes.symm
  have hfall := hheld.storeBit hroom (cycle + pulse.high)
  dsimp only at hfall
  rw [hbit] at hfall
  have hdeliver : deliver s [(true, cycle), (false, cycle + pulse.high)] =
      Dht11.storeBit (cycle + pulse.high)
        { s with highStartCycle := cycle, captureState := .waitBitFall } := by
    simp only [deliver, List.foldl_cons, List.foldl_nil, hrise]
    simp [Dht11.extiCallback, hreceiving.active]
  intro t
  have ht : t = _ := hdeliver.trans hfall
  rw [ht]
  refine ⟨⟨rfl, by simp⟩, ?_⟩
  split
  next => rfl
  next => exact ⟨hreceiving.active, rfl, ⟨rfl, by simp⟩⟩

/-! ## The forty bits -/

/-- The pulses still to come store the bits still to come. -/
theorem Receiving.pulses {s : Dht11 F} {bits rest : List Bool} {pulses : List Pulse}
    (hreceiving : Receiving s bits) (hclock : s.cyclesPerUs ≠ 0)
    (hcodes : List.Forall₂ (Codes s.cyclesPerUs) pulses rest) (hpending : rest ≠ [])
    (hlength : bits.length + rest.length = 40) (cycle : UInt32) :
    let t := deliver s (edges cycle
      (pulses.flatMap fun pulse => [(true, pulse.low), (false, pulse.high)]))
    Holds t (bits ++ rest) ∧ t.frameDone = true := by
  generalize hcycles : s.cyclesPerUs = cyclesPerUs at hclock hcodes
  induction hcodes generalizing s bits cycle with
  | nil => exact absurd rfl hpending
  | @cons pulse bit pulses rest hcode hcodes ih =>
      rw [List.length_cons] at hlength
      obtain ⟨hholds, hnext⟩ := hreceiving.pulse (by omega) (hcycles ▸ hclock) (hcycles ▸ hcode)
        (cycle + pulse.low)
      have hclock' := (sameValues_deliver s
        [(true, cycle + pulse.low), (false, cycle + pulse.low + pulse.high)]).cyclesPerUs
      have hsplit : deliver s (edges cycle ((pulse :: pulses).flatMap fun pulse =>
          [(true, pulse.low), (false, pulse.high)])) =
          deliver (deliver s [(true, cycle + pulse.low), (false, cycle + pulse.low + pulse.high)])
            (edges (cycle + pulse.low + pulse.high)
              (pulses.flatMap fun pulse => [(true, pulse.low), (false, pulse.high)])) := rfl
      rw [hsplit]
      generalize deliver s [(true, cycle + pulse.low), (false, cycle + pulse.low + pulse.high)] = t
        at hholds hnext hclock' ⊢
      rcases rest with - | ⟨bit', rest'⟩
      · obtain rfl := List.forall₂_nil_right_iff.mp hcodes
        rw [if_pos (by simpa using hlength)] at hnext
        exact ⟨hholds, hnext⟩
      · rw [List.length_cons] at hlength
        rw [if_neg (by omega)] at hnext
        have hdone := ih hnext (by simp) (by simp; omega) (cycle + pulse.low + pulse.high)
          (hclock'.trans hcycles)
        rwa [List.append_assoc, List.singleton_append] at hdone

/-- After the line is released, an answer whose pulses code five bytes leaves
these bytes in the frame, and the next tick publishes them if the checksum is
right and keeps the published values otherwise. -/
theorem release_then_answer [CFloat F] (s : Dht11 F) (hclock : s.cyclesPerUs ≠ 0)
    (b0 b1 b2 b3 b4 : UInt8) (start respFall respRise firstFall : UInt32) (pulses : List Pulse)
    (hcodes : List.Forall₂ (Codes s.cyclesPerUs) pulses
      ([b0, b1, b2, b3, b4].flatMap Bits.ofByte)) :
    let heard := deliver s.releaseAndListen
      (edges start (waveform respFall respRise firstFall pulses))
    heard.frameBytes = [b0, b1, b2, b3, b4] ∧ heard.frameDone = true ∧
      if b0 + b1 + b2 + b3 = b4 then
        heard.task10ms.humidityRh =
            CFloat.lit b0.toNat + CFloat.lit b1.toNat * CFloat.lit (1 / 10) ∧
          heard.task10ms.temperatureC =
            CFloat.lit b2.toNat + CFloat.lit b3.toNat * CFloat.lit (1 / 10)
      else
        heard.task10ms.humidityRh = s.humidityRh ∧
          heard.task10ms.temperatureC = s.temperatureC := by
  intro heard
  have hsame : SameValues s.releaseAndListen heard := sameValues_deliver s.releaseAndListen _
  -- the response leaves the capture before the first bit
  let ready : Dht11 F := { s.releaseAndListen with captureState := .waitBitRise }
  have hready : heard = deliver ready (edges (start + respFall + respRise + firstFall)
      (pulses.flatMap fun pulse => [(true, pulse.low), (false, pulse.high)])) := rfl
  have hreceiving : Receiving ready [] := ⟨rfl, rfl, rfl, rfl⟩
  obtain ⟨hholds, hdone⟩ := hreceiving.pulses hclock hcodes (by simp [Bits.ofByte]) (by simp)
    (start + respFall + respRise + firstFall)
  rw [← hready, List.nil_append] at hholds
  rw [← hready] at hdone
  have hbytes : heard.frameBytes = [b0, b1, b2, b3, b4] :=
    hholds.frameBytes.trans (Bits.pack_flatMap_ofByte [b0, b1, b2, b3, b4])
  refine ⟨hbytes, hdone, ?_⟩
  have htick : heard.task10ms = Dht11.processFrame { heard with frameDone := false } := by
    rw [Dht11.task10ms, if_pos hdone]
  rw [htick, processFrame_eq]
  have hvalid : ChecksumValid heard.frameBytes ↔ b0 + b1 + b2 + b3 = b4 := by
    rw [hbytes]
    exact Iff.rfl
  by_cases hsum : b0 + b1 + b2 + b3 = b4
  · rw [if_pos hsum, if_pos (hvalid.mpr hsum)]
    simp only [hbytes]
    exact ⟨rfl, rfl⟩
  · rw [if_neg hsum, if_neg (mt hvalid.mp hsum)]
    exact ⟨hsame.humidityRh, hsame.temperatureC⟩

/-- Pulses of 70 and 27 microseconds at 168 MHz. -/
def pulseOf (bit : Bool) : Pulse := ⟨50 * 168, if bit then 70 * 168 else 27 * 168⟩

/-- An answer of 55 % and 24.3 degrees, during which the cycle counter wraps. -/
theorem release_then_answer_wrapping :
    let s : Dht11 ℚ := Dht11.init 168000000 Dht11.statics
    let pulses := ([55, 0, 24, 3, 82].flatMap Bits.ofByte).map pulseOf
    let heard := deliver s.releaseAndListen (edges 4294950000 (waveform 5040 13440 13440 pulses))
    heard.frameBytes = [55, 0, 24, 3, 82] ∧ heard.frameDone = true ∧
      if (55 : UInt8) + 0 + 24 + 3 = 82 then
        heard.task10ms.humidityRh = 55 + 0 * (1 / 10) ∧
          heard.task10ms.temperatureC = 24 + 3 * (1 / 10)
      else
        heard.task10ms.humidityRh = s.humidityRh ∧ heard.task10ms.temperatureC = s.temperatureC :=
  release_then_answer (Dht11.init 168000000 Dht11.statics) (by decide) 55 0 24 3 82 4294950000
    5040 13440 13440 _ (by
      rw [List.forall₂_map_left_iff, List.forall₂_same]
      decide +kernel)

/-- The high time tells a one from a zero by the exact number of cycles in 50
microseconds. -/
def CodesInCycles (cyclesPerUs : UInt32) (pulse : Pulse) (bit : Bool) : Prop :=
  if bit then 50 * cyclesPerUs.toNat < pulse.high.toNat
  else pulse.high.toNat ≤ 50 * cyclesPerUs.toNat

instance (cyclesPerUs : UInt32) (pulse : Pulse) (bit : Bool) :
    Decidable (CodesInCycles cyclesPerUs pulse bit) := by
  unfold CodesInCycles
  infer_instance

/-- A one whose high time exceeds 50 microseconds by a cycle is taken for a
zero, since the driver counts whole microseconds. -/
theorem one_cycle_over_is_zero :
    let s : Dht11 ℚ := Dht11.init 168000000 Dht11.statics
    let pulses := ([0x80, 0, 0, 0, 0x80].flatMap Bits.ofByte).map fun bit =>
      (⟨8400, if bit then 8401 else 8400⟩ : Pulse)
    List.Forall₂ (CodesInCycles s.cyclesPerUs) pulses
        ([0x80, 0, 0, 0, 0x80].flatMap Bits.ofByte) ∧
      (deliver s.releaseAndListen
        (edges 0 (waveform 5040 13440 13440 pulses))).frameBytes ≠ [0x80, 0, 0, 0, 0x80] := by
  refine ⟨?_, by decide +kernel⟩
  rw [List.forall₂_map_left_iff, List.forall₂_same]
  decide +kernel

end PlantAssistant.Climate
