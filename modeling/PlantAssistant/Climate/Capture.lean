import PlantAssistant.Bits.MsbFirst
import PlantAssistant.Firmware.DH11

/-! # The capture of one frame

The bits stored since the last reset, and how the driver's bytes and its bit
counter hold them.
-/

namespace PlantAssistant.Climate

open PlantAssistant.Firmware

variable {F : Type}

/-- The bit an edge stores, if it stores one. -/
def storedBit (s : Dht11 F) (gpioPin : UInt16) (level : Bool) (nowCycle : UInt32) : Option Bool :=
  if gpioPin = dht11GpioPin ∧ s.transactionActive = true ∧ level = false ∧
      s.captureState = .waitBitFall then
    some (decide (s.elapsedUs s.highStartCycle nowCycle > dht11BitHighThresholdUs))
  else none

/-- Everything an edge can do while the capture runs, and that it does nothing
otherwise. -/
theorem extiCallback_cases (s : Dht11 F) (gpioPin : UInt16) (level : Bool) (nowCycle : UInt32) :
    s.extiCallback gpioPin level nowCycle = s ∧ storedBit s gpioPin level nowCycle = none ∨
    s.transactionActive = true ∧ storedBit s gpioPin level nowCycle = none ∧
      (∃ captureState highStartCycle, s.extiCallback gpioPin level nowCycle =
        { s with captureState := captureState, highStartCycle := highStartCycle }) ∨
    s.transactionActive = true ∧ storedBit s gpioPin level nowCycle = none ∧
      s.extiCallback gpioPin level nowCycle = s.captureError ∨
    s.transactionActive = true ∧
      storedBit s gpioPin level nowCycle =
        some (decide (s.elapsedUs s.highStartCycle nowCycle > dht11BitHighThresholdUs)) ∧
      s.extiCallback gpioPin level nowCycle = s.storeBit nowCycle := by
  unfold Dht11.extiCallback storedBit
  by_cases hpin : gpioPin = dht11GpioPin
  case neg => exact .inl (by simp [hpin])
  by_cases hactive : s.transactionActive = true
  case neg => exact .inl (by simp [hactive])
  cases level with
  | false =>
      cases hcapture : s.captureState with
      | waitRespFall | waitFirstDataFall =>
          exact .inr (.inl ⟨hactive, by simp, _, s.highStartCycle, by simp [hpin, hactive]; rfl⟩)
      | waitBitFall =>
          exact .inr (.inr (.inr ⟨hactive, by simp [hpin, hactive], by simp [hpin, hactive]⟩))
      | waitRespRise | waitBitRise =>
          exact .inr (.inr (.inl ⟨hactive, by simp, by simp [hpin, hactive]⟩))
  | true =>
      cases hcapture : s.captureState with
      | waitRespRise =>
          exact .inr (.inl ⟨hactive, by simp, _, s.highStartCycle, by simp [hpin, hactive]; rfl⟩)
      | waitBitRise =>
          exact .inr (.inl ⟨hactive, by simp, _, nowCycle, by simp [hpin, hactive]; rfl⟩)
      | waitRespFall | waitFirstDataFall | waitBitFall =>
          exact .inr (.inr (.inl ⟨hactive, by simp, by simp [hpin, hactive]⟩))

/-- The driver holds `bits`, and nothing else. -/
structure Holds (s : Dht11 F) (bits : List Bool) : Prop where
  frameBytes : s.frameBytes = Bits.pack 5 bits
  bitIndex : s.bitIndex = bits.length

/-- Storing a bit while there is room for it. -/
theorem Holds.storeBit {s : Dht11 F} {bits : List Bool} (hholds : Holds s bits)
    (hroom : bits.length < 40) (nowCycle : UInt32) :
    let bit : Bool := s.elapsedUs s.highStartCycle nowCycle > dht11BitHighThresholdUs
    s.storeBit nowCycle =
      { s with
        frameBytes := Bits.pack 5 (bits ++ [bit])
        bitIndex := bits.length + 1
        captureState := if bits.length = 39 then s.captureState else .waitBitRise
        transactionActive := if bits.length = 39 then false else s.transactionActive
        frameDone := if bits.length = 39 then true else s.frameDone } := by
  intro bit
  have hmodify : s.frameBytes.modify (s.bitIndex >>> 3) (fun byte => (byte <<< 1) |||
      if s.elapsedUs s.highStartCycle nowCycle > dht11BitHighThresholdUs then 1 else 0) =
      Bits.pack 5 (bits ++ [bit]) := by
    rw [hholds.frameBytes, hholds.bitIndex, ← Bits.pack_concat, Nat.shiftRight_eq_div_pow]
    congr 1
    funext byte
    by_cases hlong : s.elapsedUs s.highStartCycle nowCycle > dht11BitHighThresholdUs <;>
      simp [bit, Bits.shiftIn, hlong]
  have hindex : (s.bitIndex + 1) % 2 ^ 8 = bits.length + 1 := by
    rw [hholds.bitIndex]
    omega
  simp only [Dht11.storeBit, hmodify, hindex]
  by_cases hlast : bits.length = 39
  · simp [hlast]
  · rw [if_neg (by omega)]
    simp [hlast]

section Published

variable [CFloat F]

/-- The humidity and the temperature a frame reports. -/
def humidityOf (frame : List UInt8) : F :=
  CFloat.lit (frame.getD 0 0).toNat + CFloat.lit (frame.getD 1 0).toNat * CFloat.lit (1 / 10)

def temperatureOf (frame : List UInt8) : F :=
  CFloat.lit (frame.getD 2 0).toNat + CFloat.lit (frame.getD 3 0).toNat * CFloat.lit (1 / 10)

/-- The fifth byte is the sum of the others. -/
def ChecksumValid (frame : List UInt8) : Prop :=
  frame.getD 0 0 + frame.getD 1 0 + frame.getD 2 0 + frame.getD 3 0 = frame.getD 4 0

instance (frame : List UInt8) : Decidable (ChecksumValid frame) :=
  inferInstanceAs (Decidable (_ = _))

theorem processFrame_eq (s : Dht11 F) :
    s.processFrame =
      if ChecksumValid s.frameBytes then
        Dht11.enterIdle dht11SampleIntervalTicks
          { s with
            humidityRh := humidityOf s.frameBytes
            temperatureC := temperatureOf s.frameBytes
            hasValidData := true }
      else s.enterIdle dht11SampleIntervalTicks := by
  simp only [Dht11.processFrame, Dht11.checksum, Dht11.frameByte, ChecksumValid, humidityOf,
    temperatureOf]
  exact apply_ite (Dht11.enterIdle dht11SampleIntervalTicks) _ _ _

end Published

end PlantAssistant.Climate
