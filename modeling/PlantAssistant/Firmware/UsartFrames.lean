import PlantAssistant.Firmware.UsartPort

/-! # The range finder and the attitude sensor

The handlers are called on one frame and test every offset of it again.
-/

namespace PlantAssistant.Firmware

/-! ## USART1: VL53 -/

@[simp] abbrev vl53packHead1 : UInt8 := 0x65
@[simp] abbrev vl53packHead2 : UInt8 := 0x3a
@[simp] abbrev vl53packTail : UInt8 := 0x6D
abbrev vl53usefulBites : ℕ := 4
abbrev vl53packNum : ℕ := vl53usefulBites + 3

/-- `Distance` and the digits `VL53_DataProc` keeps between its calls. -/
structure Ranging where
  receiveQian : UInt8 := 0
  receiveBai : UInt8 := 0
  receiveShi : UInt8 := 0
  receiveGe : UInt8 := 0
  distance : ℕ := 0
deriving DecidableEq, Repr

/-- A digit of the distance, with a blank for a leading zero. -/
def receiveDigit (d : UInt8) : UInt8 :=
  if d = 0x20 then 0 else d - 0x30

def vl53IsFrame (data : Memory) : Bool :=
  data 0 = vl53packHead1 ∧ data 1 = vl53packHead2 ∧ data (vl53packNum - 1) = vl53packTail

/-- The loop body of `VL53_DataProc` at offset `i`. -/
def vl53Step (data : Memory) (size : ℕ) (r : Ranging) (i : ℕ) : Ranging :=
  if i + vl53packNum - 1 < size ∧ data i = vl53packHead1 ∧ data (i + 1) = vl53packHead2 ∧
      data (i + vl53packNum - 1) = vl53packTail then
    { r with
      receiveQian := receiveDigit (data (i + 2))
      receiveBai := receiveDigit (data (i + 3))
      receiveShi := receiveDigit (data (i + 4))
      receiveGe := receiveDigit (data (i + 5)) }
  else r

def vl53DataProc (data : Memory) (size : ℕ) (r : Ranging) : Ranging :=
  let r := (List.range (size - 1)).foldl (vl53Step data size) r
  { r with
    distance := uint16 (r.receiveQian.toNat * 1000 + r.receiveBai.toNat * 100 +
      r.receiveShi.toNat * 10 + r.receiveGe.toNat) }

/-- A frame fits at its first offset only. -/
theorem vl53DataProc_frame {data : Memory} (hframe : vl53IsFrame data) (r : Ranging) :
    vl53DataProc data vl53packNum r =
      { receiveQian := receiveDigit (data 2)
        receiveBai := receiveDigit (data 3)
        receiveShi := receiveDigit (data 4)
        receiveGe := receiveDigit (data 5)
        distance := uint16 ((receiveDigit (data 2)).toNat * 1000 +
          (receiveDigit (data 3)).toNat * 100 + (receiveDigit (data 4)).toNat * 10 +
          (receiveDigit (data 5)).toNat) } := by
  simp only [vl53IsFrame, decide_eq_true_eq] at hframe
  have hfirst : vl53Step data vl53packNum r 0 =
      { r with
        receiveQian := receiveDigit (data 2)
        receiveBai := receiveDigit (data 3)
        receiveShi := receiveDigit (data 4)
        receiveGe := receiveDigit (data 5) } := if_pos ⟨by decide, hframe⟩
  have hlater : ∀ (r : Ranging) (i : ℕ), 0 < i → vl53Step data vl53packNum r i = r := by
    intro r i hi
    apply if_neg
    rintro ⟨hfits, -⟩
    change i + 6 < 7 at hfits
    omega
  have hloop : (List.range (vl53packNum - 1)).foldl (vl53Step data vl53packNum) r =
      vl53Step data vl53packNum r 0 := by
    change [0, 1, 2, 3, 4, 5].foldl (vl53Step data vl53packNum) r = _
    simp only [List.foldl_cons, List.foldl_nil, hlater _ _ (Nat.zero_lt_succ _)]
  unfold vl53DataProc
  rw [hloop, hfirst]

def usart1Port : UsartPort where
  frameLen := vl53packNum
  frameLen_pos := by decide
  isFrame := vl53IsFrame
  isFrame_congr hdata := by
    simp [vl53IsFrame, hdata 0 (by decide), hdata 1 (by decide), hdata 6 (by decide)]

/-! ## USART2: HWT101 -/

/-- Reduction to `int16_t`. -/
def int16 (n : ℕ) : ℤ :=
  if n % 2 ^ 16 < 2 ^ 15 then n % 2 ^ 16 else n % 2 ^ 16 - 2 ^ 16

abbrev hwt101FrameLen : ℕ := 11

/-- The attitude, and the obstacle packet that carries the yaw to the panel. -/
structure Attitude (F : Type) where
  roll : F
  pitch : F
  yaw : F
  obspack : Vector UInt8 7
deriving DecidableEq

section Attitude

variable {F : Type} [CFloat F]

/-- `((int16_t)(hi << 8 | lo)) / 32768.0f * 180.0f`. -/
def attitudeAngle (hi lo : UInt8) : F :=
  CFloat.lit (int16 (hi.toNat <<< 8 ||| lo.toNat)) / CFloat.lit 32768 * CFloat.lit 180

def hwt101IsFrame (data : Memory) : Bool :=
  data 0 = 0x55 ∧ data 1 = 0x53

/-- `Obspack` with the yaw word written into it. -/
def setYaw (hi lo : UInt8) (obspack : Vector UInt8 7) : Vector UInt8 7 :=
  (obspack.set 3 lo).set 2 hi

/-- The loop body of `HWT101_DataProc` at offset `i`. -/
def hwt101Step (data : Memory) (size : ℕ) (a : Attitude F) (i : ℕ) : Attitude F :=
  if i + 7 < size ∧ data i = 0x55 ∧ data (i + 1) = 0x53 then
    { roll := attitudeAngle (data (i + 3)) (data (i + 2))
      pitch := attitudeAngle (data (i + 5)) (data (i + 4))
      yaw := attitudeAngle (data (i + 7)) (data (i + 6))
      obspack := setYaw (data (i + 7)) (data (i + 6)) a.obspack }
  else a

def hwt101DataProc (data : Memory) (size : ℕ) (a : Attitude F) : Attitude F :=
  (List.range (size - 1)).foldl (hwt101Step data size) a

def usart2Port : UsartPort where
  frameLen := hwt101FrameLen
  frameLen_pos := by decide
  isFrame := hwt101IsFrame
  isFrame_congr hdata := by
    simp [hwt101IsFrame, hdata 0 (by decide), hdata 1 (by decide)]

/-- The loop bodies of `usart1_rx_entry` and `usart2_rx_entry`. -/
def usart1RxEntry (state : RxBuffer × Ranging) (chunk : List UInt8) : RxBuffer × Ranging :=
  usart1Port.rxEntry vl53DataProc state chunk

def usart2RxEntry (state : RxBuffer × Attitude F) (chunk : List UInt8) :
    RxBuffer × Attitude F :=
  usart2Port.rxEntry hwt101DataProc state chunk

end Attitude

end PlantAssistant.Firmware
