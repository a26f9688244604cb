import PlantAssistant.Firmware.CFloat

/-! # Texts of numbers

The display in `main.c` and the debug output in `VL53_DMA.c` each have their own
functions that append to a string. A buffer is the text in it, without the
terminator.
-/

namespace PlantAssistant.Firmware

/-- Reduction to `unsigned long`. -/
def uint32 (n : ℕ) : ℕ := n % 2 ^ 32

/-- Conversion of a float to `unsigned long` and to `long`. -/
def CFloat.toUInt32 {F : Type} [CFloat F] (x : F) : ℕ := (CFloat.toInt x % 2 ^ 32).toNat

def CFloat.toInt32 {F : Type} [CFloat F] (x : F) : ℤ := (CFloat.toInt x).bmod (2 ^ 32)

/-- `main_append_char` and `VL53_AppendChar`. -/
def appendChar (ch : Char) (buffer : List Char) : List Char := buffer ++ [ch]

/-- `(char)('0' + (value % 10))`. -/
def lastDigit (value : ℕ) : Char := Char.ofNat ('0'.toNat + value % 10)

/-- What the loop of `main_append_unsigned` and `VL53_AppendUnsigned` leaves in `temp`. -/
def unsignedTemp (value : ℕ) : List Char :=
  if 0 < value then lastDigit value :: unsignedTemp (value / 10) else []
termination_by value
decreasing_by omega

/-- `main_append_unsigned` and `VL53_AppendUnsigned`. -/
def appendUnsigned (value : ℕ) (buffer : List Char) : List Char :=
  if value = 0 then appendChar '0' buffer else buffer ++ (unsignedTemp value).reverse

/-- `scale` after the loop that multiplies it by ten. -/
def powerOfTen (decimals : ℕ) : ℕ :=
  (List.range decimals).foldl (fun scale _ => uint32 (scale * 10)) 1

section Fixed

variable {F : Type} [CFloat F]

/-- `main_append_fixed`. -/
def mainAppendFixed (value : F) (decimals : ℕ) (buffer : List Char) : List Char :=
  let scale := powerOfTen decimals
  let buffer := if value < CFloat.lit 0 then appendChar '-' buffer else buffer
  let value := if value < CFloat.lit 0 then -value else value
  let value := value + CFloat.lit (1 / 2) / CFloat.lit scale
  let integer := CFloat.toUInt32 value
  let fraction := CFloat.toUInt32 ((value - CFloat.lit integer) * CFloat.lit scale)
  let buffer := appendUnsigned integer buffer
  if 0 < decimals then
    (List.range decimals).foldl
      (fun buffer k => appendChar (lastDigit (fraction / powerOfTen (decimals - k - 1))) buffer)
      (appendChar '.' buffer)
  else buffer

/-- `VL53_AppendSigned`. -/
def vl53AppendSigned (value : ℤ) (buffer : List Char) : List Char :=
  if value < 0 then appendUnsigned (-value % 2 ^ 32).toNat (appendChar '-' buffer)
  else appendUnsigned (value % 2 ^ 32).toNat buffer

/-- The loop of `VL53_AppendFloat` over the decimals; every pass divides `scale`. -/
def vl53AppendDecimals (fracPart : ℕ) : ℕ → ℕ → List Char → List Char
  | 0, _, buffer => buffer
  | decimals + 1, scale, buffer =>
      let div := scale / 10
      vl53AppendDecimals fracPart decimals div (appendChar (lastDigit (fracPart / div)) buffer)

/-- `VL53_AppendFloat`. -/
def vl53AppendFloat (value : F) (decimals : ℕ) (buffer : List Char) : List Char :=
  let scale := powerOfTen decimals
  let buffer := if value < CFloat.lit 0 then appendChar '-' buffer else buffer
  let value := if value < CFloat.lit 0 then -value else value
  let intPart := CFloat.toInt32 value
  let fracPart :=
    CFloat.toUInt32 ((value - CFloat.lit intPart) * CFloat.lit scale + CFloat.lit (1 / 2))
  let carry := scale ≤ fracPart
  let intPart := if carry then (intPart + 1).bmod (2 ^ 32) else intPart
  let fracPart := if carry then fracPart - scale else fracPart
  let buffer := vl53AppendSigned intPart buffer
  if decimals = 0 then buffer
  else vl53AppendDecimals fracPart decimals scale (appendChar '.' buffer)

end Fixed

end PlantAssistant.Firmware
