import Mathlib.Data.List.Basic
import Mathlib.Tactic.Common

/-! # Bit streams packed into bytes, most significant bit first

A receiver shifts each bit into the current byte from the right and moves to
the next byte after eight. Bytes not reached yet are zero.
-/

namespace Bits

/-- The number a bit string spells. -/
def value (bits : List Bool) : ℕ :=
  bits.foldl (fun v bit => 2 * v + bit.toNat) 0

/-- The bits of a byte. -/
def ofByte (byte : UInt8) : List Bool :=
  (List.range 8).map fun k => byte.toNat.testBit (7 - k)

/-- `count` bytes filled from a bit string. -/
def pack (count : ℕ) (bits : List Bool) : List UInt8 :=
  (List.range count).map fun j => UInt8.ofNat (value ((bits.drop (8 * j)).take 8))

/-- Shifting one more bit into a byte. -/
def shiftIn (bit : Bool) (byte : UInt8) : UInt8 :=
  (byte <<< 1) ||| UInt8.ofNat bit.toNat

@[simp] theorem length_ofByte (byte : UInt8) : (ofByte byte).length = 8 := by
  simp [ofByte]

@[simp] theorem length_pack (count : ℕ) (bits : List Bool) : (pack count bits).length = count := by
  simp [pack]

theorem value_concat (bits : List Bool) (bit : Bool) :
    value (bits ++ [bit]) = 2 * value bits + bit.toNat := by
  simp [value]

theorem value_ofByte (byte : UInt8) : value (ofByte byte) = byte.toNat := by
  have hall : ∀ n < 256, value ((List.range 8).map fun k => Nat.testBit n (7 - k)) = n := by
    decide +kernel
  exact hall byte.toNat byte.toNat_lt

theorem shiftIn_ofNat (bit : Bool) (n : ℕ) :
    shiftIn bit (UInt8.ofNat n) = UInt8.ofNat (2 * n + bit.toNat) := by
  apply UInt8.toNat_inj.mp
  have hbit : bit.toNat < 2 := Bool.toNat_lt bit
  have hor := Nat.two_pow_add_eq_or_of_lt (i := 1) (b := bit.toNat) (by simpa using hbit) (n % 128)
  simp only [shiftIn, UInt8.toNat_or, UInt8.toNat_shiftLeft, UInt8.toNat_ofNat',
    UInt8.reduceToNat, Nat.shiftLeft_eq]
  have hshift : n % 2 ^ 8 * 2 ^ (1 % 8) % 2 ^ 8 = 2 ^ 1 * (n % 128) := by
    have hexp : 2 ^ (1 % 8) = 2 := rfl
    rw [hexp]
    omega
  have hsmall : bit.toNat < 2 ^ 8 := by omega
  rw [Nat.mod_eq_of_lt hsmall, hshift, ← hor]
  omega

/-- Shifting a bit into the byte that is being filled fills in one bit more. -/
theorem pack_concat (count : ℕ) (bits : List Bool) (bit : Bool) :
    (pack count bits).modify (bits.length / 8) (shiftIn bit) = pack count (bits ++ [bit]) := by
  apply List.ext_getElem (by simp)
  intro j hj _
  simp only [List.length_modify, length_pack] at hj
  rw [List.getElem_modify]
  simp only [pack, List.getElem_map, List.getElem_range]
  split
  next hcurrent =>
    -- the byte being filled has fewer than eight bits so far
    have hdrop : 8 * j ≤ bits.length := by omega
    have htail : (bits.drop (8 * j)).length < 8 := by rw [List.length_drop]; omega
    rw [List.drop_append_of_le_length hdrop, List.take_of_length_le (by omega),
      List.take_of_length_le (by simp at htail ⊢; omega), value_concat, shiftIn_ofNat]
  next hother =>
    -- the others are full, or still empty
    rcases Nat.lt_or_ge j (bits.length / 8) with hfull | hempty
    · rw [List.drop_append_of_le_length (by omega),
        List.take_append_of_le_length (by rw [List.length_drop]; omega)]
    · rw [List.drop_eq_nil_of_le (by omega), List.drop_eq_nil_of_le (by simp; omega)]

theorem drop_flatMap_ofByte (bytes : List UInt8) (j : ℕ) :
    (bytes.flatMap ofByte).drop (8 * j) = (bytes.drop j).flatMap ofByte := by
  induction bytes generalizing j with
  | nil => simp
  | cons byte bytes ih =>
      cases j with
      | zero => rfl
      | succ j =>
          have hbits : 8 * (j + 1) = (ofByte byte).length + 8 * j := by
            rw [length_ofByte]
            omega
          rw [List.flatMap_cons, List.drop_succ_cons, ← ih j, hbits, List.drop_append]
          simp

/-- Packing the bits of some bytes gives these bytes. -/
theorem pack_flatMap_ofByte (bytes : List UInt8) :
    pack bytes.length (bytes.flatMap ofByte) = bytes := by
  apply List.ext_getElem (by simp)
  intro j _ hj
  simp only [pack, List.getElem_map, List.getElem_range]
  rw [drop_flatMap_ofByte, List.drop_eq_getElem_cons hj, List.flatMap_cons,
    List.take_append_of_le_length (by simp), List.take_of_length_le (by simp), value_ofByte,
    UInt8.ofNat_toNat]

end Bits
