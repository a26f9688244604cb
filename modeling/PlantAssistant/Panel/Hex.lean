import Mathlib.Data.List.Basic
import Mathlib.Tactic.Common

/-! # Bytes as hexadecimal text

The panel builds its commands as text such as `AA 10 02 55` and converts them
with `bytes.fromhex` when it writes them. Text is a list of characters.
-/

namespace PlantAssistant.Panel

abbrev Text := List Char

/-- One digit of the format `X`. -/
def hexDigit (n : ℕ) : Char :=
  if n < 10 then Char.ofNat (0x30 + n) else Char.ofNat (0x41 + (n - 10))

/-- `f"{value:02X}"`. -/
def hex02 (value : UInt8) : Text :=
  [hexDigit (value.toNat / 16), hexDigit (value.toNat % 16)]

/-- `" ".join(f"{value:02X}" for value in bytes)`, which is also
`bytes.hex(" ").upper()`. -/
def hexText : List UInt8 → Text
  | [] => []
  | [value] => hex02 value
  | value :: next :: rest => hex02 value ++ ' ' :: hexText (next :: rest)

def hexValue (c : Char) : Option ℕ :=
  if '0' ≤ c ∧ c ≤ '9' then some (c.toNat - 0x30)
  else if 'A' ≤ c ∧ c ≤ 'F' then some (c.toNat - 0x41 + 10)
  else if 'a' ≤ c ∧ c ≤ 'f' then some (c.toNat - 0x61 + 10)
  else none

/-- The white space `bytes.fromhex` skips between bytes. -/
def isAsciiSpace (c : Char) : Bool :=
  c = ' ' || c = '\t' || c = '\n' || c = '\r' || c = '\x0b' || c = '\x0c'

/-- `bytes.fromhex`, with `none` for `ValueError`. -/
def fromHex : Text → Option (List UInt8)
  | [] => some []
  | c :: rest =>
      if isAsciiSpace c then fromHex rest
      else
        match rest with
        | [] => none
        | d :: rest =>
            match hexValue c, hexValue d with
            | some hi, some lo => (fromHex rest).map (UInt8.ofNat (hi * 16 + lo) :: ·)
            | _, _ => none

/-- The characters `str.strip` removes. -/
def isSpace (c : Char) : Bool :=
  isAsciiSpace c || (0x1c ≤ c.toNat && c.toNat ≤ 0x1f) ||
    c.toNat ∈ [0x85, 0xa0, 0x1680, 0x2028, 0x2029, 0x202f, 0x205f, 0x3000] ||
    (0x2000 ≤ c.toNat && c.toNat ≤ 0x200a)

def strip (text : Text) : Text :=
  ((text.dropWhile isSpace).reverse.dropWhile isSpace).reverse

/-- What `send_payload` writes for a text: the bytes it spells, or the text
itself in UTF-8. -/
def payloadBytes (payload : Text) : List UInt8 :=
  match fromHex (strip payload) with
  | some data => data
  | none => (String.ofList (strip payload)).toUTF8.toList

/-! ## Round trip -/

theorem hexValue_hexDigit : ∀ n < 16, hexValue (hexDigit n) = some n := by decide

theorem isSpace_hexDigit : ∀ n < 16, isSpace (hexDigit n) = false := by decide

theorem isAsciiSpace_hexDigit {n : ℕ} (hn : n < 16) : isAsciiSpace (hexDigit n) = false := by
  have hspace := isSpace_hexDigit n hn
  simp only [isSpace, Bool.or_eq_false_iff] at hspace
  exact hspace.1.1.1

theorem fromHex_hex02 (value : UInt8) (text : Text) :
    fromHex (hex02 value ++ text) = (fromHex text).map (value :: ·) := by
  have hhi : value.toNat / 16 < 16 := by have := value.toNat_lt; omega
  have hlo : value.toNat % 16 < 16 := Nat.mod_lt _ (by decide)
  simp only [hex02, List.cons_append, List.nil_append, fromHex, isAsciiSpace_hexDigit hhi,
    hexValue_hexDigit _ hhi, hexValue_hexDigit _ hlo, Bool.false_eq_true, if_false]
  rw [Nat.div_add_mod', UInt8.ofNat_toNat]

theorem fromHex_space (text : Text) : fromHex (' ' :: text) = fromHex text := by
  rw [fromHex.eq_def]
  rfl

theorem fromHex_hexText (bytes : List UInt8) : fromHex (hexText bytes) = some bytes := by
  induction bytes using hexText.induct with
  | case1 => rfl
  | case2 value => simpa [hexText, fromHex] using fromHex_hex02 value []
  | case3 value next rest ih =>
      rw [hexText, fromHex_hex02, fromHex_space, ih]
      rfl

theorem hexText_ends (bytes : List UInt8) (hbytes : bytes ≠ []) :
    (∃ n < 16, ∃ rest, hexText bytes = hexDigit n :: rest) ∧
      ∃ n < 16, ∃ front, hexText bytes = front ++ [hexDigit n] := by
  have hhi (value : UInt8) : value.toNat / 16 < 16 := by have := value.toNat_lt; omega
  have hlo (value : UInt8) : value.toNat % 16 < 16 := Nat.mod_lt _ (by decide)
  induction bytes using hexText.induct with
  | case1 => exact absurd rfl hbytes
  | case2 value => exact ⟨⟨_, hhi value, _, rfl⟩, ⟨_, hlo value, [_], rfl⟩⟩
  | case3 value next rest ih =>
      obtain ⟨-, n, hn, front, hfront⟩ := ih (by simp)
      exact ⟨⟨_, hhi value, _, rfl⟩, ⟨n, hn, hex02 value ++ ' ' :: front, by
        rw [hexText, hfront, List.append_assoc, List.cons_append]⟩⟩

/-- Stripping removes nothing from a text that starts and ends with a digit. -/
theorem strip_hexText (bytes : List UInt8) : strip (hexText bytes) = hexText bytes := by
  by_cases hbytes : bytes = []
  · subst hbytes
    rfl
  obtain ⟨⟨n, hn, rest, hrest⟩, ⟨m, hm, front, hfront⟩⟩ := hexText_ends bytes hbytes
  have hfirst : (hexText bytes).dropWhile isSpace = hexText bytes := by
    rw [hrest, List.dropWhile_cons, isSpace_hexDigit n hn]
    rfl
  have hlast : (hexText bytes).reverse.dropWhile isSpace = (hexText bytes).reverse := by
    rw [hfront, List.reverse_append, List.reverse_singleton, List.singleton_append,
      List.dropWhile_cons, isSpace_hexDigit m hm]
    rfl
  rw [strip, hfirst, hlast, List.reverse_reverse]

/-- Writing the hexadecimal text of some bytes writes these bytes. -/
theorem payloadBytes_hexText (bytes : List UInt8) : payloadBytes (hexText bytes) = bytes := by
  rw [payloadBytes, strip_hexText, fromHex_hexText]

end PlantAssistant.Panel
