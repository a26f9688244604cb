import Mathlib.Data.List.Basic
import Mathlib.Data.UInt
import Mathlib.Tactic.Common

/-! # Codecs

A codec writes values and reads one back from the front of a stream. What it
reads is exactly what it writes: no other bytes spell a value. Codecs of the
fields make up the codec of a record, and a record that is written back to back
can be read back one by one.
-/

namespace Framing

universe u v w

/-- Writing values, and reading one from the front of a stream. -/
structure Codec (α : Type u) (β : Type v) where
  encode : α → List β
  decode : List β → Option (α × List β)
  decode_eq_some_iff : ∀ {stream value rest},
    decode stream = some (value, rest) ↔ stream = encode value ++ rest

namespace Codec

variable {α α' : Type u} {β : Type v}

@[simp] theorem decode_encode (codec : Codec α β) (value : α) (rest : List β) :
    codec.decode (codec.encode value ++ rest) = some (value, rest) :=
  codec.decode_eq_some_iff.mpr rfl

theorem encode_append_inj (codec : Codec α β) {value value' : α} {rest rest' : List β}
    (hstreams : codec.encode value ++ rest = codec.encode value' ++ rest') :
    value = value' ∧ rest = rest' := by
  have hread := codec.decode_encode value rest
  rw [hstreams, decode_encode, Option.some.injEq, Prod.mk.injEq] at hread
  exact ⟨hread.1.symm, hread.2.symm⟩

/-! ## Fields -/

/-- No bytes for the only value. -/
def unit : Codec PUnit.{u + 1} β where
  encode _ := []
  decode stream := some (⟨⟩, stream)
  decode_eq_some_iff := by
    intro stream value rest
    simp

/-- One symbol as it is. -/
def symbol : Codec β β where
  encode value := [value]
  decode
    | [] => none
    | value :: rest => some (value, rest)
  decode_eq_some_iff := by
    intro stream value rest
    cases stream with
    | nil => simp
    | cons head tail => simp

/-- Two fields, one after the other. -/
def pair (first : Codec α β) (second : Codec α' β) : Codec (α × α') β where
  encode value := first.encode value.1 ++ second.encode value.2
  decode stream :=
    (first.decode stream).bind fun (value, rest) =>
      (second.decode rest).map fun (value', rest') => ((value, value'), rest')
  decode_eq_some_iff := by
    rintro stream ⟨value, value'⟩ rest
    rw [List.append_assoc, ← first.decode_eq_some_iff]
    constructor
    · intro hread
      obtain ⟨⟨first', rest'⟩, hfirst, hread⟩ := Option.bind_eq_some_iff.mp hread
      obtain ⟨⟨second', rest''⟩, hsecond, hpair⟩ := Option.map_eq_some_iff.mp hread
      simp only [Prod.mk.injEq] at hpair
      obtain ⟨⟨rfl, rfl⟩, rfl⟩ := hpair
      rw [hfirst, second.decode_eq_some_iff.mp hsecond]
    · intro hfirst
      rw [hfirst]
      simp

/-- A tag, and the fields that this tag has. -/
def tagged {τ : Type u} {args : τ → Type u} (tag : Codec τ β) (fields : ∀ t, Codec (args t) β) :
    Codec (Σ t, args t) β where
  encode value := tag.encode value.1 ++ (fields value.1).encode value.2
  decode stream :=
    (tag.decode stream).bind fun (t, rest) =>
      ((fields t).decode rest).map fun (value, rest') => (⟨t, value⟩, rest')
  decode_eq_some_iff := by
    rintro stream ⟨t, value⟩ rest
    rw [List.append_assoc, ← tag.decode_eq_some_iff]
    constructor
    · intro hread
      obtain ⟨⟨t', rest'⟩, htag, hread⟩ := Option.bind_eq_some_iff.mp hread
      obtain ⟨⟨value', rest''⟩, hvalue, heq⟩ := Option.map_eq_some_iff.mp hread
      simp only [Prod.mk.injEq, Sigma.mk.injEq] at heq
      obtain ⟨⟨rfl, hvalues⟩, rfl⟩ := heq
      obtain rfl := eq_of_heq hvalues
      rw [htag, (fields t').decode_eq_some_iff.mp hvalue]
    · intro htag
      rw [htag]
      simp

/-- Values that stand for those of another codec. -/
def iso (codec : Codec α β) (equiv : α ≃ α') : Codec α' β where
  encode value := codec.encode (equiv.symm value)
  decode stream := (codec.decode stream).map fun (value, rest) => (equiv value, rest)
  decode_eq_some_iff := by
    intro stream value rest
    rw [← codec.decode_eq_some_iff, Option.map_eq_some_iff]
    constructor
    · rintro ⟨⟨value', rest'⟩, hread, heq⟩
      simp only [Prod.mk.injEq] at heq
      obtain ⟨rfl, rfl⟩ := heq
      rw [hread, Equiv.symm_apply_apply]
    · intro hread
      exact ⟨_, hread, by simp⟩

/-- A field behind which stands a fixed end. -/
def terminated [DecidableEq β] (codec : Codec α β) (last : β) : Codec α β where
  encode value := codec.encode value ++ [last]
  decode stream :=
    (codec.decode stream).bind fun (value, rest) =>
      if rest.head? = some last then some (value, rest.tail) else none
  decode_eq_some_iff := by
    intro stream value rest
    rw [List.append_assoc, ← codec.decode_eq_some_iff]
    constructor
    · intro hread
      obtain ⟨⟨value', rest'⟩, hvalue, hread⟩ := Option.bind_eq_some_iff.mp hread
      dsimp only at hread
      split_ifs at hread with hlast
      simp only [Option.some.injEq, Prod.mk.injEq] at hread
      obtain ⟨rfl, rfl⟩ := hread
      rw [hvalue, List.singleton_append, List.cons_head?_tail hlast]
    · intro hvalue
      rw [hvalue]
      simp

section Table

variable {τ : Type u} [DecidableEq β]

/-- The tags of a table, none of whose words begins another. -/
def table (tags : List τ) (word : τ → List β) (hall : ∀ t, t ∈ tags)
    (hfree : ∀ t ∈ tags, ∀ t' ∈ tags, word t <+: word t' → t = t') : Codec τ β where
  encode := word
  decode stream :=
    (tags.find? fun t => (word t).isPrefixOf stream).map fun t =>
      (t, stream.drop (word t).length)
  decode_eq_some_iff := by
    intro stream t rest
    rw [Option.map_eq_some_iff]
    constructor
    · rintro ⟨t', hfound, heq⟩
      simp only [Prod.mk.injEq] at heq
      obtain ⟨rfl, rfl⟩ := heq
      have hprefix := List.find?_some hfound
      obtain ⟨rest, rfl⟩ := List.isPrefixOf_iff_prefix.mp hprefix
      rw [List.drop_left]
    · rintro rfl
      cases hfound : tags.find? fun t' => (word t').isPrefixOf (word t ++ rest) with
      | none =>
          have hmissed := List.find?_eq_none.mp hfound t (hall t)
          exact absurd (List.isPrefixOf_iff_prefix.mpr (List.prefix_append _ _)) hmissed
      | some t' =>
          -- both words begin the stream, so that one begins the other
          have hfits := List.find?_some hfound
          have hprefix := List.isPrefixOf_iff_prefix.mp hfits
          have hsame : t' = t := by
            rcases List.prefix_or_prefix_of_prefix hprefix (List.prefix_append (word t) rest) with
              hshort | hlong
            · exact hfree t' (hall t') t (hall t) hshort
            · exact (hfree t (hall t) t' (hall t') hlong).symm
          subst hsame
          exact ⟨t', rfl, by rw [List.drop_left]⟩

end Table

/-! ## Fields of bytes -/

/-- The big-endian halves of a word. -/
def halves16 : UInt8 × UInt8 ≃ UInt16 where
  toFun bytes := UInt16.ofNat (bytes.1.toNat * 256 + bytes.2.toNat)
  invFun value := ((value >>> 8).toUInt8, value.toUInt8)
  left_inv := by
    rintro ⟨hi, lo⟩
    have hhi := hi.toNat_lt
    have hlo := lo.toNat_lt
    apply Prod.ext <;> apply UInt8.toNat_inj.mp
    · simp [Nat.shiftRight_eq_div_pow]
      omega
    · simp
  right_inv := by
    intro value
    have hvalue := value.toNat_lt
    apply UInt16.toNat_inj.mp
    simp [Nat.shiftRight_eq_div_pow]
    omega

def halves32 : UInt16 × UInt16 ≃ UInt32 where
  toFun words := UInt32.ofNat (words.1.toNat * 65536 + words.2.toNat)
  invFun value := ((value >>> 16).toUInt16, value.toUInt16)
  left_inv := by
    rintro ⟨hi, lo⟩
    have hhi := hi.toNat_lt
    have hlo := lo.toNat_lt
    apply Prod.ext <;> apply UInt16.toNat_inj.mp
    · simp [Nat.shiftRight_eq_div_pow]
      omega
    · simp
  right_inv := by
    intro value
    have hvalue := value.toNat_lt
    apply UInt32.toNat_inj.mp
    simp [Nat.shiftRight_eq_div_pow]
    omega

def byte : Codec UInt8 UInt8 := symbol

def word : Codec UInt16 UInt8 := (byte.pair byte).iso halves16

def dword : Codec UInt32 UInt8 := (word.pair word).iso halves32

/-- A truth value as a byte of 0 or 1. -/
def flag : Codec Bool UInt8 :=
  table [false, true] (fun value => [value.toUInt8]) (by decide) (by decide)

/-! ## Streams -/

/-- Reading values until the stream ends, with a bound on their number. -/
def readAll (codec : Codec α β) : ℕ → List β → Option (List α)
  | _, [] => some []
  | 0, _ :: _ => none
  | fuel + 1, stream =>
      (codec.decode stream).bind fun (value, rest) =>
        (codec.readAll fuel rest).map (value :: ·)

/-- Reading a stream of values that each take at least one symbol. -/
def decodeAll (codec : Codec α β) (stream : List β) : Option (List α) :=
  codec.readAll stream.length stream

variable (codec : Codec α β)

theorem readAll_sound {fuel : ℕ} {stream : List β} {values : List α}
    (hread : codec.readAll fuel stream = some values) : stream = values.flatMap codec.encode := by
  induction fuel generalizing stream values with
  | zero =>
      cases stream with
      | nil =>
          rw [readAll, Option.some.injEq] at hread
          rw [← hread, List.flatMap_nil]
      | cons symbol stream => exact absurd hread (by simp [readAll])
  | succ fuel ih =>
      cases stream with
      | nil =>
          rw [readAll, Option.some.injEq] at hread
          rw [← hread, List.flatMap_nil]
      | cons symbol stream =>
          obtain ⟨⟨value, rest⟩, hvalue, hread⟩ := Option.bind_eq_some_iff.mp hread
          obtain ⟨values, hvalues, rfl⟩ := Option.map_eq_some_iff.mp hread
          rw [codec.decode_eq_some_iff.mp hvalue, ih hvalues, List.flatMap_cons]

theorem readAll_flatMap (hnonempty : ∀ value, codec.encode value ≠ []) {fuel : ℕ}
    (values : List α) (hfuel : values.length ≤ fuel) :
    codec.readAll fuel (values.flatMap codec.encode) = some values := by
  induction values generalizing fuel with
  | nil => cases fuel <;> rfl
  | cons value values ih =>
      obtain ⟨fuel, rfl⟩ : ∃ fuel', fuel = fuel' + 1 :=
        Nat.exists_eq_add_one.mpr (Nat.lt_of_lt_of_le (Nat.succ_pos _) hfuel)
      have hrest := ih (Nat.le_of_succ_le_succ hfuel)
      have hread := codec.decode_encode value (values.flatMap codec.encode)
      obtain ⟨symbol, tail, hcons⟩ := List.exists_cons_of_ne_nil
        (List.append_ne_nil_of_left_ne_nil (hnonempty value) (values.flatMap codec.encode))
      rw [List.flatMap_cons, hcons, readAll, ← hcons, hread]
      · simp only [Option.bind_some, hrest, Option.map_some]
      · exact List.cons_ne_nil _ _

theorem length_le_flatMap (hnonempty : ∀ value, codec.encode value ≠ []) (values : List α) :
    values.length ≤ (values.flatMap codec.encode).length := by
  induction values with
  | nil => simp
  | cons value values ih =>
      have hvalue := List.length_pos_iff.mpr (hnonempty value)
      rw [List.flatMap_cons, List.length_append, List.length_cons]
      omega

/-- One stream begins another exactly if its values do, so that the streams of
different values differ. -/
theorem flatMap_encode_prefix_iff (hnonempty : ∀ value, codec.encode value ≠ [])
    {values values' : List α} :
    values.flatMap codec.encode <+: values'.flatMap codec.encode ↔ values <+: values' := by
  constructor
  · intro hprefix
    induction values generalizing values' with
    | nil => exact List.nil_prefix
    | cons value values ih =>
        obtain ⟨tail, htail⟩ := hprefix
        rw [List.flatMap_cons, List.append_assoc] at htail
        cases values' with
        | nil =>
            have hempty := List.append_eq_nil_iff.mp htail
            exact absurd hempty.1 (hnonempty value)
        | cons value' values' =>
            rw [List.flatMap_cons] at htail
            obtain ⟨rfl, hrest⟩ := codec.encode_append_inj htail
            exact List.cons_prefix_cons.mpr ⟨rfl, ih ⟨tail, hrest⟩⟩
  · rintro ⟨rest, rfl⟩
    rw [List.flatMap_append]
    exact List.prefix_append _ _

/-- A stream reads as these values exactly if it is what they are written as. -/
theorem decodeAll_eq_some_iff (hnonempty : ∀ value, codec.encode value ≠ []) {stream : List β}
    {values : List α} :
    codec.decodeAll stream = some values ↔ stream = values.flatMap codec.encode := by
  constructor
  · exact codec.readAll_sound
  · rintro rfl
    exact codec.readAll_flatMap hnonempty values (codec.length_le_flatMap hnonempty values)

end Codec

end Framing
