import PlantAssistant.Bits.MsbFirst

/-! # Listening to a clock line and a data line

The data line keeps its level while the clock is high, and a bit is over when
the clock falls; a fall or a rise of the data line in between starts or stops a
transaction. A transaction consists of bytes, most significant bit first, each
with a ninth bit that is low if the byte was acknowledged.
-/

namespace TwoWire

structure Levels where
  clock : Bool
  data : Bool
deriving DecidableEq, Repr

inductive Signal where
  | start
  | bit (value : Bool)
  | stop
deriving DecidableEq, Repr

/-! ## From levels to signals -/

/-- The last levels, whether the clock has been high with one level of the data
line since, and what was heard. -/
structure Listener where
  last : Levels
  steady : Bool
  heard : List Signal
deriving DecidableEq, Repr

/-- A listener on two lines that are high. -/
def Listener.init : Listener := ⟨⟨true, true⟩, false, []⟩

def Listener.hear (l : Listener) (now : Levels) : Listener :=
  if l.last.clock then
    if now.clock then
      if now.data = l.last.data then { l with last := now }
      else ⟨now, false, l.heard ++ [if now.data then .stop else .start]⟩
    else ⟨now, false, if l.steady then l.heard ++ [.bit l.last.data] else l.heard⟩
  else ⟨now, now.clock, l.heard⟩

def listen (trace : List Levels) : Listener := trace.foldl Listener.hear .init

theorem listen_concat (trace : List Levels) (now : Levels) :
    listen (trace ++ [now]) = (listen trace).hear now := by
  rw [listen, List.foldl_concat]
  rfl

/-! ## From signals to transactions -/

/-- The bytes of a transaction, with whether they were acknowledged. -/
abbrev Transaction := List (UInt8 × Bool)

/-- The transactions so far, and the bytes and the bits of the one that is under
way. -/
structure Collector where
  done : List Transaction
  current : Option (Transaction × List Bool)
deriving DecidableEq, Repr

def Collector.take (c : Collector) : Signal → Collector
  | .start =>
      match c.current with
      | none => { c with current := some ([], []) }
      | some (bytes, _) => ⟨c.done ++ [bytes], some ([], [])⟩
  | .bit value =>
      match c.current with
      | none => c
      | some (bytes, bits) =>
          if bits.length = 8 then
            { c with current := some (bytes ++ [(UInt8.ofNat (Bits.value bits), !value)], []) }
          else { c with current := some (bytes, bits ++ [value]) }
  | .stop =>
      match c.current with
      | none => c
      | some (bytes, _) => ⟨c.done ++ [bytes], none⟩

def collect (signals : List Signal) : Collector := signals.foldl Collector.take ⟨[], none⟩

/-- The transactions of a trace. -/
def transactions (trace : List Levels) : List Transaction := (collect (listen trace).heard).done

theorem collect_append (first second : List Signal) :
    collect (first ++ second) = second.foldl Collector.take (collect first) :=
  List.foldl_append

/-! ## Bytes -/

theorem take_bits (done : List Transaction) (bytes : Transaction) (bits bits' : List Bool)
    (hlength : bits.length + bits'.length ≤ 8) :
    (bits'.map Signal.bit).foldl Collector.take ⟨done, some (bytes, bits)⟩ =
      ⟨done, some (bytes, bits ++ bits')⟩ := by
  induction bits' generalizing bits with
  | nil => rw [List.map_nil, List.foldl_nil, List.append_nil]
  | cons bit bits' ih =>
      rw [List.length_cons] at hlength
      have hroom : ¬ bits.length = 8 := by omega
      have hnext : (bits ++ [bit]).length + bits'.length ≤ 8 := by
        rw [List.length_append, List.length_singleton]
        omega
      rw [List.map_cons, List.foldl_cons, Collector.take]
      dsimp only
      rw [if_neg hroom, ih _ hnext, List.append_assoc, List.singleton_append]

/-- The eight bits of a byte, before the one that answers it. -/
theorem take_eightBits (done : List Transaction) (bytes : Transaction) (byte : UInt8) :
    ((Bits.ofByte byte).map Signal.bit).foldl Collector.take ⟨done, some (bytes, [])⟩ =
      ⟨done, some (bytes, Bits.ofByte byte)⟩ := by
  apply take_bits
  simp

/-- A byte that is answered by a bit. -/
theorem take_byte (done : List Transaction) (bytes : Transaction) (byte : UInt8) (bit : Bool) :
    ((Bits.ofByte byte).map Signal.bit ++ [Signal.bit bit]).foldl Collector.take
        ⟨done, some (bytes, [])⟩ =
      ⟨done, some (bytes ++ [(byte, !bit)], [])⟩ := by
  rw [List.foldl_append, take_eightBits, List.foldl_cons, List.foldl_nil, Collector.take]
  simp [Bits.value_ofByte]

end TwoWire
