import PlantAssistant.Firmware.OledI2c

/-! # What the display hears

Each call of `OLED_Command` or `OLED_Data` is one transaction on the wires, of
the three bytes it sends or of those up to the first that is not acknowledged.
A transaction that is given up is stopped twice. All this supposes that the
display answers before the clock rises: a later change of the line looks like a
start or a stop, though `IIC_Wait_Ack` goes on waiting for it.
-/

namespace PlantAssistant.Display

open TwoWire PlantAssistant.Firmware

/-! ## States of the wires -/

/-- What a listener on the wires has heard. -/
def heardOn (s : IicBus) : Listener := listen s.trace

@[simp] theorem heardOn_traced (s : IicBus) :
    heardOn s.traced = (heardOn s).hear ⟨s.scl, s.sda⟩ := listen_concat _ _

/-- The clock is low, in the middle of a transaction. -/
structure Clocked (s : IicBus) (heard : List Signal) : Prop where
  scl : s.scl = false
  clock : (heardOn s).last.clock = false
  heard : (heardOn s).heard = heard

/-- The clock is high, and the data line has not changed since it rose. -/
structure High (s : IicBus) (heard : List Signal) : Prop where
  scl : s.scl = true
  listener : heardOn s = ⟨⟨true, s.sda⟩, true, heard⟩

/-- Both lines are high after a stop. -/
structure Idle (s : IicBus) (heard : List Signal) : Prop where
  scl : s.scl = true
  latch : s.latch = true
  output : s.output = true
  listener : heardOn s = ⟨⟨true, true⟩, false, heard⟩

theorem idle_init : Idle .init [] := ⟨rfl, rfl, rfl, rfl⟩

section Steps

variable {s u : IicBus} {heard : List Signal}

/-- While the clock is low, the data line may do anything. -/
theorem Clocked.traced (hclocked : Clocked s heard) (hscl : u.scl = false)
    (htrace : u.trace = s.trace) : Clocked u.traced heard := by
  have hsame : heardOn u = heardOn s := by rw [heardOn, htrace, heardOn]
  have hstep : heardOn u.traced = ⟨⟨false, u.sda⟩, false, heard⟩ := by
    rw [heardOn_traced, hsame, Listener.hear, hclocked.clock, hscl, hclocked.heard,
      if_neg Bool.false_ne_true]
  exact ⟨hscl, by rw [hstep], by rw [hstep]⟩

theorem Clocked.rise (hclocked : Clocked s heard) : High (s.writeScl true) heard := by
  refine ⟨rfl, ?_⟩
  rw [IicBus.writeScl, heardOn_traced]
  change (heardOn s).hear ⟨true, s.sda⟩ = ⟨⟨true, s.sda⟩, true, heard⟩
  rw [Listener.hear, hclocked.clock, hclocked.heard, if_neg Bool.false_ne_true]

theorem High.fall (hhigh : High s heard) : Clocked (s.writeScl false) (heard ++ [.bit s.sda]) := by
  have hstep : heardOn (s.writeScl false) = ⟨⟨false, s.sda⟩, false, heard ++ [.bit s.sda]⟩ := by
    rw [IicBus.writeScl, heardOn_traced]
    change (heardOn s).hear ⟨false, s.sda⟩ = _
    rw [hhigh.listener]
    simp [Listener.hear]
  exact ⟨rfl, by rw [hstep], by rw [hstep]⟩

/-! ## Starting and stopping -/

theorem Idle.traced (hidle : Idle s heard) (hscl : u.scl = true) (hlatch : u.latch = true)
    (houtput : u.output = true) (htrace : u.trace = s.trace) : Idle u.traced heard := by
  refine ⟨hscl, hlatch, houtput, ?_⟩
  have hsame : heardOn u = heardOn s := by rw [heardOn, htrace, heardOn]
  rw [heardOn_traced, hsame, hidle.listener, hscl, IicBus.sda, if_pos houtput, hlatch]
  rfl

theorem Idle.start (hidle : Idle s heard) : Clocked s.iicStart (heard ++ [.start]) := by
  have hout : Idle s.sdaOut heard := hidle.traced hidle.scl hidle.latch rfl rfl
  have hdata : Idle (s.sdaOut.writeSda true) heard := hout.traced hout.scl rfl rfl rfl
  have hready : Idle ((s.sdaOut.writeSda true).writeScl true) heard :=
    hdata.traced rfl rfl rfl rfl
  have hstart : heardOn (((s.sdaOut.writeSda true).writeScl true).writeSda false) =
      ⟨⟨true, false⟩, false, heard ++ [.start]⟩ := by
    rw [IicBus.writeSda, heardOn_traced]
    change (heardOn ((s.sdaOut.writeSda true).writeScl true)).hear ⟨true, false⟩ = _
    rw [hready.listener]
    rfl
  have hlow : heardOn s.iicStart = ⟨⟨false, false⟩, false, heard ++ [.start]⟩ := by
    rw [IicBus.iicStart, IicBus.writeScl, heardOn_traced]
    change (heardOn (((s.sdaOut.writeSda true).writeScl true).writeSda false)).hear ⟨false, false⟩
      = _
    rw [hstart]
    rfl
  exact ⟨rfl, by rw [hlow], by rw [hlow]⟩

/-- The end of `IIC_Stop`. -/
theorem Clocked.finish (hclocked : Clocked s heard) (houtput : s.output = true) :
    Idle (((s.writeSda false).writeScl true).writeSda true) (heard ++ [.stop]) := by
  have hlow : Clocked (s.writeSda false) heard := hclocked.traced hclocked.scl rfl
  obtain ⟨-, hhigh⟩ := hlow.rise
  refine ⟨rfl, rfl, houtput, ?_⟩
  rw [IicBus.writeSda, heardOn_traced]
  change (heardOn ((s.writeSda false).writeScl true)).hear ⟨true, _⟩ = _
  rw [hhigh]
  simp [Listener.hear, IicBus.sda, IicBus.writeSda, IicBus.writeScl, IicBus.traced, houtput]

theorem Clocked.stop (hclocked : Clocked s heard) : Idle s.iicStop (heard ++ [.stop]) := by
  have hout : Clocked s.sdaOut heard := hclocked.traced hclocked.scl rfl
  have hlow : Clocked (s.sdaOut.writeScl false) heard := hout.traced rfl rfl
  exact hlow.finish rfl

/-- Stopping once more. -/
theorem Idle.stop (hidle : Idle s heard) : Idle s.iicStop (heard ++ [.stop]) := by
  have hout : Idle s.sdaOut heard := hidle.traced hidle.scl hidle.latch rfl rfl
  have hfall : heardOn (s.sdaOut.writeScl false) = ⟨⟨false, true⟩, false, heard⟩ := by
    rw [IicBus.writeScl, heardOn_traced]
    change (heardOn s.sdaOut).hear ⟨false, s.latch⟩ = _
    rw [hout.listener, hidle.latch]
    rfl
  have hlow : Clocked (s.sdaOut.writeScl false) heard := ⟨rfl, by rw [hfall], by rw [hfall]⟩
  exact hlow.finish rfl

/-! ## Bytes -/

/-- The bits that `IIC_Send_Byte` takes from the top of its argument. -/
def topBits : ℕ → UInt8 → List Bool
  | 0, _ => []
  | left + 1, txd => ((txd &&& 0x80) >>> 7 == 1) :: topBits left (txd <<< 1)

theorem topBits_eq (txd : UInt8) : topBits 8 txd = Bits.ofByte txd := by
  have hall : ∀ n : Fin 256,
      topBits 8 (UInt8.ofBitVec (BitVec.ofFin n)) =
        Bits.ofByte (UInt8.ofBitVec (BitVec.ofFin n)) := by
    decide +kernel
  exact hall txd.toBitVec.toFin

theorem Clocked.sendBits (left : ℕ) (txd : UInt8) (hclocked : Clocked s heard)
    (houtput : s.output = true) :
    Clocked (IicBus.sendBits left txd s) (heard ++ (topBits left txd).map .bit) := by
  induction left generalizing s txd heard with
  | zero => rwa [topBits, List.map_nil, List.append_nil]
  | succ left ih =>
      have hdata : Clocked (s.writeSda ((txd &&& 0x80) >>> 7 == 1)) heard :=
        hclocked.traced hclocked.scl rfl
      have hpulse := hdata.rise.fall
      have hlevel : ((s.writeSda ((txd &&& 0x80) >>> 7 == 1)).writeScl true).sda =
          ((txd &&& 0x80) >>> 7 == 1) := by
        change (if s.output then _ else _) = _
        rw [if_pos houtput]
        rfl
      rw [hlevel] at hpulse
      have hrest := ih (txd <<< 1) hpulse houtput
      rw [topBits, List.map_cons, ← List.singleton_append, ← List.append_assoc]
      exact hrest

theorem Clocked.sendByte (hclocked : Clocked s heard) (txd : UInt8) :
    Clocked (s.iicSendByte txd) (heard ++ (Bits.ofByte txd).map .bit) := by
  have hout : Clocked s.sdaOut heard := hclocked.traced hclocked.scl rfl
  have hlow : Clocked (s.sdaOut.writeScl false) heard := hout.traced rfl rfl
  rw [← topBits_eq]
  exact hlow.sendBits 8 txd rfl

/-! ## Answers -/

/-- One of the polls that are left finds the line low. -/
def findsLow (answer : Answer) : ℕ → ℕ → Bool
  | 0, _ => false
  | left + 1, poll => !answer.level poll || findsLow answer left (poll + 1)

/-- `IIC_Wait_Ack` finds the byte acknowledged. -/
def acked (answer : Answer) : Bool := findsLow answer 251 0

/-- The line does not change while it is looked at. -/
def held (answer : Answer) : Bool :=
  if acked answer then !answer.rising && !answer.level 0 else answer.rising

/-- What is heard from the rise of the clock on, up to the stop of `IIC_Wait_Ack` if
there is no answer. -/
def answerSignals (answer : Answer) : List Signal :=
  if acked answer then
    if held answer then [.bit false]
    else if answer.rising then [.start]
    else [.stop, .start]
  else if answer.rising then [.bit true, .stop]
  else [.stop, .stop]

/-- The display has the line while the clock is high. The line has kept its level
since the clock rose, or it has not. -/
structure Asked (steady : Bool) (s : IicBus) (heard : List Signal) : Prop where
  scl : s.scl = true
  output : s.output = false
  latch : s.latch = true
  listener : heardOn s = ⟨⟨true, s.display⟩, steady, heard⟩

section Looks

variable {steady : Bool}

theorem Asked.heardOn_readSda (hasked : Asked steady s heard) (display : Bool) :
    heardOn (s.readSda display).2 =
      Listener.hear ⟨⟨true, s.display⟩, steady, heard⟩ ⟨true, display⟩ := by
  change heardOn ({ s with display := display } : IicBus).traced = _
  rw [heardOn_traced]
  change (heardOn s).hear ⟨s.scl, if s.output then s.latch else display⟩ = _
  rw [hasked.listener, hasked.scl, hasked.output, if_neg Bool.false_ne_true]

theorem Asked.same (hasked : Asked steady s heard) {display : Bool} (hsame : s.display = display) :
    Asked steady (s.readSda display).2 heard := by
  refine ⟨hasked.scl, hasked.output, hasked.latch, ?_⟩
  rw [hasked.heardOn_readSda, hsame]
  cases display <;> rfl

/-- A change of the line while the clock is high. -/
theorem Asked.changed (hasked : Asked steady s heard) {display : Bool}
    (hchanged : s.display = !display) :
    Asked false (s.readSda display).2 (heard ++ [if display then .stop else .start]) := by
  refine ⟨hasked.scl, hasked.output, hasked.latch, ?_⟩
  rw [hasked.heardOn_readSda, hchanged]
  cases display <;> rfl

theorem Asked.readSda_level (hasked : Asked steady s heard) (display : Bool) :
    (s.readSda display).1 = display := by
  change (if s.output then s.latch else display) = display
  rw [hasked.output, if_neg Bool.false_ne_true]

/-- A poll that finds the line low is the last one. -/
theorem Asked.waitLow_low (hasked : Asked steady s heard) {answer : Answer} {poll : ℕ}
    (hlevel : answer.level poll = false) (left : ℕ) :
    IicBus.waitLow answer (left + 1) poll s = (true, (s.readSda false).2) ∧
      findsLow answer (left + 1) poll = true := by
  rw [IicBus.waitLow, findsLow, hlevel, hasked.readSda_level]
  exact ⟨rfl, rfl⟩

theorem Asked.waitLow_high (hasked : Asked steady s heard) {answer : Answer} {poll : ℕ}
    (hlevel : answer.level poll = true) (left : ℕ) :
    IicBus.waitLow answer (left + 1) poll s =
        IicBus.waitLow answer left (poll + 1) (s.readSda true).2 ∧
      findsLow answer (left + 1) poll = findsLow answer left (poll + 1) := by
  rw [IicBus.waitLow, findsLow, hlevel, hasked.readSda_level]
  exact ⟨rfl, rfl⟩

/-- The polls of a line that is high: either one of them finds it low, or they hear
nothing. -/
theorem Asked.waitLow (hasked : Asked steady s heard) (hhigh : s.display = true) (answer : Answer)
    (left poll : ℕ) :
    (IicBus.waitLow answer left poll s).1 = findsLow answer left poll ∧
      (IicBus.waitLow answer left poll s).2.display = !findsLow answer left poll ∧
        if findsLow answer left poll then
          Asked false (IicBus.waitLow answer left poll s).2 (heard ++ [.start])
        else Asked steady (IicBus.waitLow answer left poll s).2 heard := by
  induction left generalizing s poll with
  | zero => exact ⟨rfl, hhigh, hasked⟩
  | succ left ih =>
      cases hlevel : answer.level poll with
      | false =>
          obtain ⟨hwait, hfinds⟩ := hasked.waitLow_low hlevel left
          have hfound : Asked false (s.readSda false).2 (heard ++ [.start]) :=
            hasked.changed hhigh
          rw [hwait, hfinds]
          exact ⟨rfl, rfl, hfound⟩
      | true =>
          obtain ⟨hwait, hfinds⟩ := hasked.waitLow_high hlevel left
          rw [hwait, hfinds]
          exact ih (hasked.same hhigh) rfl (poll + 1)

/-- The clock falls behind an answer. -/
theorem Asked.fall (hasked : Asked steady s heard) :
    Clocked (s.writeScl false) (heard ++ if steady then [.bit s.display] else []) := by
  have hstep : heardOn (s.writeScl false) =
      ⟨⟨false, s.display⟩, false, heard ++ if steady then [.bit s.display] else []⟩ := by
    rw [IicBus.writeScl, heardOn_traced]
    change (heardOn s).hear ⟨false, if s.output then s.latch else s.display⟩ = _
    rw [hasked.listener, hasked.output]
    cases steady <;> simp [Listener.hear]
  exact ⟨rfl, by rw [hstep], by rw [hstep]⟩

/-- Without an answer the ninth bit is over when the transaction is stopped. -/
theorem Asked.stop (hasked : Asked steady s heard) (hhigh : s.display = true) :
    Idle s.iicStop (heard ++ (if steady then [.bit true] else []) ++ [.stop]) := by
  have hout : heardOn s.sdaOut = ⟨⟨true, true⟩, steady, heard⟩ := by
    rw [IicBus.sdaOut, heardOn_traced]
    change (heardOn s).hear ⟨s.scl, s.latch⟩ = _
    rw [hasked.listener, hasked.scl, hasked.latch, hhigh]
    rfl
  have hlow : heardOn (s.sdaOut.writeScl false) =
      ⟨⟨false, true⟩, false, heard ++ if steady then [.bit true] else []⟩ := by
    rw [IicBus.writeScl, heardOn_traced]
    change (heardOn s.sdaOut).hear ⟨false, s.latch⟩ = _
    rw [hout, hasked.latch]
    cases steady <;> simp [Listener.hear]
  have hclocked : Clocked (s.sdaOut.writeScl false)
      (heard ++ if steady then [.bit true] else []) := ⟨rfl, by rw [hlow], by rw [hlow]⟩
  exact hclocked.finish rfl

end Looks

theorem Clocked.asked (hclocked : Clocked s heard) (answer : Answer) :
    Asked true (((s.sdaIn answer.rising).writeSda true).writeScl true) heard := by
  have hin : Clocked (s.sdaIn answer.rising) heard := hclocked.traced hclocked.scl rfl
  have hdata : Clocked ((s.sdaIn answer.rising).writeSda true) heard := hin.traced hin.scl rfl
  exact ⟨rfl, rfl, rfl, hdata.rise.listener⟩

/-- The polls of a line that the display may have pulled low before the clock rose. -/
theorem Asked.poll (answer : Answer) (hasked : Asked true s heard)
    (hrising : s.display = answer.rising) :
    (IicBus.waitLow answer 251 0 s).1 = acked answer ∧
      if acked answer then
        Clocked ((IicBus.waitLow answer 251 0 s).2.writeScl false) (heard ++ answerSignals answer)
      else
        Idle (IicBus.waitLow answer 251 0 s).2.iicStop (heard ++ answerSignals answer) := by
  unfold answerSignals held acked
  cases hlevel : answer.rising with
  | true =>
      -- the line is high, and every change of it is late
      obtain ⟨hfound, hdisplay, hafter⟩ := hasked.waitLow (hrising.trans hlevel) answer 251 0
      refine ⟨hfound, ?_⟩
      generalize IicBus.waitLow answer 251 0 s = out at hdisplay hafter
      cases hacked : findsLow answer 251 0 with
      | true =>
          rw [hacked, if_pos rfl] at hafter
          simpa using hafter.fall
      | false =>
          rw [hacked] at hdisplay hafter
          simpa using hafter.stop hdisplay
  | false =>
      have hlow := hrising.trans hlevel
      cases hfirst : answer.level 0 with
      | false =>
          -- the answer has been there since the clock rose
          obtain ⟨hwait, hfinds⟩ := hasked.waitLow_low hfirst 250
          rw [hwait, hfinds]
          exact ⟨rfl, (hasked.same hlow).fall⟩
      | true =>
          -- the display lets go of the line before it is looked at
          obtain ⟨hwait, hfinds⟩ := hasked.waitLow_high hfirst 250
          have hstopped : Asked false (s.readSda true).2 (heard ++ [.stop]) :=
            hasked.changed hlow
          obtain ⟨hfound, hdisplay, hafter⟩ := hstopped.waitLow rfl answer 250 1
          rw [hwait, hfinds]
          refine ⟨hfound, ?_⟩
          generalize IicBus.waitLow answer 250 1 (s.readSda true).2 = out at hdisplay hafter
          cases hacked : findsLow answer 250 1 with
          | true =>
              rw [hacked, if_pos rfl] at hafter
              simpa using hafter.fall
          | false =>
              rw [hacked] at hdisplay hafter
              simpa using hafter.stop hdisplay

theorem Clocked.waitAck (hclocked : Clocked s heard) (answer : Answer) :
    (s.iicWaitAck answer).1 = (if acked answer then 0 else 1) ∧
      if acked answer then Clocked (s.iicWaitAck answer).2 (heard ++ answerSignals answer)
      else Idle (s.iicWaitAck answer).2 (heard ++ answerSignals answer) := by
  obtain ⟨hfound, hafter⟩ := (hclocked.asked answer).poll answer rfl
  unfold IicBus.iicWaitAck
  dsimp only at hfound hafter ⊢
  rw [hfound]
  cases hacked : acked answer with
  | true =>
      rw [hacked] at hafter
      exact ⟨rfl, hafter⟩
  | false =>
      rw [hacked] at hafter
      exact ⟨rfl, hafter⟩

end Steps

/-! ## Calls -/

/-- The bytes that are sent until one is not acknowledged. -/
def sentBytes : List (UInt8 × Answer) → Transaction
  | [] => []
  | (byte, answer) :: rest =>
      if acked answer then (byte, true) :: sentBytes rest else [(byte, false)]

/-- All bytes are acknowledged. -/
def complete (entries : List (UInt8 × Answer)) : Bool := entries.all fun entry => acked entry.2

theorem complete_cons (byte : UInt8) (answer : Answer) (rest : List (UInt8 × Answer)) :
    complete ((byte, answer) :: rest) = (acked answer && complete rest) := List.all_cons

/-- The answers that are asked for do not change while they are looked at. -/
def allHeld : List (UInt8 × Answer) → Bool
  | [] => true
  | (_, answer) :: rest => held answer && (!acked answer || allHeld rest)

/-- The three bytes of a call, with their answers. -/
def callEntries : OledCall → OledAnswers → List (UInt8 × Answer)
  | .command value, a => [(0x78, a.address), (0x00, a.control), (value, a.value)]
  | .data value, a => [(0x78, a.address), (0x40, a.control), (value, a.value)]

/-- What is heard of some bytes and the stops behind them. -/
def entrySignals : List (UInt8 × Answer) → List Signal
  | [] => [.stop]
  | (byte, answer) :: rest =>
      (Bits.ofByte byte).map .bit ++ answerSignals answer ++
        if acked answer then entrySignals rest else [.stop]

/-- The transactions that these bytes are heard as, behind the bytes of the one that
is under way: an answer that comes late begins another one, and an answer that
is taken back ends it. -/
def heardTransactions (bytes : Transaction) : List (UInt8 × Answer) → List Transaction
  | [] => [bytes]
  | (byte, answer) :: rest =>
      if acked answer then
        if held answer then heardTransactions (bytes ++ [(byte, true)]) rest
        else bytes :: heardTransactions [] rest
      else if held answer then [bytes ++ [(byte, false)]]
      else [bytes]

/-- A call that went on from here has sent these bytes and stopped. -/
structure Ends (entries : List (UInt8 × Answer)) (heard : List Signal) (out : ℕ × IicBus) :
    Prop where
  result : out.1 = if complete entries then 0 else 1
  idle : Idle out.2 (heard ++ entrySignals entries)

theorem ends_oledByte {s : IicBus} {heard : List Signal} (hclocked : Clocked s heard) (txd : UInt8)
    (answer : Answer) {entries : List (UInt8 × Answer)} {rest : IicBus → ℕ × IicBus}
    (hrest : ∀ t heard, Clocked t heard → Ends entries heard (rest t)) :
    Ends ((txd, answer) :: entries) heard (s.oledByte txd answer rest) := by
  obtain ⟨hresult, hafter⟩ := (hclocked.sendByte txd).waitAck answer
  unfold IicBus.oledByte
  dsimp only
  cases hacked : acked answer with
  | true =>
      rw [hacked] at hresult hafter
      obtain ⟨hresult', hidle⟩ := hrest _ _ hafter
      rw [hresult, if_neg (by decide)]
      refine ⟨by rw [hresult', complete_cons, hacked, Bool.true_and], ?_⟩
      simpa [entrySignals, hacked] using hidle
  | false =>
      rw [hacked] at hresult hafter
      have hidle := Idle.stop hafter
      rw [hresult, if_pos (by decide)]
      refine ⟨by rw [complete_cons, hacked]; rfl, ?_⟩
      simpa [entrySignals, hacked] using hidle

theorem Idle.call {s : IicBus} {heard : List Signal} (hidle : Idle s heard) (call : OledCall)
    (a : OledAnswers) : Ends (callEntries call a) (heard ++ [.start]) (call.run a s) := by
  have hwrite (control value : UInt8) :
      Ends [(0x78, a.address), (control, a.control), (value, a.value)] (heard ++ [.start])
        (IicBus.oledWrite control value a s) := by
    apply ends_oledByte hidle.start
    intro t heard hcontrol
    apply ends_oledByte hcontrol
    intro t heard hvalue
    apply ends_oledByte hvalue
    intro t heard hlast
    exact ⟨rfl, hlast.stop⟩
  cases call with
  | command value => exact hwrite 0x00 value
  | data value => exact hwrite 0x40 value

/-! ## Transactions -/

theorem heardTransactions_ne_nil (bytes : Transaction) (entries : List (UInt8 × Answer)) :
    heardTransactions bytes entries ≠ [] := by
  induction entries generalizing bytes with
  | nil => exact List.cons_ne_nil _ _
  | cons entry rest ih =>
      rw [heardTransactions]
      split_ifs
      · exact ih _
      all_goals exact List.cons_ne_nil _ _

/-- One transaction of the bytes sent is heard if and only if no answer changes. -/
theorem heardTransactions_eq_iff (bytes : Transaction) (entries : List (UInt8 × Answer)) :
    heardTransactions bytes entries = [bytes ++ sentBytes entries] ↔ allHeld entries = true := by
  induction entries generalizing bytes with
  | nil => simp [heardTransactions, sentBytes, allHeld]
  | cons entry rest ih =>
      obtain ⟨byte, answer⟩ := entry
      rw [heardTransactions, sentBytes, allHeld]
      cases hacked : acked answer <;> cases hheld : held answer
      case true.true => simpa using ih (bytes ++ [(byte, true)])
      case true.false => simp [heardTransactions_ne_nil]
      case false.true | false.false => simp

theorem take_entrySignals (done : List Transaction) (bytes : Transaction)
    (entries : List (UInt8 × Answer)) :
    (entrySignals entries).foldl Collector.take ⟨done, some (bytes, [])⟩ =
      ⟨done ++ heardTransactions bytes entries, none⟩ := by
  induction entries generalizing done bytes with
  | nil => rfl
  | cons entry rest ih =>
      obtain ⟨byte, answer⟩ := entry
      rw [entrySignals, heardTransactions, answerSignals]
      cases hacked : acked answer <;> cases hheld : held answer
      case true.true =>
        have hbyte := take_byte done bytes byte false
        rw [List.foldl_append]
        exact (congrArg (List.foldl Collector.take · _) hbyte).trans (ih _ _)
      case true.false =>
        have hlate := ih (done ++ [bytes]) []
        rw [List.append_assoc, List.singleton_append] at hlate
        rw [List.append_assoc, List.foldl_append, take_eightBits]
        cases answer.rising <;> exact hlate
      case false.true =>
        have hrising : answer.rising = true := by simpa [held, hacked] using hheld
        have hbyte := take_byte done bytes byte true
        have hstops : (Bits.ofByte byte).map Signal.bit ++ [.bit true, .stop] ++ [.stop] =
            ((Bits.ofByte byte).map Signal.bit ++ [.bit true]) ++ [.stop, .stop] := by simp
        simp only [hrising, if_true, Bool.false_eq_true, if_false]
        rw [hstops, List.foldl_append, hbyte]
        rfl
      case false.false =>
        have hrising : answer.rising = false := by simpa [held, hacked] using hheld
        rw [hrising, List.append_assoc, List.foldl_append, take_eightBits]
        rfl

/-! ## Runs of calls -/

/-- Nothing is under way, and these transactions were heard. -/
def Heard (s : IicBus) (done : List Transaction) : Prop :=
  ∃ heard, Idle s heard ∧ collect heard = ⟨done, none⟩

theorem Heard.call {s : IicBus} {done : List Transaction} (hheard : Heard s done)
    (call : OledCall) (a : OledAnswers) :
    Heard (call.run a s).2 (done ++ heardTransactions [] (callEntries call a)) := by
  obtain ⟨heard, hidle, hcollected⟩ := hheard
  refine ⟨_, (hidle.call call a).idle, ?_⟩
  rw [List.append_assoc, collect_append, hcollected]
  exact take_entrySignals done [] (callEntries call a)

theorem Heard.runOledCalls {s : IicBus} {done : List Transaction} (hheard : Heard s done)
    (calls : List (OledCall × OledAnswers)) :
    Heard (runOledCalls calls s)
      (done ++ calls.flatMap fun call => heardTransactions [] (callEntries call.1 call.2)) := by
  induction calls generalizing s done with
  | nil => rwa [List.flatMap_nil, List.append_nil]
  | cons call calls ih =>
      have hrest := ih (hheard.call call.1 call.2)
      rwa [List.append_assoc] at hrest

theorem heard_init : Heard .init [] := ⟨[], idle_init, rfl⟩

theorem transactions_runOledCalls (calls : List (OledCall × OledAnswers)) :
    transactions (runOledCalls calls .init).trace =
      calls.flatMap fun call => heardTransactions [] (callEntries call.1 call.2) := by
  obtain ⟨heard, hidle, hcollected⟩ := heard_init.runOledCalls calls
  have hlistener : (listen (runOledCalls calls .init).trace).heard = heard :=
    congrArg Listener.heard hidle.listener
  rw [transactions, hlistener, hcollected, List.nil_append]

/-- Lists without empty parts are joined to as many elements as there are parts only
if each part is a single one. -/
theorem flatMap_eq_map_iff {α β : Type} {parts : α → List β} (hparts : ∀ a, parts a ≠ [])
    (single : α → β) (l : List α) :
    l.flatMap parts = l.map single ↔ ∀ a ∈ l, parts a = [single a] := by
  have hlength (l : List α) : l.length ≤ (l.flatMap parts).length := by
    induction l with
    | nil => exact le_refl 0
    | cons a l ih =>
        have hpos := List.length_pos_of_ne_nil (hparts a)
        rw [List.flatMap_cons, List.length_append, List.length_cons]
        omega
  induction l with
  | nil => simp
  | cons a l ih =>
      rw [List.flatMap_cons, List.map_cons, List.forall_mem_cons]
      constructor
      · intro hjoined
        obtain ⟨first, rest, hpart⟩ := List.exists_cons_of_ne_nil (hparts a)
        rw [hpart, List.cons_append, List.cons.injEq] at hjoined
        obtain ⟨rfl, htail⟩ := hjoined
        have hcount := congrArg List.length htail
        rw [List.length_append, List.length_map] at hcount
        have hnil : rest = [] := List.eq_nil_of_length_eq_zero (by have := hlength l; omega)
        subst hnil
        exact ⟨hpart, ih.mp htail⟩
      · rintro ⟨hpart, htail⟩
        rw [hpart, ih.mpr htail, List.singleton_append]

/-- Whatever levels the display answers with, its transactions are those of
`heardTransactions`. They are one for each call, of the bytes sent until one was
not acknowledged, exactly if no answer that is asked for changes while the clock
is high; and a call returns 1 if a byte was not acknowledged. -/
theorem display_hears_calls (calls : List (OledCall × OledAnswers)) :
    transactions (runOledCalls calls .init).trace =
        calls.flatMap (fun call => heardTransactions [] (callEntries call.1 call.2)) ∧
      (transactions (runOledCalls calls .init).trace =
          calls.map (fun call => sentBytes (callEntries call.1 call.2)) ↔
        ∀ call ∈ calls, allHeld (callEntries call.1 call.2) = true) ∧
      ∀ before call after, calls = before ++ call :: after →
        (call.1.run call.2 (runOledCalls before .init)).1 =
          if complete (callEntries call.1 call.2) then 0 else 1 := by
  refine ⟨transactions_runOledCalls calls, ?_, ?_⟩
  · have hparts (call : OledCall × OledAnswers) :
        heardTransactions [] (callEntries call.1 call.2) ≠ [] := heardTransactions_ne_nil [] _
    rw [transactions_runOledCalls, flatMap_eq_map_iff hparts]
    simp only [← heardTransactions_eq_iff [], List.nil_append]
  · rintro before call after -
    obtain ⟨heard, hidle, -⟩ := heard_init.runOledCalls before
    exact (hidle.call call.1 call.2).result

/-- A display that pulls the line low only at the second look at it. -/
def lateAnswer : Answer := ⟨true, fun poll => poll == 0⟩

/-- Of a command whose first byte is acknowledged late, the display hears the rest as
a transaction of its own. -/
example : transactions (runOledCalls [(.command 0xAF, ⟨lateAnswer, .ack, .ack⟩)] .init).trace =
    [[], [(0x00, true), (0xAF, true)]] := by
  decide +kernel

end PlantAssistant.Display
