import PlantAssistant.Framing.Occurrences
import PlantAssistant.Link.ModeLink

/-! # Mode frames behind damaged packets

The script takes everything from a header to the next tail byte for one packet. A
packet that lost its tail therefore takes the frame behind it along.
-/

namespace PlantAssistant.Link

open Framing PlantAssistant.Vision

/-- The mode of the frame at the beginning, if one stands there. -/
def modeAt (bytes : List UInt8) : Option Mode :=
  [Mode.plant, Mode.light].find? fun mode => (modeFrame mode).isPrefixOf bytes

/-- The modes of all complete frames in a buffer. -/
def modesIn (buffer : List UInt8) : List Mode := occurrences modeAt buffer

/-- Before every frame there is a tail byte since the last header. -/
def Delimited (buffer : List UInt8) : Prop :=
  ∀ (gap : List UInt8) (mode : Mode), 0xC4 ∉ gap →
    ¬ rxPacketHeader ++ gap ++ modeFrame mode <:+: buffer

theorem modeAt_eq_some_iff {bytes : List UInt8} {mode : Mode} :
    modeAt bytes = some mode ↔ modeFrame mode <+: bytes := by
  unfold modeAt
  constructor
  · intro hfound
    simpa using List.find?_some hfound
  · intro hframe
    obtain ⟨rest, rfl⟩ := hframe
    cases mode <;> rfl

/-! ## Searching -/

/-- `sub` does not begin in `front`. -/
def NoneBegins (sub front back : List UInt8) : Prop :=
  ∀ part, part <:+ front → part ≠ [] → ¬ sub <+: part ++ back

theorem noneBegins_cons {sub front back : List UInt8} {byte : UInt8}
    (hfirst : ¬ sub <+: byte :: (front ++ back)) (hrest : NoneBegins sub front back) :
    NoneBegins sub (byte :: front) back := by
  intro part hpart hne
  rcases List.suffix_cons_iff.mp hpart with rfl | hlater
  · exact hfirst
  · exact hrest part hlater hne

/-- A search stops at the first match, if there is one. -/
theorem find_cases {sub : List UInt8} (hsub : sub ≠ []) (buffer : List UInt8) :
    find sub buffer = none ∧ NoneBegins sub buffer [] ∨
      ∃ front rest, buffer = front ++ (sub ++ rest) ∧ NoneBegins sub front (sub ++ rest) ∧
        find sub buffer = some front.length := by
  induction buffer with
  | nil =>
      refine .inl ⟨if_neg hsub, ?_⟩
      intro part hpart hne
      exact absurd (List.suffix_nil.mp hpart) hne
  | cons byte buffer ih =>
      by_cases hfirst : sub.isPrefixOf (byte :: buffer)
      · obtain ⟨rest, hrest⟩ := List.isPrefixOf_iff_prefix.mp hfirst
        refine .inr ⟨[], rest, hrest.symm, ?_, by rw [find, if_pos hfirst]; rfl⟩
        intro part hpart hne
        exact absurd (List.suffix_nil.mp hpart) hne
      · have hnot : ¬ sub <+: byte :: buffer := fun hprefix =>
          hfirst (List.isPrefixOf_iff_prefix.mpr hprefix)
        rcases ih with ⟨hnone, habsent⟩ | ⟨front, rest, rfl, hbefore, hfound⟩
        · refine .inl ⟨by rw [find, if_neg hfirst, hnone]; rfl, ?_⟩
          exact noneBegins_cons (by rwa [List.append_nil]) habsent
        · refine .inr ⟨byte :: front, rest, rfl, noneBegins_cons hnot hbefore, ?_⟩
          rw [find, if_neg hfirst, hfound]
          rfl

theorem not_mem_of_noneBegins {byte : UInt8} {front back : List UInt8}
    (hnone : NoneBegins [byte] front back) : byte ∉ front := by
  intro hmem
  obtain ⟨before, after, rfl⟩ := List.append_of_mem hmem
  exact hnone (byte :: after) (List.suffix_append _ _) (List.cons_ne_nil _ _)
    ⟨after ++ back, rfl⟩

/-- What one pass of the parser finds: no header, a packet without its tail, or a
packet and what is behind it. -/
theorem parseModeBuffer_cases (buffer : List UInt8) (queue : List Mode) :
    (NoneBegins rxPacketHeader buffer [] ∧ (parseModeBuffer buffer queue).2 = queue) ∨
    (∃ front body, buffer = front ++ (rxPacketHeader ++ body) ∧
      NoneBegins rxPacketHeader front (rxPacketHeader ++ body) ∧ 0xC4 ∉ body ∧
      (parseModeBuffer buffer queue).2 = queue) ∨
    ∃ front payload rest, buffer = front ++ (rxPacketHeader ++ (payload ++ 0xC4 :: rest)) ∧
      NoneBegins rxPacketHeader front (rxPacketHeader ++ (payload ++ 0xC4 :: rest)) ∧
      0xC4 ∉ payload ∧
      parseModeBuffer buffer queue =
        parseModeBuffer rest (queue ++ (payloadMode payload).toList) := by
  have hheader : rxPacketHeader ≠ [] := List.cons_ne_nil _ _
  have htail : rxPacketTail ≠ [] := List.cons_ne_nil _ _
  rcases find_cases hheader buffer with
    ⟨hnone, habsent⟩ | ⟨front, body, rfl, hbefore, hfound⟩
  · refine .inl ⟨habsent, ?_⟩
    rw [parseModeBuffer]
    split
    next => rfl
    next start hsome =>
      rw [hnone] at hsome
      cases hsome
  · have hparse := parseModeBuffer_header hfound queue
    have hlength : rxPacketHeader.length = 2 := rfl
    rw [List.drop_left, List.drop_left' hlength] at hparse
    rcases find_cases htail body with
      ⟨hnone, habsent⟩ | ⟨payload, rest, rfl, hbody, hstop⟩
    · refine .inr (.inl ⟨front, body, rfl, hbefore, not_mem_of_noneBegins habsent, ?_⟩)
      rw [hparse, hnone]
    · refine .inr (.inr ⟨front, payload, rest, rfl, hbefore, not_mem_of_noneBegins hbody, ?_⟩)
      have hpacket : rxPacketHeader ++ (payload ++ (rxPacketTail ++ rest)) =
          (rxPacketHeader ++ (payload ++ rxPacketTail)) ++ rest := by simp
      have hsize : (rxPacketHeader ++ (payload ++ rxPacketTail)).length = payload.length + 3 := by
        rw [List.length_append, List.length_append, hlength]
        exact Nat.add_comm _ _
      have hend : (payload ++ rxPacketTail).dropLast = payload := List.dropLast_concat
      rw [hparse, hstop]
      dsimp only
      rw [hpacket, List.drop_left' hsize, List.take_left' hsize, List.drop_left' hlength, hend]

/-! ## Frames inside and behind a packet -/

theorem tail_notMem_frame (mode : Mode) : (0xC4 : UInt8) ∉ [0xA4, 0xB4, mode.code] := by
  cases mode <;> decide

/-- A frame that reaches the first tail byte ends there. -/
theorem modeAt_append_tail {part rest : List UInt8} (hpart : 0xC4 ∉ part) {mode : Mode} :
    modeAt (part ++ 0xC4 :: rest) = some mode ↔ part = [0xA4, 0xB4, mode.code] := by
  rw [modeAt_eq_some_iff]
  constructor
  · rintro ⟨more, hmore⟩
    change [0xA4, 0xB4, mode.code] ++ 0xC4 :: more = part ++ 0xC4 :: rest at hmore
    exact (append_cons_unique (tail_notMem_frame mode) hpart hmore).1.symm
  · rintro rfl
    exact ⟨rest, rfl⟩

/-- At most one frame ends with the first tail byte. -/
theorem modesIn_append_tail {front : List UInt8} (hfront : 0xC4 ∉ front) (rest : List UInt8) :
    (∃ gap mode, front = gap ++ [0xA4, 0xB4, Mode.code mode] ∧
      modesIn (front ++ 0xC4 :: rest) = mode :: modesIn rest) ∨
    (∀ gap mode, front ≠ gap ++ [0xA4, 0xB4, Mode.code mode]) ∧
      modesIn (front ++ 0xC4 :: rest) = modesIn rest := by
  induction front with
  | nil =>
      refine .inr ⟨by simp, ?_⟩
      change (modeAt ([] ++ 0xC4 :: rest)).toList ++ modesIn rest = modesIn rest
      have hnone : modeAt ([] ++ 0xC4 :: rest) = none := by
        rw [Option.eq_none_iff_forall_ne_some]
        intro mode hmode
        cases (modeAt_append_tail hfront).mp hmode
      rw [hnone]
      rfl
  | cons byte front ih =>
      have hcons : modesIn (byte :: front ++ 0xC4 :: rest) =
          (modeAt (byte :: front ++ 0xC4 :: rest)).toList ++ modesIn (front ++ 0xC4 :: rest) := rfl
      rw [hcons]
      cases hfirst : modeAt (byte :: front ++ 0xC4 :: rest) with
      | some mode =>
          have hframe := (modeAt_append_tail hfront).mp hfirst
          obtain ⟨rfl, rfl⟩ := List.cons.inj hframe
          refine .inl ⟨[], mode, rfl, ?_⟩
          cases mode <;> rfl
      | none =>
          rcases ih (List.not_mem_of_not_mem_cons hfront) with
            ⟨gap, mode, rfl, hrest⟩ | ⟨hnot, hrest⟩
          · exact .inl ⟨byte :: gap, mode, rfl, hrest⟩
          · refine .inr ⟨?_, hrest⟩
            intro gap mode hgap
            cases gap with
            | nil =>
                rw [(modeAt_append_tail hfront).mpr hgap] at hfirst
                cases hfirst
            | cons first gap => exact hnot gap mode (List.cons.inj hgap).2

/-- Frames begin with a header, so that none begins where no header does. -/
theorem modesIn_append_of_noneBegins {front back : List UInt8}
    (hnone : NoneBegins rxPacketHeader front back) : modesIn (front ++ back) = modesIn back := by
  apply occurrences_append_of_none
  intro part hpart hne
  rw [Option.eq_none_iff_forall_ne_some]
  intro mode hmode
  exact hnone part hpart hne
    ((List.prefix_append rxPacketHeader _).trans (modeAt_eq_some_iff.mp hmode))

theorem modesIn_of_notMem {bytes : List UInt8} (hbytes : 0xC4 ∉ bytes) : modesIn bytes = [] := by
  apply occurrences_eq_nil
  intro part hpart _
  rw [Option.eq_none_iff_forall_ne_some]
  intro mode hmode
  have htail : (0xC4 : UInt8) ∈ modeFrame mode := by cases mode <;> decide
  exact hbytes (hpart.subset ((modeAt_eq_some_iff.mp hmode).subset htail))

/-! ## Delimited frames -/

theorem delimited_append_of_noneBegins {front back : List UInt8}
    (hnone : NoneBegins rxPacketHeader front back) :
    Delimited (front ++ back) ↔ Delimited back := by
  constructor
  · intro hdelimited gap mode hgap hinside
    exact hdelimited gap mode hgap (hinside.trans (List.suffix_append _ _).isInfix)
  · rintro hdelimited gap mode hgap ⟨before, more, happend⟩
    rw [List.append_assoc] at happend
    rcases List.append_eq_append_iff.mp happend with ⟨part, rfl, hback⟩ | ⟨part, rfl, rfl⟩
    · -- the header would begin in `front`
      by_cases hpart : part = []
      · subst hpart
        exact hdelimited gap mode hgap ⟨[], more, hback⟩
      · refine hnone part (List.suffix_append _ _) hpart ?_
        rw [← hback, List.append_assoc, List.append_assoc]
        exact List.prefix_append _ _
    · exact hdelimited gap mode hgap ⟨part, more, List.append_assoc _ _ _⟩

theorem delimited_of_notMem {bytes : List UInt8} (hbytes : 0xC4 ∉ bytes) : Delimited bytes := by
  intro gap mode _ hinside
  have htail : (0xC4 : UInt8) ∈ rxPacketHeader ++ gap ++ modeFrame mode := by simp [modeFrame]
  exact hbytes (hinside.subset htail)

/-- Whether a frame is taken along is decided packet by packet. -/
theorem delimited_packet_iff {payload : List UInt8} (hpayload : 0xC4 ∉ payload)
    (rest : List UInt8) :
    Delimited (rxPacketHeader ++ (payload ++ 0xC4 :: rest)) ↔
      (∀ gap mode, payload ≠ gap ++ [0xA4, 0xB4, Mode.code mode]) ∧ Delimited rest := by
  constructor
  · intro hdelimited
    constructor
    · rintro gap mode rfl
      refine hdelimited gap mode (fun hmem => hpayload (List.mem_append_left _ hmem)) ⟨[], rest, ?_⟩
      simp [modeFrame]
    · intro gap mode hgap hinside
      apply hdelimited gap mode hgap
      have hsuffix : rest <:+ rxPacketHeader ++ (payload ++ 0xC4 :: rest) :=
        ⟨rxPacketHeader ++ (payload ++ [0xC4]), by simp⟩
      exact hinside.trans hsuffix.isInfix
  · rintro ⟨hpacket, hrest⟩ gap mode hgap ⟨before, more, happend⟩
    have hfront : (0xC4 : UInt8) ∉ rxPacketHeader ++ payload := by
      simp [rxPacketHeader, hpayload]
    have hswallowed : (0xC4 : UInt8) ∉ rxPacketHeader ++ gap ++ [0xA4, 0xB4, mode.code] := by
      have hframe := tail_notMem_frame mode
      simp only [List.mem_append, not_or]
      exact ⟨⟨by decide, hgap⟩, hframe⟩
    have hcut : before ++ (rxPacketHeader ++ gap ++ [0xA4, 0xB4, mode.code] ++ 0xC4 :: more) =
        (rxPacketHeader ++ payload) ++ 0xC4 :: rest := by
      simpa [modeFrame] using happend
    rcases append_eq_append_cons hcut with ⟨part, hpart, hmore⟩ | ⟨part, -, rfl⟩
    · -- the frame ends with the packet
      have hpartTail : (0xC4 : UInt8) ∉ part := fun hmem =>
        hfront (hpart ▸ List.mem_append_right before hmem)
      obtain ⟨rfl, -⟩ := append_cons_unique hswallowed hpartTail hmore
      apply hpacket ((before ++ (rxPacketHeader ++ gap)).drop 2) mode
      have hlong : 2 ≤ (before ++ (rxPacketHeader ++ gap)).length := by
        simp only [List.length_append, rxPacketHeader, List.length_cons]
        omega
      rw [← List.drop_append_of_le_length hlong, List.append_assoc, ← hpart]
      rfl
    · exact hrest gap mode hgap ⟨part, more, by simp [modeFrame]⟩

/-! ## The queue -/

theorem payloadMode_eq_some_iff {payload : List UInt8} {mode : Mode} :
    payloadMode payload = some mode ↔ payload = [mode.code] := by
  constructor
  · intro hmode
    unfold payloadMode at hmode
    split at hmode
    next hlength =>
      obtain ⟨byte, rfl⟩ := List.length_eq_one_iff.mp hlength
      split_ifs at hmode with hplant hlight
      · cases hmode
        exact congrArg (fun byte => [byte]) hplant
      · cases hmode
        exact congrArg (fun byte => [byte]) hlight
    next => cases hmode
  · rintro rfl
    exact payloadMode_code mode

theorem length_payloadMode_le (payload : List UInt8) : (payloadMode payload).toList.length ≤ 1 := by
  cases payloadMode payload <;> simp

/-- Of a packet the parser takes no more than the frame in it, and that one unless
the packet began before it. -/
theorem packet_modes {payload : List UInt8} (hpayload : 0xC4 ∉ payload) (rest : List UInt8) :
    ∃ inPacket, modesIn (rxPacketHeader ++ (payload ++ 0xC4 :: rest)) = inPacket ++ modesIn rest ∧
      (payloadMode payload).toList.length ≤ inPacket.length ∧
      ((payloadMode payload).toList = inPacket ↔
        ∀ gap mode, payload ≠ gap ++ [0xA4, 0xB4, Mode.code mode]) := by
  have hfront : (0xC4 : UInt8) ∉ rxPacketHeader ++ payload := by
    simp [rxPacketHeader, hpayload]
  rw [← List.append_assoc]
  rcases modesIn_append_tail hfront rest with ⟨gap, mode, hgap, hmodes⟩ | ⟨hnot, hmodes⟩
  · refine ⟨[mode], hmodes, length_payloadMode_le payload, ?_⟩
    match gap, hgap with
    | [], hgap =>
        -- the frame is the packet
        obtain rfl : payload = [mode.code] := congrArg (List.drop 2) hgap
        rw [payloadMode_code]
        refine ⟨fun _ gap' mode' hlonger => ?_, fun _ => rfl⟩
        have hlength := congrArg List.length hlonger
        simp at hlength
    | [byte], hgap => cases hgap
    | first :: second :: gap, hgap =>
        -- the frame is taken along
        obtain rfl : payload = gap ++ [0xA4, 0xB4, mode.code] := congrArg (List.drop 2) hgap
        refine ⟨fun hsame => ?_, fun hnone => absurd rfl (hnone gap mode)⟩
        have hone : payloadMode (gap ++ [0xA4, 0xB4, mode.code]) = some mode :=
          Option.toList_eq_singleton_iff.mp hsame
        have hlength := congrArg List.length (payloadMode_eq_some_iff.mp hone)
        simp at hlength
  · refine ⟨[], hmodes, ?_, ?_⟩
    all_goals
      have hnone : payloadMode payload = none := by
        rw [Option.eq_none_iff_forall_ne_some]
        intro mode hmode
        rw [payloadMode_eq_some_iff] at hmode
        exact hnot [] mode (by rw [hmode]; rfl)
      rw [hnone]
    · rfl
    · refine ⟨fun _ gap mode hgap => ?_, fun _ => rfl⟩
      exact hnot (rxPacketHeader ++ gap) mode (by rw [hgap, List.append_assoc])

/-- The parser queues no more modes than there are frames, and all of them exactly
when every frame is delimited. -/
theorem parseModeBuffer_found (buffer : List UInt8) (queue : List Mode) :
    ∃ found, (parseModeBuffer buffer queue).2 = queue ++ found ∧
      found.length ≤ (modesIn buffer).length ∧ (found = modesIn buffer ↔ Delimited buffer) := by
  induction hsize : buffer.length using Nat.strongRecOn generalizing buffer queue with
  | ind size ih =>
      rcases parseModeBuffer_cases buffer queue with
        ⟨hnone, hparse⟩ | ⟨front, body, rfl, hnone, hbody, hparse⟩ |
          ⟨front, payload, rest, rfl, hnone, hpayload, hparse⟩
      · have hmodes := modesIn_append_of_noneBegins hnone
        have hdelimited := delimited_append_of_noneBegins hnone
        rw [List.append_nil] at hmodes hdelimited
        refine ⟨[], by rw [hparse, List.append_nil], Nat.zero_le _, ?_⟩
        rw [hmodes, hdelimited]
        exact iff_of_true rfl (delimited_of_notMem List.not_mem_nil)
      · have hunfinished : (0xC4 : UInt8) ∉ rxPacketHeader ++ body := by
          simp [rxPacketHeader, hbody]
        refine ⟨[], by rw [hparse, List.append_nil], Nat.zero_le _, ?_⟩
        rw [modesIn_append_of_noneBegins hnone, delimited_append_of_noneBegins hnone]
        exact iff_of_true (modesIn_of_notMem hunfinished).symm (delimited_of_notMem hunfinished)
      · have hshorter : rest.length < size := by
          rw [← hsize]
          simp only [List.length_append, List.length_cons]
          omega
        obtain ⟨found, hfound, hle, hiff⟩ :=
          ih rest.length hshorter rest (queue ++ (payloadMode payload).toList) rfl
        obtain ⟨inPacket, hmodes, hpacketLe, hpacket⟩ := packet_modes hpayload rest
        refine ⟨(payloadMode payload).toList ++ found, ?_, ?_, ?_⟩
        · rw [hparse, hfound, List.append_assoc]
        · rw [modesIn_append_of_noneBegins hnone, hmodes, List.length_append, List.length_append]
          omega
        · rw [modesIn_append_of_noneBegins hnone, delimited_append_of_noneBegins hnone, hmodes,
            delimited_packet_iff hpayload, ← hpacket, ← hiff]
          constructor
          · intro happend
            -- neither part can be longer, so both are the same
            have hlengths := congrArg List.length happend
            rw [List.length_append, List.length_append] at hlengths
            exact List.append_inj happend (by omega)
          · rintro ⟨hsame, hrest⟩
            rw [hsame, hrest]

/-- The parser queues the modes of all complete frames of a buffer exactly when
every frame is delimited. -/
theorem parseModeBuffer_modes_iff (buffer : List UInt8) (queue : List Mode) :
    (parseModeBuffer buffer queue).2 = queue ++ modesIn buffer ↔ Delimited buffer := by
  obtain ⟨found, hfound, -, hiff⟩ := parseModeBuffer_found buffer queue
  rw [hfound, List.append_cancel_left_eq, hiff]

/-- A header without the rest of its packet takes the frame behind it along. -/
theorem parseModeBuffer_swallows :
    ¬ ∀ (buffer : List UInt8) (queue : List Mode), buffer.length ≤ rxBufferMax →
      (parseModeBuffer buffer queue).2 = queue ++ modesIn buffer := by
  intro hall
  obtain ⟨found, hfound, -, hiff⟩ := parseModeBuffer_found (rxPacketHeader ++ modeFrame .plant) []
  rw [hall _ _ (by decide), List.append_cancel_left_eq, eq_comm, hiff] at hfound
  exact hfound [] .plant List.not_mem_nil (List.infix_refl _)

end PlantAssistant.Link
