import Mathlib.Data.Set.Defs
import Mathlib.Tactic.IntervalCases
import PlantAssistant.Firmware.UartFrames
import PlantAssistant.Vision.Green

/-! # The channel from the vision module to the firmware

The handler tests every offset of a packet for another packet, with the bytes
behind it in view. A light packet carries four raw bytes, so some coordinates
are read as a second packet. All other streams arrive exactly.
-/

namespace PlantAssistant.Link

open Framing PlantAssistant.Firmware PlantAssistant.Vision

def soilPlantTypeOf : PlantCode → ℕ
  | .shade => uart4ModeShade
  | .halfSun => uart4ModeHalfShade
  | .fullSun => uart4ModeSun

/-- What a packet tells the firmware. -/
def meaning : Packet → Globals → Globals
  | .lightCenter x y, g =>
      { g with
        sourceX := clampWord x
        sourceY := clampWord y
        findingFlag := 1
        lightOnOffFlag := 0 }
  | .lightNotFound, g => { g with lightOnOffFlag := 1, findingFlag := 0 }
  | .state stateId, g => { g with bladeState := packByte stateId }
  | .plantType code, g => { g with soilPlantType := soilPlantTypeOf code }

/-- The coordinate bytes of a light packet, with its tail or with the bytes
behind it, spell the beginning of a second packet the handler would act on. -/
def SpellsPacket (d2 d3 d4 d5 : UInt8) : Prop :=
  d2 = 0xA3 ∧ (d3 = 0xB1 ∨ d3 = 0xB2 ∧ d5 = 0xC3 ∨
      d3 = 0xB3 ∧ d5 = 0xC3 ∧ (d4 = 0x04 ∨ d4 = 0x05 ∨ d4 = 0x06) ∨ d3 = 0xB4 ∧ d4 = 0xC3) ∨
    d3 = 0xA3 ∧ (d4 = 0xB1 ∨ d4 = 0xB2 ∨
      d4 = 0xB3 ∧ (d5 = 0x04 ∨ d5 = 0x05 ∨ d5 = 0x06) ∨ d4 = 0xB4 ∧ d5 = 0xC3) ∨
    d4 = 0xA3 ∧ (d5 = 0xB1 ∨ d5 = 0xB2 ∨ d5 = 0xB4)

instance (d2 d3 d4 d5 : UInt8) : Decidable (SpellsPacket d2 d3 d4 d5) := by
  unfold SpellsPacket
  infer_instance

/-- The coordinates of a light that is reported exactly. -/
def CleanCoordinates (x y : ℤ) : Prop :=
  ¬ SpellsPacket (hiByte (clampWord x)) (loByte (clampWord x))
    (hiByte (clampWord y)) (loByte (clampWord y))

def CleanPacket : Packet → Prop
  | .lightCenter x y => CleanCoordinates x y
  | _ => True

/-! ## One packet -/

theorem framed_packet (packet : Packet) : uart4Port.rule.Framed packet.bytes := by
  apply Rule.Framed.of_take
  · intro more
    cases packet <;>
      simp [Packet.bytes, sendLightCenterPacket, sendLightNotFoundPacket, sendStatePacket,
        sendPlantTypePacket, sendPacket, lightPacketHeader, statePacketHeader, plantPacketHeader,
        txPacketTail, packWords, Port.rule, uart4Port, RxBuffer.ofList]
  · -- no test of the port finds a proper prefix complete
    intro k hk
    have hshort : k < 7 := lt_of_lt_of_le hk (length_bytes_le packet)
    cases packet with
    | lightCenter => interval_cases k <;> rfl
    | lightNotFound =>
        change k < 3 at hk
        interval_cases k <;> rfl
    | state | plantType =>
        change k < 4 at hk
        interval_cases k <;> rfl

/-- The packet formats the handler finds at offset `i`. -/
def ReadsPacket (data : Memory) (i : ℕ) : Prop :=
  data i = 0xA3 ∧ (data (i + 1) = 0xB1 ∧ data (i + 6) = 0xC3 ∨
    data (i + 1) = 0xB2 ∧ data (i + 3) = 0xC3 ∨
    data (i + 1) = 0xB3 ∧ data (i + 3) = 0xC3 ∧
      (data (i + 2) = 0x04 ∨ data (i + 2) = 0x05 ∨ data (i + 2) = 0x06) ∨
    data (i + 1) = 0xB4 ∧ data (i + 2) = 0xC3)

theorem maixcamStep_of_not_reads {data : Memory} {i : ℕ} (hquiet : ¬ ReadsPacket data i)
    (g : Globals) : maixcamStep data g i = g := by
  simp only [ReadsPacket, not_and, not_or] at hquiet
  by_cases hhead : data i = 0xA3
  · obtain ⟨hloc, hsta, htyp, hled⟩ := hquiet hhead
    have hloc' : maixcamLocation data i g = g := if_neg fun h => hloc h.2.1 h.2.2
    have hsta' : maixcamState data i g = g := if_neg fun h => hsta h.2.1 h.2.2
    have hled' : maixcamLed data i g = g := if_neg fun h => hled h.2.1 h.2.2
    have htyp' : maixcamType data i g = g := by
      unfold maixcamType
      split
      next h =>
        obtain ⟨h4, h5, h6⟩ := htyp h.2.1 h.2.2
        simp only [h4, h5, h6, ↓reduceIte]
      next => rfl
    rw [maixcamStep, hloc', hsta', htyp', hled']
  · exact maixcamStep_of_ne_head hhead g

section Reads

variable {data : Memory} {i : ℕ} (hhead : data i = 0xA3)

include hhead

theorem maixcamStep_location (htype : data (i + 1) = 0xB1) (htail : data (i + 6) = 0xC3)
    (g : Globals) :
    maixcamStep data g i =
      { g with
        sourceX := beWord (data (i + 2)) (data (i + 3))
        sourceY := beWord (data (i + 4)) (data (i + 5))
        findingFlag := 1
        lightOnOffFlag := 0 } := by
  simp [maixcamStep, maixcamLocation, maixcamState, maixcamType, maixcamLed, hhead, htype, htail]

theorem maixcamStep_state (htype : data (i + 1) = 0xB2) (htail : data (i + 3) = 0xC3)
    (g : Globals) : maixcamStep data g i = { g with bladeState := data (i + 2) } := by
  simp [maixcamStep, maixcamLocation, maixcamState, maixcamType, maixcamLed, hhead, htype, htail]

theorem maixcamStep_type (htype : data (i + 1) = 0xB3) (htail : data (i + 3) = 0xC3)
    {code : PlantCode} (hcode : data (i + 2) = packByte code.code) (g : Globals) :
    maixcamStep data g i = { g with soilPlantType := soilPlantTypeOf code } := by
  cases code <;>
    simp [maixcamStep, maixcamLocation, maixcamState, maixcamType, maixcamLed, hhead, htype,
      htail, hcode, PlantCode.code, packByte, soilPlantTypeOf]

theorem maixcamStep_led (htype : data (i + 1) = 0xB4) (htail : data (i + 2) = 0xC3)
    (g : Globals) :
    maixcamStep data g i = { g with lightOnOffFlag := 1, findingFlag := 0 } := by
  simp [maixcamStep, maixcamLocation, maixcamState, maixcamType, maixcamLed, hhead, htype, htail]

end Reads

theorem exists_plantCode {t : UInt8} (ht : t = 0x04 ∨ t = 0x05 ∨ t = 0x06) :
    ∃ code : PlantCode, t = packByte code.code := by
  rcases ht with rfl | rfl | rfl
  · exact ⟨.shade, rfl⟩
  · exact ⟨.halfSun, rfl⟩
  · exact ⟨.fullSun, rfl⟩

/-- Memory with a light packet at its start. -/
structure LightAt (data : Memory) (x y : ℤ) : Prop where
  byte0 : data 0 = 0xA3
  byte1 : data 1 = 0xB1
  byte2 : data 2 = hiByte (clampWord x)
  byte3 : data 3 = loByte (clampWord x)
  byte4 : data 4 = hiByte (clampWord y)
  byte5 : data 5 = loByte (clampWord y)
  byte6 : data 6 = 0xC3

theorem lightAt_of_map_range {data : Memory} {x y : ℤ}
    (hdata : (List.range 7).map data = sendLightCenterPacket x y) : LightAt data x y := by
  have hbyte : ∀ {k} (hk : k < 7), data k = (sendLightCenterPacket x y)[k] := fun hk =>
    data_eq_of_map_range hdata hk
  exact ⟨hbyte (k := 0) (by decide), hbyte (k := 1) (by decide), hbyte (k := 2) (by decide),
    hbyte (k := 3) (by decide), hbyte (k := 4) (by decide), hbyte (k := 5) (by decide),
    hbyte (k := 6) (by decide)⟩

/-- On a light packet the handler does what the packet says, and then what it
reads at the offsets of the coordinates. -/
theorem maixcamDataProc_light {data : Memory} {x y : ℤ} (hlight : LightAt data x y) (g : Globals) :
    maixcamDataProc data 7 g =
      maixcamStep data
        (maixcamStep data (maixcamStep data (meaning (.lightCenter x y) g) 2) 3) 4 := by
  have hhead : maixcamStep data g 0 = meaning (.lightCenter x y) g := by
    rw [maixcamStep_location hlight.byte0 hlight.byte1 hlight.byte6, hlight.byte2, hlight.byte3,
      hlight.byte4, hlight.byte5, beWord_bytes (clampWord_lt x), beWord_bytes (clampWord_lt y)]
    rfl
  have hquiet1 : ∀ g, maixcamStep data g 1 = g :=
    maixcamStep_of_ne_head (by rw [hlight.byte1]; decide)
  have hquiet5 : ∀ g, maixcamStep data g 5 = g := by
    refine maixcamStep_of_not_reads ?_
    simp [ReadsPacket, hlight.byte6]
  change [0, 1, 2, 3, 4, 5].foldl (maixcamStep data) g = _
  simp only [List.foldl_cons, List.foldl_nil, hhead, hquiet1, hquiet5]

/-- What the handler reads at the offsets of the coordinates is spelled there. -/
theorem spellsPacket_of_reads {data : Memory} {x y : ℤ} (hlight : LightAt data x y) {i : ℕ}
    (hlow : 2 ≤ i) (hhigh : i ≤ 4) (hreads : ReadsPacket data i) :
    SpellsPacket (hiByte (clampWord x)) (loByte (clampWord x))
      (hiByte (clampWord y)) (loByte (clampWord y)) := by
  rw [← hlight.byte2, ← hlight.byte3, ← hlight.byte4, ← hlight.byte5]
  have htail := hlight.byte6
  interval_cases i <;> simp only [ReadsPacket] at hreads
  · refine .inl (hreads.imp_right ?_)
    rintro (h | h | h | h)
    · exact .inl h.1
    · exact .inr (.inl h)
    · exact .inr (.inr (.inl h))
    · exact .inr (.inr (.inr h))
  · refine .inr (.inl (hreads.imp_right ?_))
    rintro (h | h | h | h)
    · exact .inl h.1
    · exact .inr (.inl h.1)
    · exact .inr (.inr (.inl ⟨h.1, h.2.2⟩))
    · exact .inr (.inr (.inr h))
  · refine .inr (.inr (hreads.imp_right ?_))
    rintro (h | h | h | h)
    · exact .inl h.1
    · exact .inr (.inl h.1)
    · simp [htail] at h
    · exact .inr (.inr h.1)

/-- Packets of four bytes are read at their first offset only. -/
theorem maixcamDataProc_four {data : Memory} (htype : data 1 ≠ 0xA3) (htail : data 3 = 0xC3)
    (g : Globals) : maixcamDataProc data 4 g = maixcamStep data g 0 := by
  have hquiet1 : ∀ g, maixcamStep data g 1 = g := maixcamStep_of_ne_head htype
  have hquiet2 : ∀ g, maixcamStep data g 2 = g := by
    refine maixcamStep_of_not_reads ?_
    simp [ReadsPacket, htail]
  change [0, 1, 2].foldl (maixcamStep data) g = _
  rw [List.foldl_cons, List.foldl_cons, List.foldl_cons, List.foldl_nil, hquiet2, hquiet1]

/-- The handler carries out a clean packet wherever it stands in memory. -/
theorem maixcamDataProc_bytes {packet : Packet} (hclean : CleanPacket packet) (data : Memory)
    (g : Globals) (hdata : (List.range packet.bytes.length).map data = packet.bytes) :
    maixcamDataProc data packet.bytes.length g = meaning packet g := by
  cases packet with
  | lightCenter x y =>
      have hlight : LightAt data x y := lightAt_of_map_range hdata
      have hquiet : ∀ i, 2 ≤ i → i ≤ 4 → ∀ g, maixcamStep data g i = g := by
        intro i hlow hhigh
        apply maixcamStep_of_not_reads
        intro hreads
        exact hclean (spellsPacket_of_reads hlight hlow hhigh hreads)
      change maixcamDataProc data 7 g = _
      rw [maixcamDataProc_light hlight, hquiet 2 (by omega) (by omega),
        hquiet 3 (by omega) (by omega), hquiet 4 (by omega) (by omega)]
  | lightNotFound =>
      have h0 : data 0 = 0xA3 := data_eq_of_map_range hdata (k := 0) (by decide)
      have h1 : data 1 = 0xB4 := data_eq_of_map_range hdata (k := 1) (by decide)
      have h2 : data 2 = 0xC3 := data_eq_of_map_range hdata (k := 2) (by decide)
      change [0, 1].foldl (maixcamStep data) g = _
      rw [List.foldl_cons, List.foldl_cons, List.foldl_nil,
        maixcamStep_of_ne_head (by rw [h1]; decide), maixcamStep_led h0 h1 h2]
      rfl
  | state stateId =>
      have hlength : (Packet.state stateId).bytes.length = 4 := rfl
      have h0 : data 0 = 0xA3 := data_eq_of_map_range hdata (k := 0) (by omega)
      have h1 : data 1 = 0xB2 := data_eq_of_map_range hdata (k := 1) (by omega)
      have h2 : data 2 = packByte stateId := data_eq_of_map_range hdata (k := 2) (by omega)
      have h3 : data 3 = 0xC3 := data_eq_of_map_range hdata (k := 3) (by omega)
      rw [hlength, maixcamDataProc_four (by rw [h1]; decide) h3, maixcamStep_state h0 h1 h3, h2]
      rfl
  | plantType code =>
      have hlength : (Packet.plantType code).bytes.length = 4 := rfl
      have h0 : data 0 = 0xA3 := data_eq_of_map_range hdata (k := 0) (by omega)
      have h1 : data 1 = 0xB3 := data_eq_of_map_range hdata (k := 1) (by omega)
      have h2 : data 2 = packByte code.code := data_eq_of_map_range hdata (k := 2) (by omega)
      have h3 : data 3 = 0xC3 := data_eq_of_map_range hdata (k := 3) (by omega)
      rw [hlength, maixcamDataProc_four (by rw [h1]; decide) h3, maixcamStep_type h0 h1 h3 h2]
      rfl

/-! ## The stream -/

/-- Read in these pieces from an empty buffer, the packets leave the variables,
in the end and after each of them, as their meanings do. -/
def ProcessedExactly (packets : List Packet) (chunks : List (List UInt8)) (memory : Memory)
    (g : Globals) : Prop :=
  let out := chunks.foldl (uart4Port.rxEntry (Port.logged maixcamDataProc)) (⟨memory, 0⟩, g, [])
  out.2 = (packets.foldl (fun g packet => meaning packet g) g,
    (packets.scanl (fun g packet => meaning packet g) g).tail)

theorem logged_bytes {packet : Packet} (hclean : CleanPacket packet) (data : Memory)
    (s : Globals × List Globals)
    (hdata : (List.range packet.bytes.length).map data = packet.bytes) :
    Port.logged maixcamDataProc data packet.bytes.length s =
      (meaning packet s.1, s.2 ++ [meaning packet s.1]) := by
  rw [Port.logged, maixcamDataProc_bytes hclean data s.1 hdata]

/-- Clean packets, read in pieces in any way, are processed exactly. The memory
of the buffer may hold anything at the start. -/
theorem foldl_rxEntry_clean {packets : List Packet}
    (hclean : ∀ packet ∈ packets, CleanPacket packet) (chunks : List (List UInt8))
    (memory : Memory) (g : Globals)
    (hstream : chunks.flatten = (packets.map Packet.bytes).flatten)
    (hchunks : ∀ chunk ∈ chunks, chunk.length ≤ 390) :
    ProcessedExactly packets chunks memory g ∧
      (chunks.foldl (uart4Port.rxEntry (Port.logged maixcamDataProc))
        (⟨memory, 0⟩, g, [])).1.length = 0 := by
  have hroom : ∀ chunk ∈ chunks, chunk.length + 7 ≤ uartMaxLen + 1 := by
    intro chunk hmem
    have hle := hchunks chunk hmem
    have hmax : uartMaxLen = 400 := rfl
    omega
  obtain ⟨hlength, hstate⟩ := uart4Port.foldl_rxEntry_encoded (Port.logged maixcamDataProc)
    Packet.bytes (fun packet s => (meaning packet s.1, s.2 ++ [meaning packet s.1]))
    (fun packet _ => framed_packet packet)
    (fun packet hmem data s hdata => logged_bytes (hclean packet hmem) data s hdata)
    (fun packet _ => length_bytes_le packet) chunks memory (g, []) hroom hstream
  exact ⟨by rw [ProcessedExactly, hstate, Port.foldl_logged, List.nil_append], hlength⟩

/-! ## Coordinates that are read as a second packet -/

theorem soilPlantTypeOf_ne_zero (code : PlantCode) : soilPlantTypeOf code ≠ 0 := by
  cases code <;> decide

/-- With tail bytes behind it, which complete whatever it spells, a light packet
changes something else as well, or tells the wrong place. -/
def Misread (x y : ℤ) (bladeState : UInt8) : Prop :=
  ∀ data, LightAt data x y → (∀ k, 7 ≤ k → k ≤ 10 → data k = 0xC3) →
    ∀ g : Globals, g.bladeState = bladeState → g.soilPlantType = 0 →
      maixcamDataProc data 7 g ≠ meaning (.lightCenter x y) g

theorem ne_add_one (d : UInt8) : d ≠ d + 1 := by simp

theorem maixcamStep_last {data : Memory} {x y : ℤ} (hlight : LightAt data x y)
    (hlast : ¬ (hiByte (clampWord y) = 0xA3 ∧ (loByte (clampWord y) = 0xB1 ∨
      loByte (clampWord y) = 0xB2 ∨ loByte (clampWord y) = 0xB4))) (g : Globals) :
    maixcamStep data g 4 = g := by
  refine maixcamStep_of_not_reads (fun ⟨h4, hrest⟩ => hlast ?_) g
  rw [← hlight.byte4, ← hlight.byte5]
  have htail := hlight.byte6
  rcases hrest with h | h | h | h
  · exact ⟨h4, .inl h.1⟩
  · exact ⟨h4, .inr (.inl h.1)⟩
  · simp [htail] at h
  · exact ⟨h4, .inr (.inr h.1)⟩

/-- A packet read at the last offset decides, whatever was read before. -/
theorem misread_last {x y : ℤ} (h4 : hiByte (clampWord y) = 0xA3)
    (hrest : loByte (clampWord y) = 0xB1 ∨ loByte (clampWord y) = 0xB2 ∨
      loByte (clampWord y) = 0xB4) : Misread x y 0 := by
  intro data hlight hbehind g hblade _ heq
  have hy := beWord_bytes (clampWord_lt y)
  have hhead := hlight.byte4.trans h4
  rw [maixcamDataProc_light hlight] at heq
  generalize maixcamStep data (maixcamStep data _ 2) 3 = before at heq
  rcases hrest with h5 | h5 | h5
  · rw [maixcamStep_location hhead (hlight.byte5.trans h5) (hbehind 10 (by omega) (by omega))]
      at heq
    have hfield := congrArg Globals.sourceY heq
    simp only [meaning, hbehind 8 (by omega) (by omega), hbehind 9 (by omega) (by omega)] at hfield
    rw [← hy, h4, h5] at hfield
    exact absurd hfield (by decide)
  · rw [maixcamStep_state hhead (hlight.byte5.trans h5) (hbehind 7 (by omega) (by omega))] at heq
    have hfield := congrArg Globals.bladeState heq
    simp only [meaning, hblade, hlight.byte6] at hfield
    exact absurd hfield (by decide)
  · rw [maixcamStep_led hhead (hlight.byte5.trans h5) hlight.byte6] at heq
    have hfield := congrArg Globals.findingFlag heq
    exact absurd hfield (by simp [meaning])

/-- A packet read at the first coordinate byte, and there only. -/
theorem misread_first {x y : ℤ}
    (hquiet4 : ∀ data, LightAt data x y → ∀ g, maixcamStep data g 4 = g)
    (h2 : hiByte (clampWord x) = 0xA3)
    (hrest : loByte (clampWord x) = 0xB1 ∨
      loByte (clampWord x) = 0xB2 ∧ loByte (clampWord y) = 0xC3 ∨
      loByte (clampWord x) = 0xB3 ∧ loByte (clampWord y) = 0xC3 ∧
        (hiByte (clampWord y) = 0x04 ∨ hiByte (clampWord y) = 0x05 ∨
          hiByte (clampWord y) = 0x06) ∨
      loByte (clampWord x) = 0xB4 ∧ hiByte (clampWord y) = 0xC3) :
    Misread x y (hiByte (clampWord y) + 1) := by
  intro data hlight hbehind g hblade hsoil heq
  have hx := beWord_bytes (clampWord_lt x)
  have hy := beWord_bytes (clampWord_lt y)
  have hhead := hlight.byte2.trans h2
  have hquiet3 : ∀ g, maixcamStep data g 3 = g := by
    refine maixcamStep_of_ne_head ?_
    rw [hlight.byte3]
    rcases hrest with h | h | h | h
    · rw [h]; decide
    all_goals rw [h.1]; decide
  rw [maixcamDataProc_light hlight, hquiet4 data hlight, hquiet3] at heq
  rcases hrest with h3 | ⟨h3, h5⟩ | ⟨h3, h5, h4⟩ | ⟨h3, h4⟩
  · rw [maixcamStep_location hhead (hlight.byte3.trans h3) (hbehind 8 (by omega) (by omega))]
      at heq
    have hfieldX := congrArg Globals.sourceX heq
    have hfieldY := congrArg Globals.sourceY heq
    simp only [meaning, hlight.byte4, hlight.byte5, hlight.byte6,
      hbehind 7 (by omega) (by omega)] at hfieldX hfieldY
    rw [← hy] at hfieldY
    rw [← hx, h2, h3, ← hfieldY] at hfieldX
    exact absurd hfieldX (by decide)
  · rw [maixcamStep_state hhead (hlight.byte3.trans h3) (hlight.byte5.trans h5)] at heq
    have hfield := congrArg Globals.bladeState heq
    simp only [meaning, hblade, hlight.byte4] at hfield
    exact ne_add_one _ hfield
  · obtain ⟨code, hcode⟩ := exists_plantCode h4
    rw [maixcamStep_type hhead (hlight.byte3.trans h3) (hlight.byte5.trans h5)
      (hlight.byte4.trans hcode)] at heq
    have hfield := congrArg Globals.soilPlantType heq
    simp only [meaning, hsoil] at hfield
    exact soilPlantTypeOf_ne_zero code hfield
  · rw [maixcamStep_led hhead (hlight.byte3.trans h3) (hlight.byte4.trans h4)] at heq
    have hfield := congrArg Globals.findingFlag heq
    exact absurd hfield (by simp [meaning])

/-- A packet read at the second coordinate byte, where the first cannot begin
one. -/
theorem misread_second {x y : ℤ}
    (hquiet4 : ∀ data, LightAt data x y → ∀ g, maixcamStep data g 4 = g)
    (h3 : loByte (clampWord x) = 0xA3)
    (hrest : hiByte (clampWord y) = 0xB1 ∨ hiByte (clampWord y) = 0xB2 ∨
      hiByte (clampWord y) = 0xB3 ∧
        (loByte (clampWord y) = 0x04 ∨ loByte (clampWord y) = 0x05 ∨
          loByte (clampWord y) = 0x06) ∨
      hiByte (clampWord y) = 0xB4 ∧ loByte (clampWord y) = 0xC3) :
    Misread x y (loByte (clampWord y) + 1) := by
  intro data hlight hbehind g hblade hsoil heq
  have hy := beWord_bytes (clampWord_lt y)
  have hhead := hlight.byte3.trans h3
  have hquiet2 : ∀ g, maixcamStep data g 2 = g := by
    refine maixcamStep_of_not_reads fun ⟨_, hreads⟩ => ?_
    change data 3 = 0xB1 ∧ _ ∨ data 3 = 0xB2 ∧ _ ∨ data 3 = 0xB3 ∧ _ ∨ data 3 = 0xB4 ∧ _ at hreads
    simp [hhead] at hreads
  rw [maixcamDataProc_light hlight, hquiet4 data hlight, hquiet2] at heq
  rcases hrest with h4 | h4 | ⟨h4, h5⟩ | ⟨h4, h5⟩
  · rw [maixcamStep_location hhead (hlight.byte4.trans h4) (hbehind 9 (by omega) (by omega))]
      at heq
    have hfield := congrArg Globals.sourceY heq
    simp only [meaning, hbehind 7 (by omega) (by omega), hbehind 8 (by omega) (by omega)] at hfield
    rw [← hy, h4, beWord_eq, beWord_eq] at hfield
    have hlt := (loByte (clampWord y)).toNat_lt
    simp at hfield
    omega
  · rw [maixcamStep_state hhead (hlight.byte4.trans h4) hlight.byte6] at heq
    have hfield := congrArg Globals.bladeState heq
    simp only [meaning, hblade, hlight.byte5] at hfield
    exact ne_add_one _ hfield
  · obtain ⟨code, hcode⟩ := exists_plantCode h5
    rw [maixcamStep_type hhead (hlight.byte4.trans h4) hlight.byte6
      (hlight.byte5.trans hcode)] at heq
    have hfield := congrArg Globals.soilPlantType heq
    simp only [meaning, hsoil] at hfield
    exact soilPlantTypeOf_ne_zero code hfield
  · rw [maixcamStep_led hhead (hlight.byte4.trans h4) (hlight.byte5.trans h5)] at heq
    have hfield := congrArg Globals.findingFlag heq
    exact absurd hfield (by simp [meaning])

/-- A light packet that is not clean is misread in some state of the leaves. -/
theorem exists_misread {x y : ℤ} (hspells : ¬ CleanCoordinates x y) :
    ∃ bladeState, Misread x y bladeState := by
  unfold CleanCoordinates at hspells
  rw [not_not] at hspells
  by_cases hlast : hiByte (clampWord y) = 0xA3 ∧ (loByte (clampWord y) = 0xB1 ∨
      loByte (clampWord y) = 0xB2 ∨ loByte (clampWord y) = 0xB4)
  · exact ⟨_, misread_last hlast.1 hlast.2⟩
  · have hquiet4 : ∀ data, LightAt data x y → ∀ g, maixcamStep data g 4 = g :=
      fun _ hlight => maixcamStep_last hlight hlast
    rcases hspells with ⟨h2, hrest⟩ | ⟨h3, hrest⟩ | h45
    · exact ⟨_, misread_first hquiet4 h2 hrest⟩
    · exact ⟨_, misread_second hquiet4 h3 hrest⟩
    · exact absurd h45 hlast

/-- Reading whole clean packets into an empty buffer: it is empty again, and
from the last byte read on memory is as the read left it. -/
theorem uart4RxEntry_clean {packets : List Packet} (hclean : ∀ packet ∈ packets, CleanPacket packet)
    (b : RxBuffer) (hb : b.length = 0) (g : Globals) (chunk : List UInt8)
    (hchunk : chunk = (packets.map Packet.bytes).flatten) (hsize : chunk.length ≤ 390)
    (hne : 0 < chunk.length) :
    let out := uart4RxEntry (b, g) chunk
    out.1.length = 0 ∧ out.2 = packets.foldl (fun g packet => meaning packet g) g ∧
      ∀ k, 0 < k → chunk.length ≤ k + 1 →
        out.1.bytes k = if k < chunk.length then chunk.getD k 0 else b.bytes k := by
  obtain ⟨memory, length⟩ := b
  obtain rfl : length = 0 := hb
  obtain ⟨hexact, hempty⟩ := foldl_rxEntry_clean hclean [chunk] memory g (by simpa using hchunk)
    (by simpa using hsize)
  have hplain := uart4Port.foldl_rxEntry_map (Port.logged maixcamDataProc)
    maixcamDataProc (f := Prod.fst) (fun _ _ _ => rfl) [chunk] ⟨memory, 0⟩ (g, [])
  simp only [List.foldl_cons, List.foldl_nil, ProcessedExactly] at hplain hexact hempty
  dsimp only
  rw [uart4RxEntry, hplain]
  refine ⟨hempty, congrArg Prod.fst hexact, fun k hk hlast => ?_⟩
  have hmax : uartMaxLen = 400 := rfl
  change (uart4Port.rxEntry (Port.logged maixcamDataProc) (⟨memory, 0⟩, g, []) chunk).1.bytes k = _
  rw [Port.rxEntry, if_pos hne, Port.tryParse, Port.bytes_tryParseFrom _ _ _ _ _ hk]
  · simp [RxBuffer.append]
  · simp only [RxBuffer.append]
    split <;> omega

/-- Packets after which the memory behind a light packet holds tail bytes only,
with the reads that deliver them. -/
def warmUp (s : ℤ) : List (List Packet) :=
  [[.lightNotFound, .state s, .state s], [.lightNotFound, .lightNotFound, .state s],
    [.lightNotFound, .lightNotFound, .lightNotFound], [.state s, .state s]]

def readOf (packets : List Packet) : List UInt8 := (packets.map Packet.bytes).flatten

/-- A read that is one byte shorter than the one before it leaves its tail in front of
that one's. -/
theorem uart4RxEntry_warms (packets : List Packet) (last : ℕ)
    (hclean : ∀ packet ∈ packets, CleanPacket packet)
    (hlength : (readOf packets).length = last + 1) (hpos : 0 < last) (hlast : last ≤ 10)
    (htail : (readOf packets).getD last 0 = 0xC3) (b : RxBuffer) (hb : b.length = 0)
    (hwarm : ∀ k, last < k → k ≤ 10 → b.bytes k = 0xC3) (g : Globals) :
    let out := uart4RxEntry (b, g) (readOf packets)
    out.1.length = 0 ∧ (∀ k, last ≤ k → k ≤ 10 → out.1.bytes k = 0xC3) ∧
      out.2 = packets.foldl (fun g packet => meaning packet g) g := by
  obtain ⟨hempty, hmeaning, hbytes⟩ := uart4RxEntry_clean hclean b hb g (readOf packets) rfl
    (by omega) (by omega)
  refine ⟨hempty, ?_, hmeaning⟩
  intro k hlow hhigh
  rw [hbytes k (by omega) (by omega), hlength]
  rcases Nat.eq_or_lt_of_le hlow with rfl | hlt
  · rw [if_pos (Nat.lt_succ_self _), htail]
  · rw [if_neg (by omega), hwarm k hlt hhigh]

theorem foldl_warmUp (s : ℤ) (g : Globals) :
    let out := ((warmUp s).map readOf).foldl uart4RxEntry (⟨fun _ => 0, 0⟩, g)
    out.1.length = 0 ∧ (∀ k, 7 ≤ k → k ≤ 10 → out.1.bytes k = 0xC3) ∧
      out.2 = (warmUp s).flatten.foldl (fun g packet => meaning packet g) g := by
  have hclean : ∀ packets ∈ warmUp s, ∀ packet ∈ packets, CleanPacket packet := by
    simp [warmUp, CleanPacket]
  simp only [warmUp, List.map_cons, List.map_nil, List.foldl_cons, List.foldl_nil]
  obtain ⟨hb1, hk1, hg1⟩ := uart4RxEntry_warms [.lightNotFound, .state s, .state s] 10
    (hclean _ (by simp [warmUp])) rfl (by decide) le_rfl rfl ⟨fun _ => 0, 0⟩ rfl
    (fun k hlow hhigh => by omega) g
  generalize uart4RxEntry _ (readOf [.lightNotFound, .state s, .state s]) = out1 at hb1 hk1 hg1 ⊢
  obtain ⟨hb2, hk2, hg2⟩ := uart4RxEntry_warms [.lightNotFound, .lightNotFound, .state s] 9
    (hclean _ (by simp [warmUp])) rfl (by decide) (by decide) rfl out1.1 hb1 hk1 out1.2
  generalize uart4RxEntry _ (readOf [.lightNotFound, .lightNotFound, .state s]) = out2
    at hb2 hk2 hg2 ⊢
  obtain ⟨hb3, hk3, hg3⟩ := uart4RxEntry_warms [.lightNotFound, .lightNotFound, .lightNotFound] 8
    (hclean _ (by simp [warmUp])) rfl (by decide) (by decide) rfl out2.1 hb2 hk2 out2.2
  generalize uart4RxEntry _ (readOf [.lightNotFound, .lightNotFound, .lightNotFound]) = out3
    at hb3 hk3 hg3 ⊢
  obtain ⟨hb4, hk4, hg4⟩ := uart4RxEntry_warms [.state s, .state s] 7
    (hclean _ (by simp [warmUp])) rfl (by decide) (by decide) rfl out3.1 hb3 hk3 out3.2
  refine ⟨hb4, hk4, ?_⟩
  calc _ = _ := hg4
    _ = _ := by
      rw [hg3, hg2, hg1]
      simp only [List.flatten_cons, List.flatten_nil, List.append_nil, List.foldl_append]

/-- A light packet read into an empty buffer is handled with the old memory
behind it. -/
theorem uart4RxEntry_light (x y : ℤ) (b : RxBuffer) (hb : b.length = 0) (g : Globals) :
    ∃ data, LightAt data x y ∧ (∀ k, 7 ≤ k → data k = b.bytes k) ∧
      (uart4RxEntry (b, g) (sendLightCenterPacket x y)).2 = maixcamDataProc data 7 g := by
  have hlength : (sendLightCenterPacket x y).length = 7 := rfl
  have happended : b.append (sendLightCenterPacket x y) =
      ⟨fun k => if k < 7 then (sendLightCenterPacket x y).getD k 0 else b.bytes k, 7⟩ := by
    simp [RxBuffer.append, hb, hlength]
  have hsize : uart4Port.frameSize
      ⟨fun k => if k < 7 then (sendLightCenterPacket x y).getD k 0 else b.bytes k, 7⟩ 0 = some 7 :=
    rfl
  refine ⟨fun k => if k < 7 then (sendLightCenterPacket x y).getD k 0 else b.bytes k,
    lightAt_of_map_range rfl, fun k hk => if_neg (by omega), ?_⟩
  · rw [uart4RxEntry, Port.rxEntry, if_pos (by rw [hlength]; decide), happended, Port.tryParse,
      uart4Port.tryParseFrom_accept (Nat.succ_pos 6) (not_not_intro rfl) hsize,
      uart4Port.tryParseFrom_stop (by simp [RxBuffer.length_shiftLeft])]
    simp

theorem packByte_toNat (s : UInt8) : packByte s.toNat = s := by
  have hlt := s.toNat_lt
  have hbyte : ((s.toNat : ℤ) % 256).toNat = s.toNat := by omega
  rw [packByte, hbyte, UInt8.ofNat_toNat]

/-- Streams whose light packets carry coordinates from a given set arrive
exactly, however they are cut, if and only if all of these are clean. -/
theorem uart4_exact_iff_clean (coords : Set (ℤ × ℤ)) :
    (∀ packets chunks g, (∀ x y, Packet.lightCenter x y ∈ packets → (x, y) ∈ coords) →
        chunks.flatten = (packets.map Packet.bytes).flatten →
        (∀ chunk ∈ chunks, chunk.length ≤ 390) →
        ProcessedExactly packets chunks (fun _ => 0) g) ↔
      ∀ x y, (x, y) ∈ coords → CleanCoordinates x y := by
  constructor
  · intro hexact x y hmem
    by_contra hspells
    obtain ⟨s, hne⟩ := exists_misread hspells
    have hbyte : packByte s.toNat = s := packByte_toNat s
    have hrun := hexact ((warmUp s.toNat).flatten ++ [.lightCenter x y])
      ((warmUp s.toNat).map readOf ++ [sendLightCenterPacket x y]) { soilPlantType := 0 }
      (fun x' y' hmem' => by
        have heq : x' = x ∧ y' = y := by simpa [warmUp] using hmem'
        rwa [heq.1, heq.2])
      (by simp [warmUp, readOf, Packet.bytes])
      (by simp only [warmUp, List.map_cons, List.map_nil, List.cons_append, List.nil_append,
            List.forall_mem_cons, List.not_mem_nil, false_imp_iff, forall_const, and_true]
          exact ⟨Nat.le_of_ble_eq_true rfl, Nat.le_of_ble_eq_true rfl, Nat.le_of_ble_eq_true rfl,
            Nat.le_of_ble_eq_true rfl, Nat.le_of_ble_eq_true rfl⟩)
    have hplain := uart4Port.foldl_rxEntry_map (Port.logged maixcamDataProc)
      maixcamDataProc (f := Prod.fst) (fun _ _ _ => rfl)
      ((warmUp s.toNat).map readOf ++ [sendLightCenterPacket x y]) ⟨fun _ => 0, 0⟩
      ({ soilPlantType := 0 }, [])
    have hstate := (congrArg Prod.snd hplain).trans (congrArg Prod.fst hrun)
    rw [List.foldl_append, List.foldl_append] at hstate
    obtain ⟨hempty, htails, hwarm⟩ := foldl_warmUp s.toNat { soilPlantType := 0 }
    obtain ⟨data, hlight, hbehind, hhandled⟩ := uart4RxEntry_light x y
      (((warmUp s.toNat).map readOf).foldl uart4RxEntry
        (⟨fun _ => 0, 0⟩, { soilPlantType := 0 })).1 hempty
      (((warmUp s.toNat).map readOf).foldl uart4RxEntry
        (⟨fun _ => 0, 0⟩, { soilPlantType := 0 })).2
    refine hne data hlight (fun k hlow hhigh => (hbehind k hlow).trans (htails k hlow hhigh)) _
      ?_ ?_ ((hhandled.symm.trans hstate).trans ?_)
    · rw [hwarm]
      exact hbyte
    · rw [hwarm]
      rfl
    · rw [hwarm]
      rfl
  · intro hclean packets chunks g hcoords hstream hchunks
    refine (foldl_rxEntry_clean (fun packet hmem => ?_) chunks (fun _ => 0) g hstream hchunks).1
    cases packet with
    | lightCenter x y => exact hclean x y (hcoords x y hmem)
    | lightNotFound | state | plantType => trivial

/-- A light at `0xA3B2`, `0x00C3` also reports the leaves as healthy. -/
theorem light_reports_leaf_state :
    ¬ ProcessedExactly [.lightCenter 0xA3B2 0x00C3] [sendLightCenterPacket 0xA3B2 0x00C3]
        (fun _ => 0) {} ∧
      (uart4RxEntry (⟨fun _ => 0, 0⟩, {}) (sendLightCenterPacket 0xA3B2 0x00C3)).2.bladeState =
        0x00 := by
  unfold ProcessedExactly
  constructor <;> decide +kernel

end PlantAssistant.Link
