import PlantAssistant.Firmware.UartPort

/-! # The two ports' frame formats -/

namespace PlantAssistant.Firmware

open Framing

namespace RxBuffer

theorem bytes_ofList_drop (b : RxBuffer) {i k : ℕ} (hk : i + k < b.length) :
    (ofList (b.content.drop i)).bytes (0 + k) = b.bytes (i + k) := by
  rw [Nat.zero_add]
  exact b.getD_drop_content hk

theorem lt_length_ofList_drop (b : RxBuffer) (i k : ℕ) :
    0 + k < (ofList (b.content.drop i)).length ↔ i + k < b.length := by
  simp only [ofList, List.length_drop, length_content]
  omega

end RxBuffer

/-- UART5: a time frame of nine bytes, or any four bytes from header to tail. -/
def uart5Port : Port where
  head := plantSoftpackHead1
  frameSize b i :=
    if i + 8 < b.length ∧ b.bytes (i + 1) = plantSoftCmdTime ∧
        b.bytes (i + 8) = plantSoftpackTail then
      some 9
    else if i + 3 < b.length ∧ b.bytes (i + 3) = plantSoftpackTail then some 4
    else none
  frameSize_pos {b i size} hsize := by
    split_ifs at hsize <;> cases hsize <;> decide
  frameSize_le {b i size} hsize := by
    split_ifs at hsize <;> cases hsize <;> omega
  frameSize_drop b i := by
    simp only [b.lt_length_ofList_drop]
    by_cases hlong : i + 8 < b.length
    · have h1 : i + 1 < b.length := by omega
      have h3 : i + 3 < b.length := by omega
      rw [b.bytes_ofList_drop hlong, b.bytes_ofList_drop h1, b.bytes_ofList_drop h3]
    · by_cases hshort : i + 3 < b.length
      · rw [b.bytes_ofList_drop hshort]
        simp only [hlong, false_and, ↓reduceIte]
      · simp only [hlong, hshort, false_and, ↓reduceIte]

/-- UART4: seven bytes for a location, four for a state or a plant type, three
for a lost light. -/
def uart4Port : Port where
  head := uart4FrameHead1
  frameSize b i :=
    if i + 6 < b.length ∧ b.bytes (i + 1) = uart4FrameHead2Loc ∧
        b.bytes (i + 6) = uart4FrameTail1 then
      some 7
    else if i + 3 < b.length ∧
        (b.bytes (i + 1) = uart4FrameHead2Sta ∨ b.bytes (i + 1) = uart4FrameHead2Typ) ∧
        b.bytes (i + 3) = uart4FrameTail1 then
      some 4
    else if i + 2 < b.length ∧ b.bytes (i + 1) = uart4FrameHead2Led ∧
        b.bytes (i + 2) = uart4FrameTail1 then
      some 3
    else none
  frameSize_pos {b i size} hsize := by
    split_ifs at hsize <;> cases hsize <;> decide
  frameSize_le {b i size} hsize := by
    split_ifs at hsize <;> cases hsize <;> omega
  frameSize_drop b i := by
    simp only [b.lt_length_ofList_drop]
    by_cases h2 : i + 2 < b.length
    · have h1 : i + 1 < b.length := by omega
      rw [b.bytes_ofList_drop h1, b.bytes_ofList_drop h2]
      by_cases h3 : i + 3 < b.length
      · rw [b.bytes_ofList_drop h3]
        by_cases h6 : i + 6 < b.length
        · rw [b.bytes_ofList_drop h6]
        · simp only [h6, false_and, ↓reduceIte]
      · have h6 : ¬ i + 6 < b.length := by omega
        simp only [h6, h3, false_and, ↓reduceIte]
    · have h3 : ¬ i + 3 < b.length := by omega
      have h6 : ¬ i + 6 < b.length := by omega
      simp only [h6, h3, h2, false_and, ↓reduceIte]

def uart5TryParse (b : RxBuffer) (g : Globals) : RxBuffer × Globals :=
  uart5Port.tryParse plantSoftDataProc b g

def uart4TryParse (b : RxBuffer) (g : Globals) : RxBuffer × Globals :=
  uart4Port.tryParse maixcamDataProc b g

/-- The loop bodies of `uart5_rx_entry` and `uart4_rx_entry`. -/
def uart5RxEntry (state : RxBuffer × Globals) (chunk : List UInt8) : RxBuffer × Globals :=
  uart5Port.rxEntry plantSoftDataProc state chunk

def uart4RxEntry (state : RxBuffer × Globals) (chunk : List UInt8) : RxBuffer × Globals :=
  uart4Port.rxEntry maixcamDataProc state chunk

/-- A handler called on a frame finds the frame's bytes in memory. -/
theorem data_eq_of_map_range {data : Memory} {frame : List UInt8}
    (hdata : (List.range frame.length).map data = frame) {k : ℕ} (hk : k < frame.length) :
    data k = frame[k] := by
  have hget := List.getElem_of_eq hdata (by simpa using hk)
  simpa using hget

end PlantAssistant.Firmware
