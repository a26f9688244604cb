import Mathlib.Data.Fintype.Basic
import Mathlib.Tactic.FinCases
import Mathlib.Tactic.IntervalCases
import PlantAssistant.Firmware.UartFrames
import PlantAssistant.Panel.SerialPanel

/-! # The command channel from the panel to the firmware

Each command the panel sends has one effect on the shared variables, and the
receive thread of UART5 applies exactly these effects, however the bytes are
cut into reads.
-/

namespace PlantAssistant.Link

open Framing PlantAssistant.Firmware PlantAssistant.Panel

/-- What a command asks the firmware to do. -/
def effect : Command → Globals → Globals
  | .autoSeek false, g => { g with maixModeFlag := 1, plantleafInsflag := 1, starttimeCnt := 0 }
  | .autoSeek true, g =>
      { g with
        maixModeFlag := 2
        starttimeCnt := 0
        modestateLight := if g.modestateLight = 5 then 1 else g.modestateLight }
  | .pump enabled, g => { g with waterFlag := enabled.toNat }
  | .fillLight enabled, g => { g with lightOnOffFlag := enabled.toNat }
  | .emergency enabled, g => { g with motorFlag := (!enabled).toNat }
  | .plantType index, g => { g with soilPlantType := index + 1 }
  | .timestamp now, g =>
      { g with
        year := UInt8.ofNat (now.year % 100)
        month := UInt8.ofNat now.month
        day := UInt8.ofNat now.day
        hour := UInt8.ofNat now.hour
        minute := UInt8.ofNat now.minute
        second := UInt8.ofNat now.second }

/-- The command byte and argument of the four-byte commands. -/
def commandBytes : Command → Option (UInt8 × UInt8)
  | .autoSeek enabled => some (0x10, if enabled then 0x02 else 0x01)
  | .pump enabled => some (0x20, if enabled then 0x01 else 0x00)
  | .fillLight enabled => some (0x30, if enabled then 0x01 else 0x00)
  | .emergency enabled => some (0x40, if enabled then 0x01 else 0x00)
  | .plantType index => some (0x70, (plantTypeOptions.get index).1)
  | .timestamp _ => none

theorem bytes_of_commandBytes {command : Command} {cmd value : UInt8}
    (hcommand : commandBytes command = some (cmd, value)) :
    command.bytes = [0xAA, cmd, value, 0x55] := by
  cases command <;> cases hcommand <;> exact bytes_frame _ _

theorem bytes_timestamp (now : DateTime) :
    (Command.timestamp now).bytes = timestampFrame now :=
  payloadBytes_hexText _

/-- Neither byte of a four-byte command looks like a header or a time frame. -/
theorem commandBytes_ne {command : Command} {cmd value : UInt8}
    (hcommand : commandBytes command = some (cmd, value)) :
    cmd ≠ 0xAA ∧ value ≠ 0xAA ∧ cmd ≠ 0x60 := by
  cases command with
  | timestamp now => cases hcommand
  | plantType index => fin_cases index <;> cases hcommand <;> decide
  | autoSeek enabled | pump enabled | fillLight enabled | emergency enabled =>
      cases enabled <;> cases hcommand <;> decide

theorem plantSoftCommand_eq_effect {command : Command} {cmd value : UInt8}
    (hcommand : commandBytes command = some (cmd, value)) (g : Globals) :
    plantSoftCommand cmd value g = effect command g := by
  cases command with
  | timestamp now => cases hcommand
  | plantType index => fin_cases index <;> cases hcommand <;> rfl
  | autoSeek enabled =>
      cases enabled <;> cases hcommand
      · rfl
      · simp only [plantSoftCommand, plantSoftMaixMode, effect]
        by_cases hstate : g.modestateLight = 5 <;> simp [hstate]
  | pump enabled | fillLight enabled | emergency enabled =>
      cases enabled <;> cases hcommand <;> rfl

/-! ## One frame -/

/-- The bytes of a time frame between its command and its tail are too small to
be a header, and the third of them is a month. -/
theorem timestampFrame_small (now : DateTime) :
    (∀ k, 2 ≤ k → k < 8 → (timestampFrame now).getD k 0 < 0xAA) ∧
      (timestampFrame now).getD 3 0 ≠ 0x55 := by
  have hday : daysInMonth now.year now.month ≤ 31 := by
    unfold daysInMonth
    split_ifs <;> decide
  have hsmall : ∀ n < 100, UInt8.ofNat n < 0xAA := by decide
  obtain ⟨hmonth, hmonth'⟩ := now.month_mem
  obtain ⟨-, hday'⟩ := now.day_mem
  have hhour := now.hour_lt
  have hminute := now.minute_lt
  have hsecond := now.second_lt
  constructor
  · intro k hlow hhigh
    interval_cases k
    · exact hsmall _ (Nat.mod_lt _ (by decide))
    all_goals exact hsmall _ (by omega)
  · change UInt8.ofNat now.month ≠ 0x55
    generalize now.month = month at hmonth hmonth'
    interval_cases month <;> decide

/-- Fewer than nine bytes that do not end in a tail after four are no frame. -/
theorem verdict_unfinished {bytes : List UInt8} (hhead : bytes.head? = some 0xAA)
    (hshort : bytes.length < 9) (htail : bytes.getD 3 0 ≠ 0x55) :
    uart5Port.rule.verdict bytes = .wait := by
  cases bytes with
  | nil => cases hhead
  | cons byte rest =>
      obtain rfl : byte = 0xAA := by simpa using hhead
      have hnine : ¬ 0 + 8 < (RxBuffer.ofList (0xAA :: rest)).length := by
        rw [Nat.zero_add]
        exact Nat.not_lt.mpr (Nat.le_of_lt_succ hshort)
      have hfour : ¬ (RxBuffer.ofList (0xAA :: rest)).bytes (0 + 3) = plantSoftpackTail := htail
      simp only [Port.rule, uart5Port, hnine, hfour, false_and, and_false, if_false, ne_eq,
        not_true_eq_false]

theorem framed_bytes (command : Command) : uart5Port.rule.Framed command.bytes := by
  cases hcommand : commandBytes command with
  | some pair =>
      obtain ⟨cmd, value⟩ := pair
      obtain ⟨-, -, htime⟩ := commandBytes_ne hcommand
      rw [bytes_of_commandBytes hcommand]
      refine .of_take (fun more => ?_) (fun k hk => ?_)
      · simp [Port.rule, uart5Port, RxBuffer.ofList, htime]
      · simp only [List.length_cons, List.length_nil] at hk
        interval_cases k <;> simp [Port.rule, uart5Port, RxBuffer.ofList]
  | none =>
      cases command with
      | timestamp now =>
          have hmonth := (timestampFrame_small now).2
          rw [bytes_timestamp]
          refine .of_take (fun more => ?_) (fun k hk => ?_)
          · simp [timestampFrame, Port.rule, uart5Port, RxBuffer.ofList]
          · rcases Nat.eq_zero_or_pos k with rfl | hpos
            · exact uart5Port.rule.verdict_nil
            have hhead : ((timestampFrame now).take k).head? = some 0xAA := by
              rw [List.head?_take, if_neg (by omega)]
              rfl
            have hshort : ((timestampFrame now).take k).length < 9 :=
              lt_of_le_of_lt (List.length_take_le k _) hk
            apply verdict_unfinished hhead hshort
            rw [List.getD_eq_getElem?_getD, List.getElem?_take]
            split
            · exact hmonth
            · decide
      | autoSeek | pump | fillLight | emergency | plantType => cases hcommand

/-- The handler carries out a command frame wherever it stands in memory. -/
theorem plantSoftDataProc_bytes (command : Command) (data : Memory) (g : Globals)
    (hdata : (List.range command.bytes.length).map data = command.bytes) :
    plantSoftDataProc data command.bytes.length g = effect command g := by
  cases hcommand : commandBytes command with
  | some pair =>
      obtain ⟨cmd, value⟩ := pair
      obtain ⟨hcmd, hvalue, htime⟩ := commandBytes_ne hcommand
      rw [bytes_of_commandBytes hcommand] at hdata ⊢
      have h0 : data 0 = 0xAA := data_eq_of_map_range hdata (k := 0) (by simp)
      have h1 : data 1 = cmd := data_eq_of_map_range hdata (k := 1) (by simp)
      have h2 : data 2 = value := data_eq_of_map_range hdata (k := 2) (by simp)
      have h3 : data 3 = 0x55 := data_eq_of_map_range hdata (k := 3) (by simp)
      change [0, 1, 2].foldl (plantSoftStep data) g = _
      simp only [List.foldl_cons, List.foldl_nil]
      rw [plantSoftStep_of_ne_head (h2 ▸ hvalue), plantSoftStep_of_ne_head (h1 ▸ hcmd)]
      simp [plantSoftStep, h0, h1, h2, h3, htime, plantSoftCommand_eq_effect hcommand]
  | none =>
      cases command with
      | timestamp now =>
          rw [bytes_timestamp] at hdata ⊢
          obtain ⟨hsmall, hmonth⟩ := timestampFrame_small now
          have hbyte : ∀ k < 9, data k = (timestampFrame now).getD k 0 := fun k hk => by
            rw [data_eq_of_map_range hdata (by simpa [timestampFrame] using hk),
              List.getD_eq_getElem?_getD, List.getElem?_eq_getElem, Option.getD_some]
          have hquiet : ∀ k, 1 ≤ k → k < 8 → ∀ g, plantSoftStep data g k = g := by
            intro k hlow hhigh g
            apply plantSoftStep_of_ne_head
            rw [hbyte k (by omega)]
            rcases Nat.lt_or_ge k 2 with hone | htwo
            · obtain rfl : k = 1 := by omega
              change (0x60 : UInt8) ≠ 0xAA
              decide
            · exact UInt8.ne_of_lt (hsmall k htwo hhigh)
          change [0, 1, 2, 3, 4, 5, 6, 7].foldl (plantSoftStep data) g = _
          simp only [List.foldl_cons, List.foldl_nil]
          rw [hquiet 7 (by omega) (by omega), hquiet 6 (by omega) (by omega),
            hquiet 5 (by omega) (by omega), hquiet 4 (by omega) (by omega),
            hquiet 3 (by omega) (by omega), hquiet 2 (by omega) (by omega),
            hquiet 1 (by omega) (by omega)]
          have hmonth' : UInt8.ofNat now.month ≠ 0x55 := hmonth
          simp [plantSoftStep, hmonth', hbyte, timestampFrame, effect]
      | autoSeek | pump | fillLight | emergency | plantType => cases hcommand

/-! ## The stream -/

theorem length_command_le (command : Command) : command.bytes.length ≤ 9 := by
  cases hcommand : commandBytes command with
  | some pair => rw [bytes_of_commandBytes hcommand]; simp
  | none =>
      cases command with
      | timestamp now => rw [bytes_timestamp]; simp [timestampFrame]
      | autoSeek | pump | fillLight | emergency | plantType => cases hcommand

/-- However a sequence of commands is cut into reads, receiving it applies the
effect of each command once, in order, and leaves the parse buffer empty. The
memory of the buffer may hold anything at the start. -/
theorem uart5_applies_commands (commands : List Command) (chunks : List (List UInt8))
    (memory : Memory) (g : Globals)
    (hstream : chunks.flatten = (commands.map Command.bytes).flatten)
    (hchunks : ∀ chunk ∈ chunks, 1 ≤ chunk.length ∧ chunk.length ≤ 392) :
    let out := chunks.foldl uart5RxEntry (⟨memory, 0⟩, g)
    out.2 = commands.foldl (fun g command => effect command g) g ∧ out.1.length = 0 := by
  have hroom : ∀ chunk ∈ chunks, chunk.length + 9 ≤ uartMaxLen + 1 := by
    intro chunk hmem
    have hle := (hchunks chunk hmem).2
    have hmax : uartMaxLen = 400 := rfl
    omega
  obtain ⟨hlength, hglobals⟩ := uart5Port.foldl_rxEntry_encoded plantSoftDataProc
    Command.bytes effect (fun command _ => framed_bytes command)
    (fun command _ data g hdata => plantSoftDataProc_bytes command data g hdata)
    (fun command _ => length_command_le command) chunks memory g hroom hstream
  exact ⟨hglobals, hlength⟩

/-- The emergency stop and the manual mode, cut in the middle of the first. -/
theorem uart5_applies_stop_manual :
    let out := [[0xAA, 0x40, 0x01], [0x55, 0xAA, 0x10, 0x01, 0x55]].foldl uart5RxEntry
      (⟨fun _ => 0, 0⟩, {})
    out.2 = [Command.emergency true, .autoSeek false].foldl (fun g command => effect command g) {} ∧
      out.1.length = 0 :=
  uart5_applies_commands [.emergency true, .autoSeek false]
    [[0xAA, 0x40, 0x01], [0x55, 0xAA, 0x10, 0x01, 0x55]] (fun _ => 0) {}
    (by decide) (by decide)

end PlantAssistant.Link
