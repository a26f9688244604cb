import Mathlib.Data.List.Basic

/-! # The water relay and the buzzer

Both follow alarm flags. The buzzer's pin is low while it sounds.
-/

namespace PlantAssistant.Firmware

/-- `water_auto`, on the pin of the relay. -/
def waterAuto (mode agree : ℕ) (pin : Bool) : Bool :=
  let pin :=
    if agree = 1 then
      let pin := if mode = 1 then true else pin
      if mode = 0 ∨ mode = 2 then false else pin
    else pin
  if agree = 0 then false else pin

/-- The writes of `Buzzer_warm`. -/
def buzzerWarm (times : ℕ) : List Bool := (List.replicate times [false, true]).flatten

/-- The writes of `Buzzer_close`. -/
def buzzerClose : List Bool := [true]

/-- The writes of `Buzzer_open`, one pass of the buzzer thread. -/
def buzzerOpen (mq2AlarmFlag mq135AlarmFlag soilAlarmFlag dht11AlarmFlag : ℕ) : List Bool :=
  if mq2AlarmFlag ≠ 0 ∨ mq135AlarmFlag ≠ 0 ∨ soilAlarmFlag ≠ 0 ∨ dht11AlarmFlag ≠ 0 then
    buzzerWarm 10
  else buzzerClose

/-- With flags in their ranges the relay follows them, whatever it did before. -/
theorem waterAuto_eq {mode agree : ℕ} (hmode : mode ≤ 2) (hagree : agree ≤ 1) (pin : Bool) :
    waterAuto mode agree pin = decide (agree = 1 ∧ mode = 1) := by
  obtain rfl | rfl : agree = 0 ∨ agree = 1 := by omega
  · rfl
  · obtain rfl | rfl | rfl : mode = 0 ∨ mode = 1 ∨ mode = 2 := by omega
    all_goals rfl

end PlantAssistant.Firmware
