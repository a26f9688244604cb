import PlantAssistant.Firmware.CFloat
import PlantAssistant.Transition.Run

/-! # Voice alarms

Every tick announces at most one of four alarms, the obstacle first. An alarm is
disarmed by its announcement and armed again when its cause is gone; the obstacle
alarm also has to wait.
-/

namespace PlantAssistant.Firmware

/-- The argument of `ASR_VOICE`. -/
inductive Voice where
  | soil
  | air
  | humi
  | obs
deriving DecidableEq, Repr

/-- `SOIL_VOICE`, `AIR_VOICE`, `HUMI_VOICE` and `OBS_VOICE`. -/
def Voice.code : Voice → UInt8
  | .soil => 0x02
  | .air => 0x03
  | .humi => 0x05
  | .obs => 0x06

/-- `voice_pack`, as `ASR_VOICE` sends it. -/
def asrVoice (voiceChoose : Voice) : List UInt8 := [0xa1, 0xb1, voiceChoose.code, 0xc1]

/-- What `Check_vioce` reads. -/
structure VoiceInput (F : Type) where
  distance : ℕ
  oledMQ135ppm : F
  soilAlarmFlag : ℕ
  myHumi : F

/-- The statics of `Check_vioce`. -/
structure VoiceAlarms where
  obsvoiceFlag : ℕ := 1
  obsvoiceWaittime : ℕ := 0
  airvoiceFlag : ℕ := 1
  soilvoiceFlag : ℕ := 1
  humivoiceFlag : ℕ := 1
deriving DecidableEq, Repr

namespace VoiceAlarms

variable {F : Type} [CFloat F]

def wait (s : VoiceAlarms) : VoiceAlarms :=
  if 0 < s.obsvoiceWaittime then { s with obsvoiceWaittime := s.obsvoiceWaittime - 1 } else s

/-- The priority chain: the statics after it, and the alarms announced. -/
def speak (input : VoiceInput F) (s : VoiceAlarms) : VoiceAlarms × List Voice :=
  if input.distance < 400 ∧ 0 < input.distance ∧ s.obsvoiceFlag ≠ 0 then
    if s.obsvoiceWaittime = 0 then
      ({ s with obsvoiceWaittime := 800, obsvoiceFlag := s.obsvoiceFlag - 1 }, [.obs])
    else (s, [])
  else if CFloat.lit 9 ≤ input.oledMQ135ppm ∧ s.airvoiceFlag ≠ 0 then
    ({ s with airvoiceFlag := s.airvoiceFlag - 1 }, [.air])
  else if input.soilAlarmFlag = 1 ∧ s.soilvoiceFlag ≠ 0 then
    ({ s with soilvoiceFlag := s.soilvoiceFlag - 1 }, [.soil])
  else if CFloat.lit 70 ≤ input.myHumi ∧ s.humivoiceFlag ≠ 0 then
    ({ s with humivoiceFlag := s.humivoiceFlag - 1 }, [.humi])
  else (s, [])

def rearm (input : VoiceInput F) (s : VoiceAlarms) : VoiceAlarms :=
  let s := if 400 ≤ input.distance then { s with obsvoiceFlag := 1 } else s
  let s := if input.oledMQ135ppm < CFloat.lit 7.4 then { s with airvoiceFlag := 1 } else s
  let s := if input.soilAlarmFlag = 0 then { s with soilvoiceFlag := 1 } else s
  if input.myHumi < CFloat.lit 65 then { s with humivoiceFlag := 1 } else s

/-- `Check_vioce`. -/
def checkVioce (input : VoiceInput F) (s : VoiceAlarms) : VoiceAlarms × List Voice :=
  let spoken := s.wait.speak input
  (spoken.1.rearm input, spoken.2)

/-- `obsvoice_flag`, `airvoice_flag`, `soilvoice_flag` or `humivoice_flag`. -/
def flag (s : VoiceAlarms) : Voice → ℕ
  | .soil => s.soilvoiceFlag
  | .air => s.airvoiceFlag
  | .humi => s.humivoiceFlag
  | .obs => s.obsvoiceFlag

end VoiceAlarms

section Alarms

variable {F : Type} [CFloat F]

/-- The condition of an alarm. -/
def VoiceInput.Active (input : VoiceInput F) : Voice → Prop
  | .soil => input.soilAlarmFlag = 1
  | .air => CFloat.lit 9 ≤ input.oledMQ135ppm
  | .humi => CFloat.lit 70 ≤ input.myHumi
  | .obs => input.distance < 400 ∧ 0 < input.distance

/-- The condition under which it is armed again. -/
def VoiceInput.Rearms (input : VoiceInput F) : Voice → Prop
  | .soil => input.soilAlarmFlag = 0
  | .air => input.oledMQ135ppm < CFloat.lit 7.4
  | .humi => input.myHumi < CFloat.lit 65
  | .obs => 400 ≤ input.distance

instance (input : VoiceInput F) : ∀ voice, Decidable (input.Active voice)
  | .soil => inferInstanceAs (Decidable (input.soilAlarmFlag = 1))
  | .air => inferInstanceAs (Decidable (CFloat.lit 9 ≤ input.oledMQ135ppm))
  | .humi => inferInstanceAs (Decidable (CFloat.lit 70 ≤ input.myHumi))
  | .obs => inferInstanceAs (Decidable (input.distance < 400 ∧ 0 < input.distance))

instance (input : VoiceInput F) : ∀ voice, Decidable (input.Rearms voice)
  | .soil => inferInstanceAs (Decidable (input.soilAlarmFlag = 0))
  | .air => inferInstanceAs (Decidable (input.oledMQ135ppm < CFloat.lit 7.4))
  | .humi => inferInstanceAs (Decidable (input.myHumi < CFloat.lit 65))
  | .obs => inferInstanceAs (Decidable (400 ≤ input.distance))

open Transition in
/-- The alarms over any sequence of ticks. -/
def voiceSystem (F : Type) [CFloat F] : System VoiceAlarms (VoiceInput F) where
  init := {}
  step s input := (s.checkVioce input).1

end Alarms

/-! ## One tick -/

namespace VoiceAlarms

variable {F : Type} [CFloat F]

@[simp] theorem wait_obsvoiceWaittime (s : VoiceAlarms) :
    s.wait.obsvoiceWaittime = s.obsvoiceWaittime - 1 := by
  unfold wait
  split
  · rfl
  · next hzero =>
      rw [Nat.eq_zero_of_not_pos hzero]

@[simp] theorem wait_flag (s : VoiceAlarms) (voice : Voice) : s.wait.flag voice = s.flag voice := by
  unfold wait
  split
  · cases voice <;> rfl
  · rfl

/-- What the chain does: an alarm that is announced was active and armed, loses
one from its flag, and nothing else changes, except that the obstacle alarm
begins to wait. -/
structure Speaks (input : VoiceInput F) (s next : VoiceAlarms) (voice : Voice) : Prop where
  active : input.Active voice
  armed : s.flag voice ≠ 0
  waited : voice = .obs → s.obsvoiceWaittime = 0
  flag : ∀ other, next.flag other = if other = voice then s.flag other - 1 else s.flag other
  waittime : next.obsvoiceWaittime = if voice = .obs then 800 else s.obsvoiceWaittime

theorem speak_cases (input : VoiceInput F) (s : VoiceAlarms) :
    s.speak input = (s, []) ∨ ∃ voice, (s.speak input).2 = [voice] ∧
      Speaks input s (s.speak input).1 voice := by
  unfold speak
  split
  next hobs =>
    split
    next hwaited =>
      refine .inr ⟨.obs, rfl, ⟨hobs.1, hobs.2.1⟩, hobs.2.2, fun _ => hwaited, ?_, rfl⟩
      intro other
      cases other <;> rfl
    next => exact .inl rfl
  next =>
    split
    next hair =>
      refine .inr ⟨.air, rfl, hair.1, hair.2, nofun, ?_, rfl⟩
      intro other
      cases other <;> rfl
    next =>
      split
      next hsoil =>
        refine .inr ⟨.soil, rfl, hsoil.1, hsoil.2, nofun, ?_, rfl⟩
        intro other
        cases other <;> rfl
      next =>
        split
        next hhumi =>
          refine .inr ⟨.humi, rfl, hhumi.1, hhumi.2, nofun, ?_, rfl⟩
          intro other
          cases other <;> rfl
        next => exact .inl rfl

/-- The chain is silent before an obstacle whose alarm waits, and when no alarm is
active and armed. -/
theorem speak_eq_nil_iff (input : VoiceInput F) (s : VoiceAlarms) :
    (s.speak input).2 = [] ↔
      if input.Active .obs ∧ s.flag .obs ≠ 0 then s.obsvoiceWaittime ≠ 0
      else ∀ voice, input.Active voice → s.flag voice = 0 := by
  unfold speak
  by_cases hobs : input.distance < 400 ∧ 0 < input.distance ∧ s.obsvoiceFlag ≠ 0
  · have hheld : input.Active .obs ∧ s.flag .obs ≠ 0 := ⟨⟨hobs.1, hobs.2.1⟩, hobs.2.2⟩
    rw [if_pos hobs, if_pos hheld]
    split
    next hwaited => simp [hwaited]
    next hwaits => simp [hwaits]
  · have hfree : ¬ (input.Active .obs ∧ s.flag .obs ≠ 0) :=
      fun hheld => hobs ⟨hheld.1.1, hheld.1.2, hheld.2⟩
    rw [if_neg hobs, if_neg hfree]
    constructor
    · intro hsilent voice hactive
      by_contra harmed
      split_ifs at hsilent with hair hsoil hhumi
      cases voice with
      | soil => exact hsoil ⟨hactive, harmed⟩
      | air => exact hair ⟨hactive, harmed⟩
      | humi => exact hhumi ⟨hactive, harmed⟩
      | obs => exact hfree ⟨hactive, harmed⟩
    · intro hnone
      rw [if_neg fun hair => hair.2 (hnone .air hair.1),
        if_neg fun hsoil => hsoil.2 (hnone .soil hsoil.1),
        if_neg fun hhumi => hhumi.2 (hnone .humi hhumi.1)]

theorem flag_rearm (input : VoiceInput F) (s : VoiceAlarms) (voice : Voice) :
    (s.rearm input).flag voice = if input.Rearms voice then 1 else s.flag voice := by
  unfold rearm
  by_cases hrearms : input.Rearms voice
  · rw [if_pos hrearms]
    cases voice <;> unfold VoiceInput.Rearms at hrearms <;>
      simp only [hrearms, if_true] <;> split_ifs <;> rfl
  · rw [if_neg hrearms]
    cases voice <;> unfold VoiceInput.Rearms at hrearms <;>
      simp only [hrearms, if_false] <;> split_ifs <;> rfl

@[simp] theorem obsvoiceWaittime_rearm (input : VoiceInput F) (s : VoiceAlarms) :
    (s.rearm input).obsvoiceWaittime = s.obsvoiceWaittime := by
  unfold rearm
  dsimp only
  split_ifs <;> rfl

/-- An announced alarm was active and armed, and the obstacle alarm is announced
when at most this tick was left to wait. -/
theorem of_mem_checkVioce {input : VoiceInput F} {s : VoiceAlarms} {voice : Voice}
    (hsent : voice ∈ (s.checkVioce input).2) :
    input.Active voice ∧ s.flag voice ≠ 0 ∧ (voice = .obs → s.obsvoiceWaittime ≤ 1) := by
  unfold checkVioce at hsent
  rcases speak_cases input s.wait with hsilent | ⟨spoken, hspoken, hspeaks⟩
  · rw [hsilent] at hsent
    cases hsent
  · rw [hspoken, List.mem_singleton] at hsent
    subst hsent
    refine ⟨hspeaks.active, by simpa using hspeaks.armed, ?_⟩
    intro hobs
    have hwaited := hspeaks.waited hobs
    rw [wait_obsvoiceWaittime] at hwaited
    omega

theorem flag_checkVioce (input : VoiceInput F) (s : VoiceAlarms) (voice : Voice) :
    (s.checkVioce input).1.flag voice =
      if input.Rearms voice then 1
      else if voice ∈ (s.checkVioce input).2 then s.flag voice - 1 else s.flag voice := by
  unfold checkVioce
  rw [flag_rearm]
  rcases speak_cases input s.wait with hsilent | ⟨spoken, hspoken, hspeaks⟩
  · simp [hsilent]
  · rw [hspoken, hspeaks.flag, wait_flag]
    simp

theorem obsvoiceWaittime_checkVioce (input : VoiceInput F) (s : VoiceAlarms) :
    (s.checkVioce input).1.obsvoiceWaittime =
      if .obs ∈ (s.checkVioce input).2 then 800 else s.obsvoiceWaittime - 1 := by
  unfold checkVioce
  rw [obsvoiceWaittime_rearm]
  rcases speak_cases input s.wait with hsilent | ⟨spoken, hspoken, hspeaks⟩
  · simp [hsilent]
  · rw [hspoken, hspeaks.waittime, wait_obsvoiceWaittime]
    simp [eq_comm]

theorem checkVioce_eq_nil_iff (input : VoiceInput F) (s : VoiceAlarms) :
    (s.checkVioce input).2 = [] ↔
      if input.Active .obs ∧ s.flag .obs ≠ 0 then s.obsvoiceWaittime - 1 ≠ 0
      else ∀ voice, input.Active voice → s.flag voice = 0 := by
  unfold checkVioce
  rw [speak_eq_nil_iff]
  simp only [wait_flag, wait_obsvoiceWaittime]

theorem length_checkVioce_le (input : VoiceInput F) (s : VoiceAlarms) :
    (s.checkVioce input).2.length ≤ 1 := by
  unfold checkVioce
  rcases speak_cases input s.wait with hsilent | ⟨spoken, hspoken, -⟩
  · simp [hsilent]
  · simp [hspoken]

end VoiceAlarms

end PlantAssistant.Firmware
