import PlantAssistant.Firmware.Usart6

/-! # Which alarms are heard

An announcement disarms its alarm, so that two of them have a tick between them
that armed it again. The obstacle alarm holds the chain also while it waits.
-/

namespace PlantAssistant.Voice

open Transition PlantAssistant.Firmware VoiceAlarms

variable {F : Type} [CFloat F]

/-- The tick with `input` announces `voice`, after the ticks of `before`. -/
def Announces (before : List (VoiceInput F)) (input : VoiceInput F) (voice : Voice) : Prop :=
  voice ∈ (((voiceSystem F).run before).checkVioce input).2

theorem voiceSystem_run_concat (before : List (VoiceInput F)) (input : VoiceInput F) :
    (voiceSystem F).run (before ++ [input]) = (((voiceSystem F).run before).checkVioce input).1 :=
  System.run_concat _ before input

/-- Ticks that do not arm a disarmed alarm leave it disarmed. -/
theorem flag_runFrom {voice : Voice} {between : List (VoiceInput F)} {s : VoiceAlarms}
    (hdisarmed : s.flag voice = 0) (hkept : ∀ input ∈ between, ¬ input.Rearms voice) :
    ((voiceSystem F).runFrom s between).flag voice = 0 := by
  induction between generalizing s with
  | nil => exact hdisarmed
  | cons input between ih =>
      refine ih ?_ fun later hlater => hkept later (List.mem_cons_of_mem _ hlater)
      change (s.checkVioce input).1.flag voice = 0
      rw [flag_checkVioce, if_neg (hkept input List.mem_cons_self), hdisarmed]
      simp

/-- The wait loses at most one in a tick. -/
theorem le_obsvoiceWaittime_runFrom (s : VoiceAlarms) (between : List (VoiceInput F)) :
    s.obsvoiceWaittime ≤
      ((voiceSystem F).runFrom s between).obsvoiceWaittime + between.length := by
  induction between generalizing s with
  | nil => exact le_rfl
  | cons input between ih =>
      have hlater := ih (s.checkVioce input).1
      have htick : s.obsvoiceWaittime ≤ (s.checkVioce input).1.obsvoiceWaittime + 1 := by
        by_cases hsent : Voice.obs ∈ (s.checkVioce input).2
        · have hwaited := (of_mem_checkVioce hsent).2.2 rfl
          omega
        · rw [obsvoiceWaittime_checkVioce, if_neg hsent]
          omega
      rw [List.length_cons]
      change _ ≤ ((voiceSystem F).runFrom (s.checkVioce input).1 between).obsvoiceWaittime + _
      omega

theorem flag_le_one :
    (voiceSystem F).Invariant fun s => ∀ voice, s.flag voice ≤ 1 where
  init voice := by cases voice <;> exact le_rfl
  step s input hflags voice := by
    change (s.checkVioce input).1.flag voice ≤ 1
    rw [flag_checkVioce]
    have hflag := hflags voice
    split_ifs <;> omega

theorem not_rearms_of_active [OrderedCFloat F] {input : VoiceInput F} {voice : Voice}
    (hactive : input.Active voice) : ¬ input.Rearms voice := by
  cases voice with
  | soil =>
      intro hrearms
      cases hactive.symm.trans hrearms
  | air => exact OrderedCFloat.not_lt_of_le (by norm_num) hactive
  | humi => exact OrderedCFloat.not_lt_of_le (by norm_num) hactive
  | obs => exact not_le_of_gt hactive.1

/-- An announcement leaves its alarm disarmed. -/
theorem Announces.disarms [OrderedCFloat F] {before : List (VoiceInput F)} {input : VoiceInput F}
    {voice : Voice} (hsent : Announces before input voice) :
    ((voiceSystem F).run (before ++ [input])).flag voice = 0 := by
  have hactive := (of_mem_checkVioce hsent).1
  have hflag := (flag_le_one (F := F)).run before voice
  unfold Announces at hsent
  rw [voiceSystem_run_concat, flag_checkVioce, if_neg (not_rearms_of_active hactive),
    if_pos hsent]
  omega

/-- A tick sends at most one command. Between two announcements of an alarm there
is a tick that arms it again, and those of the obstacle alarm are 800 ticks apart. -/
theorem alarms_do_not_repeat (F : Type) [CFloat F] [OrderedCFloat F] :
    (∀ (before : List (VoiceInput F)) (input : VoiceInput F),
      (((voiceSystem F).run before).checkVioce input).2.length ≤ 1) ∧
    ∀ (before : List (VoiceInput F)) (first : VoiceInput F) (between : List (VoiceInput F))
      (second : VoiceInput F) (voice : Voice),
      Announces before first voice → Announces (before ++ [first] ++ between) second voice →
      (∃ input ∈ between, input.Rearms voice) ∧ (voice = .obs → 800 ≤ between.length + 1) := by
  refine ⟨fun before input => length_checkVioce_le input _, ?_⟩
  intro before first between second voice hfirst hsecond
  have hdisarmed := hfirst.disarms
  unfold Announces at hfirst hsecond
  rw [System.run_append] at hsecond
  obtain ⟨-, harmed, hwaited⟩ := of_mem_checkVioce hsecond
  constructor
  · by_contra hnone
    push Not at hnone
    exact harmed (flag_runFrom hdisarmed hnone)
  · rintro rfl
    have hbegun : ((voiceSystem F).run (before ++ [first])).obsvoiceWaittime = 800 := by
      rw [voiceSystem_run_concat, obsvoiceWaittime_checkVioce, if_pos hfirst]
    have hdrop := le_obsvoiceWaittime_runFrom ((voiceSystem F).run (before ++ [first])) between
    have hleft := hwaited rfl
    omega

/-- A way that is free for eight seconds. -/
def freeWay : List (VoiceInput ℚ) := List.replicate 799 ⟨500, 0, 0, 50⟩

/-- Bad air, fresh air, bad air again; an obstacle, a free way, an obstacle again. -/
theorem alarms_do_not_repeat_air :
    (((voiceSystem ℚ).run []).checkVioce (⟨0, 9, 0, 50⟩ : VoiceInput ℚ)).2.length ≤ 1 ∧
      ((∃ input ∈ [(⟨0, 7, 0, 50⟩ : VoiceInput ℚ)], input.Rearms .air) ∧
        (Voice.air = .obs → 800 ≤ 1 + 1)) ∧
      (∃ input ∈ freeWay, input.Rearms .obs) ∧ (Voice.obs = .obs → 800 ≤ freeWay.length + 1) :=
  ⟨(alarms_do_not_repeat ℚ).1 [] _,
    (alarms_do_not_repeat ℚ).2 [] ⟨0, 9, 0, 50⟩ [⟨0, 7, 0, 50⟩] ⟨0, 12, 0, 50⟩ .air
      (by unfold Announces; decide +kernel) (by unfold Announces; decide +kernel),
    (alarms_do_not_repeat ℚ).2 [] ⟨100, 0, 0, 50⟩ freeWay ⟨100, 0, 0, 50⟩ .obs
      (by unfold Announces; decide +kernel) (by unfold Announces; decide +kernel)⟩

/-! ## An alarm that waits -/

/-- Some command is sent when an alarm other than the obstacle's is active and armed. -/
def Heard (s : VoiceAlarms) (input : VoiceInput F) : Prop :=
  ∀ voice, voice ≠ .obs → input.Active voice → s.flag voice ≠ 0 → (s.checkVioce input).2 ≠ []

/-- The obstacle alarm does not wait beyond this tick, armed and before an
obstacle, while another alarm is active and armed. -/
def Unmasked (s : VoiceAlarms) (input : VoiceInput F) : Prop :=
  (∃ voice, voice ≠ .obs ∧ input.Active voice ∧ s.flag voice ≠ 0) →
    input.Active .obs → s.flag .obs ≠ 0 → s.obsvoiceWaittime ≤ 1

theorem heard_iff (s : VoiceAlarms) (input : VoiceInput F) :
    Heard s input ↔ Unmasked s input := by
  constructor
  · rintro hheard ⟨voice, hother, hactive, harmed⟩ hobs hflag
    have hsent := hheard voice hother hactive harmed
    rw [ne_eq, checkVioce_eq_nil_iff, if_pos ⟨hobs, hflag⟩] at hsent
    omega
  · intro hunmasked voice hother hactive harmed
    rw [ne_eq, checkVioce_eq_nil_iff]
    split
    next hheld =>
      have hwaited := hunmasked ⟨voice, hother, hactive, harmed⟩ hheld.1 hheld.2
      omega
    next => exact fun hnone => harmed (hnone voice hactive)

/-- Alarms are heard throughout exactly the runs that never meet an obstacle again
while its alarm waits and another one is due. -/
theorem alarms_heard_iff (inputs : List (VoiceInput F)) :
    (voiceSystem F).Along Heard inputs ↔ (voiceSystem F).Along Unmasked inputs := by
  have hsame : (Heard : VoiceAlarms → VoiceInput F → Prop) = Unmasked := by
    funext s input
    exact propext (heard_iff s input)
  rw [hsame]

/-- An obstacle is announced, gone and back, while the air is bad. -/
theorem alarms_heard_not_air :
    ¬ (voiceSystem ℚ).Along Heard [⟨100, 0, 0, 50⟩, ⟨500, 0, 0, 50⟩, ⟨100, 9, 0, 50⟩] := by
  rintro ⟨-, -, hheard, -⟩
  exact hheard .air (by decide) (by decide +kernel) (by decide +kernel) (by decide +kernel)

end PlantAssistant.Voice
