import PlantAssistant.Control.Schedule
import PlantAssistant.Light.FillLight

/-! # The orders for relay and lamp

The flags for the water and for the light and the plant type are set by frames
only. The sport mode, which has all shared variables in its hands, leaves them
alone, and a frame does to them what does not depend on the other variables.
-/

namespace PlantAssistant.Control

open PlantAssistant.Firmware PlantAssistant.Link PlantAssistant.Motion

/-- Relay, lamp and soil thresholds see no difference between the two. -/
structure SameOrders (g g' : Globals) : Prop where
  waterFlag : g'.waterFlag = g.waterFlag
  lightOnOffFlag : g'.lightOnOffFlag = g.lightOnOffFlag
  soilPlantType : g'.soilPlantType = g.soilPlantType

theorem SameOrders.refl (g : Globals) : SameOrders g g := ⟨rfl, rfl, rfl⟩

/-! ## The sport mode -/

section Sport

variable {F : Type} [CFloat F] {τ : Type} {view : Globals → τ}

/-- What depends on none of the variables that the sport mode sets. -/
def SportKeeps (view : Globals → τ) : Prop :=
  ∀ (g : Globals) (plantleafInsflag modestateLight starttimeCnt : ℕ),
    view
      { g with
        plantleafInsflag := plantleafInsflag
        modestateLight := modestateLight
        starttimeCnt := starttimeCnt } = view g

theorem SportKeeps.findingLightCase (hkeeps : SportKeeps view) (s : Car F) :
    view s.findingLightCase.toGlobals = view s.toGlobals := by
  unfold Car.findingLightCase
  split
  case h_2 =>
    dsimp only
    split_ifs
    all_goals first
      | rfl
      | exact hkeeps s.toGlobals _ _ _
  all_goals first
    | rfl
    | exact hkeeps s.toGlobals _ _ _

theorem SportKeeps.findingLight (hkeeps : SportKeeps view) (s : Car F) :
    view s.findingLight.toGlobals = view s.toGlobals := by
  obtain ⟨-, hlight⟩ | ⟨-, hlight⟩ | ⟨-, -, hlight⟩ := findingLight_guards s <;> rw [hlight]
  · exact hkeeps.findingLightCase s
  · rfl

theorem SportKeeps.plantleafIns (hkeeps : SportKeeps view) (s : Car F) :
    view s.plantleafIns.toGlobals = view s.toGlobals := by
  unfold Car.plantleafIns
  dsimp only
  split_ifs
  all_goals first
    | rfl
    | exact hkeeps s.toGlobals _ _ _

theorem SportKeeps.maixCamSport (hkeeps : SportKeeps view) (s : Car F) :
    view s.maixCamSport.toGlobals = view s.toGlobals := by
  have hcount (s : Car F) : view s.countStarttime.toGlobals = view s.toGlobals :=
    hkeeps s.toGlobals _ _ _
  have hfirst : view
      (if s.maixModeFlag = 1 then
        (if 300 ≤ s.countStarttime.starttimeCnt then s.countStarttime.plantleafIns
          else s.countStarttime).findingObs
      else s).toGlobals = view s.toGlobals := by
    split
    · rw [(keepsGlobals_findingObs _).toGlobals]
      split
      · rw [hkeeps.plantleafIns, hcount]
      · exact hcount s
    · rfl
  unfold Car.maixCamSport
  dsimp only
  refine Eq.trans ?_ hfirst
  generalize (if s.maixModeFlag = 1 then _ else s : Car F) = t
  split
  · have hsearch : view
        (if 300 ≤ t.countStarttime.starttimeCnt then t.countStarttime.findingLight
          else t.countStarttime).toGlobals = view t.toGlobals := by
      split
      · rw [hkeeps.findingLight, hcount]
      · exact hcount t
    generalize (if 300 ≤ t.countStarttime.starttimeCnt then _ else _ : Car F) = u at hsearch ⊢
    split
    · rw [(keepsGlobals_findingObs u).toGlobals, hsearch]
    · exact hsearch
  · rfl

theorem SportKeeps.tick (hkeeps : SportKeeps view) (s : Car F) :
    view (tick s).toGlobals = view s.toGlobals :=
  hkeeps.maixCamSport (cleared s)

theorem sameOrders_tick (s : Car F) : SameOrders s.toGlobals (Motion.tick s).toGlobals := by
  have hkeeps : SportKeeps fun g => (g.waterFlag, g.lightOnOffFlag, g.soilPlantType) :=
    fun _ _ _ _ => rfl
  have hsame := hkeeps.tick s
  simp only [Prod.mk.injEq] at hsame
  exact ⟨hsame.1, hsame.2.1, hsame.2.2⟩

end Sport

/-! ## Frames -/

/-- What makes the same change to the orders of equal states. -/
def ActsOnOrders (f : Globals → Globals) : Prop :=
  ∀ g g', SameOrders g g' → SameOrders (f g) (f g')

theorem ActsOnOrders.ite {f : Globals → Globals} (hf : ActsOnOrders f) (c : Prop) [Decidable c] :
    ActsOnOrders fun g => if c then f g else g := by
  intro g g' hsame
  dsimp only
  split
  · exact hf g g' hsame
  · exact hsame

theorem ActsOnOrders.comp {f f' : Globals → Globals} (hf : ActsOnOrders f)
    (hf' : ActsOnOrders f') : ActsOnOrders fun g => f' (f g) :=
  fun g g' hsame => hf' _ _ (hf g g' hsame)

theorem ActsOnOrders.foldl {f : Globals → ℕ → Globals} (hf : ∀ i, ActsOnOrders fun g => f g i)
    (indices : List ℕ) : ActsOnOrders fun g => indices.foldl f g := by
  intro g g' hsame
  induction indices generalizing g g' with
  | nil => exact hsame
  | cons i rest ih => exact ih _ _ (hf i g g' hsame)

theorem actsOnOrders_plantSoftCommand (cmd value : UInt8) :
    ActsOnOrders (plantSoftCommand cmd value) := by
  have hset (waterFlag lightOnOffFlag soilPlantType : ℕ → ℕ) (f : Globals → Globals)
      (hf : ∀ g, (f g).waterFlag = waterFlag g.waterFlag ∧
        (f g).lightOnOffFlag = lightOnOffFlag g.lightOnOffFlag ∧
        (f g).soilPlantType = soilPlantType g.soilPlantType) : ActsOnOrders f := by
    intro g g' hsame
    obtain ⟨hwater, hlight, htype⟩ := hf g
    obtain ⟨hwater', hlight', htype'⟩ := hf g'
    exact ⟨by rw [hwater, hwater', hsame.1], by rw [hlight, hlight', hsame.2],
      by rw [htype, htype', hsame.3]⟩
  have hmode : ActsOnOrders (plantSoftMaixMode value) := by
    refine hset id id id _ fun g => ?_
    unfold plantSoftMaixMode
    dsimp only
    split_ifs <;> exact ⟨rfl, rfl, rfl⟩
  have hwater : ActsOnOrders (plantSoftWaterCtrl value) := by
    intro g g' hsame
    unfold plantSoftWaterCtrl
    dsimp only
    split_ifs
    · exact ⟨rfl, hsame.2, hsame.3⟩
    · exact ⟨rfl, hsame.2, hsame.3⟩
    · exact ⟨rfl, hsame.2, hsame.3⟩
    · exact hsame
  have hlight : ActsOnOrders (plantSoftLightCtrl value) := by
    intro g g' hsame
    unfold plantSoftLightCtrl
    dsimp only
    split_ifs
    · exact ⟨hsame.1, rfl, hsame.3⟩
    · exact ⟨hsame.1, rfl, hsame.3⟩
    · exact ⟨hsame.1, rfl, hsame.3⟩
    · exact hsame
  have hsystem : ActsOnOrders (plantSoftSystemCtr value) := by
    refine hset id id id _ fun g => ?_
    unfold plantSoftSystemCtr
    dsimp only
    split_ifs <;> exact ⟨rfl, rfl, rfl⟩
  have htype : ActsOnOrders (plantSoftPlantType value) := by
    intro g g' hsame
    unfold plantSoftPlantType
    dsimp only
    split_ifs
    all_goals first
      | exact ⟨hsame.1, hsame.2, rfl⟩
      | exact hsame
  exact ((((hmode.ite _).comp (hwater.ite _)).comp (hlight.ite _)).comp (hsystem.ite _)).comp
    (htype.ite _)

theorem actsOnOrders_plantSoftDataProc (data : Memory) (size : ℕ) :
    ActsOnOrders (plantSoftDataProc data size) := by
  refine .foldl (fun i => ?_) (List.range (size - 1))
  have htime : ActsOnOrders fun g : Globals =>
      { g with
        year := data (i + 2)
        month := data (i + 3)
        day := data (i + 4)
        hour := data (i + 5)
        minute := data (i + 6)
        second := data (i + 7) } :=
    fun g g' hsame => ⟨hsame.1, hsame.2, hsame.3⟩
  exact ((actsOnOrders_plantSoftCommand _ _).ite _).comp (htime.ite _)

theorem actsOnOrders_maixcamDataProc (data : Memory) (size : ℕ) :
    ActsOnOrders (maixcamDataProc data size) := by
  refine .foldl (fun i => ?_) (List.range (size - 1))
  have hlocation : ActsOnOrders (maixcamLocation data i) := by
    intro g g' hsame
    unfold maixcamLocation
    split
    · exact ⟨hsame.1, rfl, hsame.3⟩
    · exact hsame
  have hstate : ActsOnOrders (maixcamState data i) := by
    intro g g' hsame
    unfold maixcamState
    split
    · exact ⟨hsame.1, hsame.2, hsame.3⟩
    · exact hsame
  have htype : ActsOnOrders (maixcamType data i) := by
    intro g g' hsame
    unfold maixcamType
    dsimp only
    split_ifs
    all_goals first
      | exact ⟨hsame.1, hsame.2, rfl⟩
      | exact hsame
  have hled : ActsOnOrders (maixcamLed data i) := by
    intro g g' hsame
    unfold maixcamLed
    split
    · exact ⟨hsame.1, rfl, hsame.3⟩
    · exact hsame
  exact ((hlocation.comp hstate).comp htype).comp hled

end PlantAssistant.Control
