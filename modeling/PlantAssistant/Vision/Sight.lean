import Mathlib.Data.List.Basic
import PlantAssistant.Vision.LeafState

/-! # What the script sees in a frame

The worst of the leaves detected with some certainty, and the middle of the
largest bright region. Divisions of areas are exact.
-/

namespace PlantAssistant.Vision

/-! ## Leaves -/

/-- What the detector reports of a leaf. -/
structure Detection where
  classId : LeafState
  score : ℚ
  w : ℤ
  h : ℤ
deriving DecidableEq

def minScoreNormal : ℚ := 0.65
def minScoreAbnormal : ℚ := 0.60
def minBoxAreaRatio : ℚ := 0.03

/-- `STATE_SEVERITY`. -/
def stateSeverity : LeafState → ℤ
  | .normal => 0
  | .yellow => 1
  | .rot => 2
  | .none => -1

theorem stateSeverity_injective : Function.Injective stateSeverity := by
  intro state state' hsame
  cases state <;> cases state' <;> first | rfl | exact absurd hsame (by decide)

section Frame

variable (imgW imgH : ℕ)

def isValidDetection (obj : Detection) : Bool :=
  let areaRatio : ℚ := (obj.w * obj.h : ℤ) / (imgW * imgH : ℕ)
  if areaRatio < minBoxAreaRatio then false
  else if obj.classId = .normal then minScoreNormal ≤ obj.score
  else minScoreAbnormal ≤ obj.score

def filterObjects (objs : List Detection) : List Detection :=
  objs.filter (isValidDetection imgW imgH)

/-- The order of the tuples of `sort_key`. -/
def SortsBefore (obj obj' : Detection) : Prop :=
  stateSeverity obj.classId < stateSeverity obj'.classId ∨
    stateSeverity obj.classId = stateSeverity obj'.classId ∧ obj.score < obj'.score

instance (obj obj' : Detection) : Decidable (SortsBefore obj obj') :=
  inferInstanceAs (Decidable (_ ∨ _))

/-- Python's `max` with this key; of equal keys the first one counts. -/
def bestOf (best : Detection) (objs : List Detection) : Detection :=
  objs.foldl (fun best obj => if SortsBefore best obj then obj else best) best

/-- `summarize_objects`. -/
def summarizeObjects : List Detection → Option LeafState
  | [] => none
  | obj :: objs => some (bestOf obj objs).classId

theorem bestOf_mem (best : Detection) (objs : List Detection) :
    bestOf best objs ∈ best :: objs := by
  induction objs generalizing best with
  | nil => exact List.mem_singleton_self best
  | cons obj objs ih =>
      rw [bestOf, List.foldl_cons, ← bestOf]
      split
      · exact List.mem_cons_of_mem _ (ih obj)
      · rcases List.mem_cons.mp (ih best) with hbest | hrest
        · rw [hbest]
          exact List.mem_cons_self
        · exact List.mem_cons_of_mem _ (List.mem_cons_of_mem _ hrest)

theorem severity_le_bestOf (best : Detection) (objs : List Detection) :
    ∀ obj ∈ best :: objs, stateSeverity obj.classId ≤ stateSeverity (bestOf best objs).classId := by
  induction objs generalizing best with
  | nil =>
      intro obj hobj
      rw [List.mem_singleton.mp hobj]
      rfl
  | cons next objs ih =>
      rw [bestOf, List.foldl_cons, ← bestOf]
      have hlarger : stateSeverity best.classId ≤
            stateSeverity (if SortsBefore best next then next else best).classId ∧
          stateSeverity next.classId ≤
            stateSeverity (if SortsBefore best next then next else best).classId := by
        split
        next hbefore => exact ⟨hbefore.elim le_of_lt fun hequal => hequal.1.le, le_rfl⟩
        next hafter => exact ⟨le_rfl, not_lt.mp fun hlt => hafter (.inl hlt)⟩
      have hhead := ih (if SortsBefore best next then next else best) _ List.mem_cons_self
      intro obj hobj
      rcases List.mem_cons.mp hobj with rfl | hrest
      · exact hlarger.1.trans hhead
      · rcases List.mem_cons.mp hrest with rfl | htail
        · exact hlarger.2.trans hhead
        · exact ih _ obj (List.mem_cons_of_mem _ htail)

/-- The state of a frame is the worst one detected. -/
theorem summarizeObjects_eq_some {objs : List Detection} {state : LeafState} :
    summarizeObjects objs = some state ↔
      (∃ obj ∈ objs, obj.classId = state) ∧
        ∀ obj ∈ objs, stateSeverity obj.classId ≤ stateSeverity state := by
  cases objs with
  | nil => simp [summarizeObjects]
  | cons first objs =>
      rw [summarizeObjects, Option.some.injEq]
      constructor
      · rintro rfl
        exact ⟨⟨_, bestOf_mem first objs, rfl⟩, severity_le_bestOf first objs⟩
      · rintro ⟨⟨obj, hobj, rfl⟩, hmost⟩
        have hle := hmost _ (bestOf_mem first objs)
        have hge := severity_le_bestOf first objs obj hobj
        exact stateSeverity_injective (le_antisymm hle hge)

end Frame

/-! ## Light -/

/-- A contour by its area and its bounding rectangle, which lies in the image. -/
structure Region (width height : ℕ) where
  area : ℚ
  x : ℕ
  y : ℕ
  w : ℕ
  h : ℕ
  hright : x + w ≤ width
  hbottom : y + h ≤ height

def lightMinAreaRatio : ℚ := 0.08

section Light

variable {width height : ℕ}

def Region.center (region : Region width height) : ℕ × ℕ :=
  (region.x + region.w / 2, region.y + region.h / 2)

theorem Region.center_le (region : Region width height) :
    region.center.1 ≤ width ∧ region.center.2 ≤ height := by
  obtain ⟨_, x, y, w, h, hright, hbottom⟩ := region
  dsimp only [Region.center]
  omega

/-- The loop body of `find_light_center` with `best` and `best_area`. -/
def lightStep (best : Option (Region width height) × ℚ) (cnt : Region width height) :
    Option (Region width height) × ℚ :=
  if cnt.area ≤ best.2 then best
  else
    let areaRatio : ℚ := cnt.area / (width * height : ℕ)
    if areaRatio < lightMinAreaRatio then best else (some cnt, cnt.area)

/-- `find_light_center`, on the contours that are left of the image. An exception
anywhere in it is caught and means that nothing is found. -/
def findLightCenter (raised : Bool) (contours : List (Region width height)) :
    Option (Region width height) :=
  if raised then none else (contours.foldl lightStep (none, 0)).1

/-- A region that is large enough. -/
def Large (region : Region width height) : Prop :=
  lightMinAreaRatio ≤ region.area / (width * height : ℕ)

theorem Large.area_pos {region : Region width height} (hlarge : Large region) :
    0 < region.area := by
  by_contra hnot
  have hratio : region.area / (width * height : ℕ) ≤ 0 :=
    div_nonpos_of_nonpos_of_nonneg (not_lt.mp hnot) (Nat.cast_nonneg _)
  exact absurd (hlarge.trans hratio) (by norm_num [lightMinAreaRatio])

/-- What the loop has found among the contours it has seen. -/
structure Brightest (seen : List (Region width height)) (best : Option (Region width height) × ℚ) :
    Prop where
  nonneg : 0 ≤ best.2
  found : ∀ region ∈ best.1, region ∈ seen ∧ Large region ∧ region.area = best.2
  largest : ∀ region ∈ seen, Large region → region.area ≤ best.2
  missing : best.1 = none → best.2 = 0

theorem Brightest.step {seen : List (Region width height)}
    {best : Option (Region width height) × ℚ} (hbest : Brightest seen best)
    (cnt : Region width height) : Brightest (seen ++ [cnt]) (lightStep best cnt) := by
  obtain ⟨hnonneg, hfound, hlargest, hmissing⟩ := hbest
  have hkept (hcnt : Large cnt → cnt.area ≤ best.2) : Brightest (seen ++ [cnt]) best := by
    refine ⟨hnonneg, fun region hregion => ?_, fun region hregion hlarge => ?_, hmissing⟩
    · obtain ⟨hmem, hrest⟩ := hfound region hregion
      exact ⟨List.mem_append_left _ hmem, hrest⟩
    · rcases List.mem_append.mp hregion with hold | hnew
      · exact hlargest region hold hlarge
      · obtain rfl := List.mem_singleton.mp hnew
        exact hcnt hlarge
  unfold lightStep
  split
  next hsmaller => exact hkept fun _ => hsmaller
  next hlarger =>
    rw [not_le] at hlarger
    dsimp only
    split
    next hsmall => exact hkept fun hlarge => absurd hsmall (not_lt.mpr hlarge)
    next hlarge =>
      refine ⟨hnonneg.trans hlarger.le, fun region hregion => ?_, fun region hregion hregion' => ?_,
        nofun⟩
      · cases hregion
        exact ⟨List.mem_append_right _ List.mem_cons_self, not_lt.mp hlarge, rfl⟩
      · rcases List.mem_append.mp hregion with hold | hnew
        · exact (hlargest region hold hregion').trans hlarger.le
        · rw [List.mem_singleton.mp hnew]

theorem brightest_findLightCenter (contours : List (Region width height)) :
    Brightest contours (contours.foldl lightStep (none, 0)) := by
  induction contours using List.reverseRecOn with
  | nil => exact ⟨le_refl 0, nofun, nofun, fun _ => rfl⟩
  | append_singleton seen cnt ih =>
      rw [List.foldl_concat]
      exact ih.step cnt

/-- A region is found if one is large enough and no exception is raised, and then no
such region is larger. -/
theorem findLightCenter_spec (raised : Bool) (contours : List (Region width height)) :
    (∀ region ∈ findLightCenter raised contours, raised = false ∧ region ∈ contours ∧
        Large region ∧ ∀ other ∈ contours, Large other → other.area ≤ region.area) ∧
      (findLightCenter raised contours = none ↔
        raised = true ∨ ∀ region ∈ contours, ¬ Large region) := by
  obtain ⟨-, hfound, hlargest, hmissing⟩ := brightest_findLightCenter contours
  cases raised with
  | true =>
      refine ⟨fun region hregion => ?_, iff_of_true rfl (.inl rfl)⟩
      cases hregion
  | false =>
      refine ⟨fun region hregion => ?_, fun hnone => ?_, fun hsmall => ?_⟩
      · obtain ⟨hmem, hlarge, harea⟩ := hfound region hregion
        exact ⟨rfl, hmem, hlarge, fun other hother hother' => harea ▸ hlargest other hother hother'⟩
      · right
        intro region hregion hlarge
        have hle := hlargest region hregion hlarge
        rw [hmissing hnone] at hle
        exact absurd hlarge.area_pos (not_lt.mpr hle)
      · by_contra hsome
        obtain ⟨region, hregion⟩ := Option.ne_none_iff_exists'.mp hsome
        obtain ⟨hmem, hlarge, -⟩ := hfound region hregion
        exact hsmall.resolve_left Bool.false_ne_true region hmem hlarge

end Light

end PlantAssistant.Vision
