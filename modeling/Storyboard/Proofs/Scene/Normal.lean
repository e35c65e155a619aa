import Mathlib.Tactic
import Storyboard.Compile

/-!
# The normal form keeps the meaning

A scene in normal form is its own normal form, and compiles to what it was made of. Only openings
are added on the way: segments stay in their order, with their names, titles and steps.

## Main definitions

* `Segment.IsOpened`: the segment shows its structure first.
* `Scene.sourceSegments`: the segments of a scene before any is opened.
* `Scene.IsNormal`: the scene has segments only, each of which shows its structure first.

## Main statements

* `Scene.isNormal_normal`, `Scene.IsNormal.normal_eq`: normal forms are normal and stay as they are.
* `Scene.compile_normal`: the normal form compiles to what the scene compiles to.
* `Scene.normal_form`: all of this, with what is added to each segment.
-/

namespace Storyboard

theorem Step.isReveal_iff {step : Step} :
    step.isReveal ↔ ∃ template height scale, step.op = .showStructure template height scale := by
  unfold isReveal
  cases step.op <;> simp

/-! ## Segments -/

namespace Segment

variable {segment : Segment}

/-- The first step that is not blank, if there is one, shows a structure. -/
def IsOpened (segment : Segment) : Prop :=
  ∀ step, segment.firstMeaningful? = some step → step.isReveal

theorem lacksReveal_iff : segment.lacksReveal ↔ ¬ segment.IsOpened := by
  unfold lacksReveal IsOpened
  cases segment.firstMeaningful? <;> simp

/-- A segment that shows its structure first is left alone. -/
theorem IsOpened.opened_eq (h : segment.IsOpened) : segment.opened = segment := by
  rw [opened, if_neg]
  exact fun lacks => lacksReveal_iff.1 lacks h

theorem isOpened_opened (segment : Segment) : segment.opened.IsOpened := by
  by_cases lacks : segment.lacksReveal
  · -- The opening is in front, and its first step is not blank.
    rw [opened, if_pos lacks]
    intro step first
    obtain rfl : Step.ofOp (.showStructure none none none) = step := Option.some.inj first
    rfl
  · have is : segment.IsOpened := by simpa [lacksReveal_iff] using lacks
    rwa [is.opened_eq]

/-- A segment stays as it is, or gets an opening in front of its steps. -/
theorem opened_eq_or (segment : Segment) :
    segment.opened = segment ∨
      segment.opened = { segment with steps := opening ++ segment.steps } := by
  rw [opened]
  split
  · exact .inr rfl
  · exact .inl rfl

end Segment

/-! ## Scenes -/

namespace Scene

variable {scene : Scene}

/-- The list of segments where there is a non-empty one, or else the parts of the flat list. -/
def sourceSegments (scene : Scene) : List Segment :=
  if scene.isSegmented then scene.segments.getD [] else Step.split scene.steps

theorem sourceSegments_ne_nil (scene : Scene) : scene.sourceSegments ≠ [] := by
  unfold sourceSegments isSegmented
  rcases scene.segments with _ | (_ | ⟨first, more⟩) <;> simp [Step.split]

theorem normalSegments_eq_map (scene : Scene) :
    scene.normalSegments = scene.sourceSegments.map Segment.opened := by
  unfold normalSegments sourceSegments isSegmented
  rcases scene.segments with _ | (_ | ⟨first, more⟩) <;> rfl

theorem normalSegments_ne_nil (scene : Scene) : scene.normalSegments ≠ [] := by
  rw [normalSegments_eq_map]
  simpa using scene.sourceSegments_ne_nil

/-- The scene has no flat list but segments, each of which shows its structure first. -/
structure IsNormal (scene : Scene) : Prop where
  steps : scene.steps = []
  isSegmented : scene.isSegmented
  opened : ∀ segment ∈ scene.segments.getD [], segment.IsOpened

theorem isSegmented_iff :
    scene.isSegmented ↔ ∃ segments, scene.segments = some segments ∧ segments ≠ [] := by
  unfold isSegmented
  rcases scene.segments with _ | (_ | ⟨first, more⟩) <;> simp

theorem isNormal_normal (scene : Scene) : scene.normal.IsNormal where
  steps := rfl
  isSegmented := isSegmented_iff.2 ⟨_, rfl, scene.normalSegments_ne_nil⟩
  opened := by
    intro segment mem
    have mem : segment ∈ scene.normalSegments := mem
    rw [normalSegments_eq_map] at mem
    obtain ⟨source, -, rfl⟩ := List.mem_map.1 mem
    exact source.isOpened_opened

/-- A scene in normal form is its own normal form. -/
theorem IsNormal.normal_eq (h : scene.IsNormal) : scene.normal = scene := by
  obtain ⟨segments, stored, -⟩ := isSegmented_iff.1 h.isSegmented
  have source : scene.sourceSegments = segments := by
    rw [sourceSegments, if_pos h.isSegmented, stored, Option.getD_some]
  have opened : ∀ segment ∈ segments, segment.opened = segment := by
    intro segment mem
    refine (h.opened segment ?_).opened_eq
    rwa [stored]
  have same : scene.normalSegments = segments := by
    rw [normalSegments_eq_map, source]
    exact (List.map_congr_left opened).trans (List.map_id' segments)
  rw [normal, same, ← stored, ← h.steps]

theorem normalSegments_normal (scene : Scene) :
    scene.normal.normalSegments = scene.normalSegments :=
  Option.some.inj (congrArg Scene.segments scene.isNormal_normal.normal_eq)

/-- The normal form compiles to what the scene compiles to: of its steps, only the segments of the
normal form are looked at. -/
theorem compile_normal (language : String) (scene : Scene) :
    scene.normal.compile language = scene.compile language := by
  rw [compile, compile, normalSegments_normal]
  rfl

/-- The normal form of a scene has at least one segment. Each of them is the segment of the scene in
its place, as it was or behind a structure without a reference and a wait of twenty ticks; where it
has a step that is not blank, the first one shows a structure. Taking the normal form again changes
nothing, and neither does compiling it instead of the scene, in whatever language. -/
theorem normal_form (scene : Scene) :
    scene.normalSegments ≠ [] ∧
      List.Forall₂
        (fun source segment => segment = source ∨ segment = { source with
          steps := ⟨false, .showStructure none none none⟩ :: ⟨false, .idle (some 20)⟩ ::
            source.steps })
        scene.sourceSegments scene.normalSegments ∧
      (∀ segment ∈ scene.normalSegments, ∀ step, segment.steps.find? (!·.isBlank) = some step →
        ∃ template height scale, step.op = .showStructure template height scale) ∧
      scene.normal.normal = scene.normal ∧
      scene.normal.normalSegments = scene.normalSegments ∧
      ∀ language, scene.normal.compile language = scene.compile language := by
  refine ⟨scene.normalSegments_ne_nil, ?_, ?_, scene.isNormal_normal.normal_eq,
    scene.normalSegments_normal, fun language => compile_normal language scene⟩
  · rw [normalSegments_eq_map, List.forall₂_map_right_iff, List.forall₂_same]
    intro source _
    exact source.opened_eq_or
  · intro segment mem step first
    exact Step.isReveal_iff.1 (scene.isNormal_normal.opened segment mem step first)

example :
    ({ steps := [.blank, .ofOp .keyframe, ⟨true, .nextScene⟩, .blank] } : Scene).normalSegments =
      [{ steps := opening ++ [.blank, .ofOp .keyframe] }, { steps := [.blank] }] := by
  decide

end Scene

end Storyboard
