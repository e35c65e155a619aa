import Mathlib.Tactic
import Storyboard.Compile

/-!
# What compiling gives

Compiling a scene fails for its identifier only. All else is put together from the segments of its
normal form, in their order, and from the structures that they are assigned.

## Main definitions

* `isLone`: whether the segments of a scene go by its path alone.
* `compiledSegment`: one segment with what it is assigned.
* `Scene.assigned`: the structures of the segments of a scene.
* `Scene.compiledAs`: the compiled scene under a given identifier.

## Main statements

* `Scene.compile_eq_map`, `Scene.compile_eq_ok_iff`: the compiled scene in terms of its parts.
* `Scene.warnings_of_compile`, `Scene.ids_of_compile`, `Scene.segments_of_compile`,
  `Scene.templates_of_compile`: the parts.
* `compileAll_eq_ok_iff`: scenes compile one by one.
-/

namespace Storyboard

/-- There is one segment, and it has no name. -/
def isLone : List Segment → Bool
  | [segment] => segment.id.isNone
  | _ => false

/-- The segment at an index of a scene with the given path and title. -/
def compiledSegment (language path title : String) (lone : Bool) (index : Nat) (segment : Segment)
    (template : Identifier) : CompiledSegment where
  id := segmentId path lone index segment
  title := titleText language segment.title title
  template := template
  segment := segment

theorem Scene.compile_eq_map (language : String) (scene : Scene) :
    scene.compile language = scene.identifier.map fun id =>
      let title := titleText language scene.title id.path
      let segments := scene.normalSegments
      let assigned := assignStructures scene.structures (Structure.seed scene.structures) segments
      { id
        triggers := scene.items
        title
        segments := (segments.zip assigned).zipIdx.map fun entry =>
          compiledSegment language id.path title (isLone segments) entry.2 entry.1.1 entry.1.2.1
        warnings := assigned.zipIdx.filterMap fun entry => entry.1.2.map (entry.2, ·) } := by
  unfold compile
  cases scene.identifier <;> rfl

/-! ## Lists of parts -/

section Zip

variable {α β γ : Type} {as : List α} {bs : List β}

theorem map_zipIdx_zip_left (le : as.length ≤ bs.length) (f : α × Nat → γ) :
    (as.zip bs).zipIdx.map (fun entry => f (entry.1.1, entry.2)) = as.zipIdx.map f := by
  conv_rhs => rw [← List.map_fst_zip le, List.zipIdx_map, List.map_map]
  rfl

theorem map_zipIdx_zip_right (le : bs.length ≤ as.length) (f : β → γ) :
    (as.zip bs).zipIdx.map (fun entry => f entry.1.2) = bs.map f := by
  conv_rhs => rw [← List.map_snd_zip le, ← List.zipIdx_map_fst 0 (as.zip bs)]
  rw [List.map_map, List.map_map]
  rfl

end Zip

@[simp] theorem length_assignStructures (pool : List String) (current : Identifier)
    (segments : List Segment) :
    (assignStructures pool current segments).length = segments.length := by
  induction segments generalizing current with
  | nil => rfl
  | cons segment segments ih => simp [assignStructures, ih]

namespace Scene

variable {language : String} {scene : Scene} {id : Identifier} {compiled : CompiledScene}

/-- The structures that the segments of a scene are assigned. -/
def assigned (scene : Scene) : List (Identifier × Option Structure.Error) :=
  assignStructures scene.structures (Structure.seed scene.structures) scene.normalSegments

theorem length_assigned (scene : Scene) : scene.assigned.length = scene.normalSegments.length :=
  length_assignStructures _ _ _

/-- The scene with its parts put together, under a given identifier. -/
def compiledAs (language : String) (scene : Scene) (id : Identifier) : CompiledScene where
  id := id
  triggers := scene.items
  title := titleText language scene.title id.path
  segments := (scene.normalSegments.zip scene.assigned).zipIdx.map fun entry =>
    compiledSegment language id.path (titleText language scene.title id.path)
      (isLone scene.normalSegments) entry.2 entry.1.1 entry.1.2.1
  warnings := scene.assigned.zipIdx.filterMap fun entry => entry.1.2.map (entry.2, ·)

theorem compile_eq_ok_iff :
    scene.compile language = .ok compiled ↔
      ∃ id, scene.identifier = .ok id ∧ scene.compiledAs language id = compiled := by
  rw [compile_eq_map]
  cases scene.identifier with
  | error cause => simp [Except.map]
  | ok id => simp [Except.map, compiledAs, assigned]

theorem exists_compile (language : String) (valid : scene.identifier = .ok id) :
    ∃ compiled, scene.compile language = .ok compiled :=
  ⟨_, compile_eq_ok_iff.2 ⟨id, valid, rfl⟩⟩

section Compiled

variable (compiles : scene.compile language = .ok compiled)
include compiles

theorem identifier_of_compile : scene.identifier = .ok compiled.id := by
  obtain ⟨id, valid, rfl⟩ := compile_eq_ok_iff.1 compiles
  exact valid

theorem warnings_of_compile :
    compiled.warnings = scene.assigned.zipIdx.filterMap fun entry =>
      entry.1.2.map (entry.2, ·) := by
  obtain ⟨id, -, rfl⟩ := compile_eq_ok_iff.1 compiles
  rfl

theorem ids_of_compile :
    compiled.segments.map (·.id) = scene.normalSegments.zipIdx.map fun entry =>
      segmentId compiled.id.path (isLone scene.normalSegments) entry.2 entry.1 := by
  obtain ⟨id, -, rfl⟩ := compile_eq_ok_iff.1 compiles
  rw [compiledAs, List.map_map]
  exact map_zipIdx_zip_left scene.length_assigned.ge
    fun entry => segmentId id.path (isLone scene.normalSegments) entry.2 entry.1

theorem segments_of_compile : compiled.segments.map (·.segment) = scene.normalSegments := by
  obtain ⟨id, -, rfl⟩ := compile_eq_ok_iff.1 compiles
  rw [compiledAs, List.map_map]
  exact (map_zipIdx_zip_left scene.length_assigned.ge Prod.fst).trans (List.zipIdx_map_fst 0 _)

theorem templates_of_compile :
    compiled.segments.map (·.template) = scene.assigned.map Prod.fst := by
  obtain ⟨id, -, rfl⟩ := compile_eq_ok_iff.1 compiles
  rw [compiledAs, List.map_map]
  exact map_zipIdx_zip_right scene.length_assigned.le Prod.fst

end Compiled

end Scene

/-! ## Lists of scenes -/

/-- Scenes compile when each of them does, those that no item shows apart. -/
theorem compileAll_eq_ok_iff {language : String} {scenes : List Scene}
    {compiled : List CompiledScene} :
    compileAll language scenes = .ok compiled ↔
      List.Forall₂ (fun scene c => scene.compile language = .ok c)
        (scenes.filter (!·.isInert)) compiled := by
  induction scenes generalizing compiled with
  | nil => simp [compileAll, eq_comm]
  | cons scene scenes ih =>
    rw [compileAll]
    cases inert : scene.isInert with
    | true => simp [inert, ih]
    | false =>
      rw [List.filter_cons_of_pos (by simp [inert]), List.forall₂_cons_left_iff]
      cases compiles : scene.compile language with
      | error cause => simp
      | ok c =>
        simp only [Bool.false_eq_true, if_false, ← ih]
        cases compileAll language scenes with
        | error cause => simp [Except.map]
        | ok more => simp [Except.map, eq_comm]

end Storyboard
