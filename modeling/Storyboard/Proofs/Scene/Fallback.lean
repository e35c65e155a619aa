import Storyboard.Proofs.Scene.Loading
import Storyboard.Proofs.Scene.Structure
import Storyboard.Proofs.Script.Comment

/-!
# Segments that fall back

A segment whose structure cannot be resolved plays on one that stands in for it. A reference that
fails is among the warnings of the compiled scene and has a comment in its script, also where it
leads to an entry of the pool that is no name. The first entry of the pool is resolved without a
reference, for the segments before the first reference. Nothing is reported if this fails, so that a
scene may fall back without a warning.

## Main definitions

* `Scene.Resolves`: what resolving gives for a segment.
* `Scene.IsSilent`: the first segment falls back, and no reference fails.

## Main statements

* `Scene.exists_resolves`: each segment plays on what resolving gives for it.
* `Scene.warnings_eq_nil_iff`: there are no warnings where all references are resolved.
* `Scene.fallback_silent_iff`: which scenes fall back without a warning.
-/

namespace Storyboard.Scene

variable {scene : Scene} {n m : Nat} {reference : String} {cause : Structure.Error}
  {result other : Except Structure.Error Identifier}

/-! ## Resolving -/

/-- What resolving gives for the segment at `n`: the structure of the last reference up to it, or
else that of the first entry of the pool. -/
inductive Resolves (scene : Scene) (n : Nat) (result : Except Structure.Error Identifier) : Prop
  | reference {m : Nat} {reference : String}
      (force : InForce scene.openingReference? n m reference)
      (resolved : Structure.resolve scene.structures reference = result)
  | entry {name : String} (free : ∀ m ≤ n, scene.openingReference? m = none)
      (first : scene.structures.head? = some name) (named : Structure.ofName name = result)

theorem Resolves.unique (h : scene.Resolves n result) (h' : scene.Resolves n other) :
    result = other := by
  cases h with
  | reference force resolved =>
    cases h' with
    | reference force' resolved' =>
      obtain ⟨-, rfl⟩ := force.unique force'
      exact resolved.symm.trans resolved'
    | entry free => exact absurd force.refers (by simp [free _ force.le])
  | entry free first named =>
    cases h' with
    | reference force => exact absurd force.refers (by simp [free _ force.le])
    | entry _ first' named' =>
      obtain rfl := Option.some.inj (first.symm.trans first')
      exact named.symm.trans named'

section Compiled

variable {language : String} {compiled : CompiledScene}
  (compiles : scene.compile language = .ok compiled)
include compiles

theorem exists_resolves (pool : scene.structures ≠ []) {s : CompiledSegment}
    (here : compiled.segments[n]? = some s) :
    ∃ result, scene.Resolves n result ∧ s.template = result.toOption.getD Structure.fallback := by
  have template := congrArg (·[n]?) (templates_of_compile compiles)
  simp only [List.getElem?_map, here, Option.map_some] at template
  obtain ⟨entry, assigned, same⟩ := Option.map_eq_some_iff.1 template.symm
  have cases := assigned_cases assigned
  rw [referenceAt_normalSegments, same] at cases
  rcases cases with ⟨m, reference, force, resolved⟩ | ⟨free, seeded⟩
  · exact ⟨_, .reference force rfl, resolved⟩
  · obtain ⟨name, names, pool⟩ := List.exists_cons_of_ne_nil pool
    have first : scene.structures.head? = some name := by rw [pool, List.head?_cons]
    refine ⟨_, .entry free first rfl, ?_⟩
    rw [seeded, Structure.seed_eq, first, Option.bind_some]

/-! ## Warnings -/

/-- A reference that fails is reported, in the warnings and in the script. -/
theorem reported_of_error (refers : scene.openingReference? m = some reference)
    (failed : Structure.resolve scene.structures reference = .error cause) :
    (m, cause) ∈ compiled.warnings ∧
      Within (CompiledScene.warningComment (m, cause) ++ "\n") compiled.script := by
  have mem := (mem_warnings_iff compiles m cause).2 ⟨reference, refers, failed⟩
  exact ⟨mem, CompiledScene.within_script_of_warning mem⟩

theorem warnings_eq_nil_iff :
    compiled.warnings = [] ↔ ∀ m reference, scene.openingReference? m = some reference →
      ∃ id, Structure.resolve scene.structures reference = .ok id := by
  rw [List.eq_nil_iff_forall_not_mem]
  constructor
  · intro none m reference refers
    cases result : Structure.resolve scene.structures reference with
    | ok id => exact ⟨id, rfl⟩
    | error cause => exact absurd (reported_of_error compiles refers result).1 (none _)
  · rintro all ⟨m, cause⟩ mem
    obtain ⟨reference, refers, failed⟩ := (mem_warnings_iff compiles m cause).1 mem
    obtain ⟨id, resolved⟩ := all m reference refers
    cases failed.symm.trans resolved

end Compiled

/-! ## Silence -/

/-- The first segment falls back on its own, and no reference of the scene fails. -/
structure IsSilent (scene : Scene) : Prop where
  entry : ∃ name cause, scene.structures.head? = some name ∧ Structure.ofName name = .error cause
  first : scene.openingReference? 0 = none
  resolved : ∀ m reference, scene.openingReference? m = some reference →
    ∃ id, Structure.resolve scene.structures reference = .ok id

/-- A scene with a valid identifier and a pool compiles. Resolving gives each segment one result:
that of the last segment up to it that refers to a structure when it opens, or else that of the
first entry of the pool. The segment plays on it, or on `ponder:debug/scene_1` if resolving fails.
If a reference has failed, it is among the warnings, with the index of its segment, and the script
has a comment on it. So a segment falls back in a scene without warnings if and only if the first
entry of the pool is no name, the first segment does not refer to a structure, and no reference
fails. -/
theorem fallback_silent_iff (language : String) {id : Identifier}
    (valid : scene.identifier = .ok id) (pool : scene.structures ≠ []) :
    ∃ compiled, scene.compile language = .ok compiled ∧
      (∀ n s, compiled.segments[n]? = some s → ∃ result,
        (∀ other, scene.Resolves n other ↔ other = result) ∧
        s.template = result.toOption.getD ⟨"ponder", "debug/scene_1"⟩) ∧
      (∀ n cause, scene.Resolves n (.error cause) → (∃ m ≤ n, scene.openingReference? m ≠ none) →
        ∃ m ≤ n, (m, cause) ∈ compiled.warnings ∧
          Within (CompiledScene.warningComment (m, cause) ++ "\n") compiled.script) ∧
      ((∃ n s cause, compiled.segments[n]? = some s ∧ scene.Resolves n (.error cause)) ∧
        compiled.warnings = [] ↔ scene.IsSilent) := by
  obtain ⟨compiled, compiles⟩ := exists_compile language valid
  refine ⟨compiled, compiles, ?result, ?reported, ?silent⟩
  case result =>
    intro n s here
    obtain ⟨result, resolves, template⟩ := exists_resolves compiles pool here
    refine ⟨result, fun other => ⟨fun h => h.unique resolves, ?_⟩, template⟩
    rintro rfl
    exact resolves
  case reported =>
    rintro n cause (⟨force, failed⟩ | ⟨free, -, -⟩) ⟨m, upto, refers⟩
    · exact ⟨_, force.le, reported_of_error compiles force.refers failed⟩
    · exact absurd (free m upto) refers
  case silent =>
    rw [warnings_eq_nil_iff compiles]
    constructor
    · rintro ⟨⟨n, s, cause, -, ⟨force, failed⟩ | ⟨free, first, failed⟩⟩, resolved⟩
      · obtain ⟨id, fine⟩ := resolved _ _ force.refers
        cases failed.symm.trans fine
      -- There is no reference up to the segment, so none in the first one either.
      · exact ⟨⟨_, cause, first, failed⟩, free 0 (Nat.zero_le n), resolved⟩
    · rintro ⟨⟨name, cause, first, failed⟩, free, resolved⟩
      obtain ⟨s, more, segments⟩ :=
        List.exists_cons_of_ne_nil (segments_ne_nil_of_compile compiles)
      have free : ∀ m ≤ 0, scene.openingReference? m = none := by
        intro m upto
        rw [Nat.le_zero.1 upto]
        exact free
      exact ⟨⟨0, s, cause, by rw [segments, List.getElem?_cons_zero], .entry free first failed⟩,
        resolved⟩

/-- What is wrong with a name that has a capital letter. -/
def capital : Structure.Error :=
  .badName "demo:Base" (.invalidChar 'B' .path "demo:Base")

/-- A pool with an entry that is no name, which the second segment refers to by its number and the
third one keeps. -/
def carried : Scene :=
  { id := "demo:lid"
    items := ["demo:lid"]
    structures := ["demo:lid", "demo:Base"]
    segments := some
      [{ steps := [.ofOp (.showStructure none none none)] },
       { steps := [.ofOp (.showStructure (some "2") none none)] },
       {}] }

theorem fallback_silent_iff_carried :
    ∃ compiled, carried.compile "en_us" = .ok compiled ∧
      (∃ s, compiled.segments[2]? = some s ∧ s.template = ⟨"ponder", "debug/scene_1"⟩) ∧
      (∃ m ≤ 2, (m, capital) ∈ compiled.warnings ∧
        Within (CompiledScene.warningComment (m, capital) ++ "\n") compiled.script) ∧
      ¬carried.IsSilent := by
  have valid : carried.identifier = .ok ⟨"demo", "lid"⟩ := by decide
  have pool : carried.structures ≠ [] := by decide
  have refers : carried.openingReference? 1 = some "2" := rfl
  have force : InForce carried.openingReference? 2 1 "2" := by
    refine ⟨by decide, refers, fun k after upto => ?_⟩
    obtain rfl : k = 2 := by omega
    rfl
  have resolves : carried.Resolves 2 (.error capital) := .reference force rfl
  obtain ⟨compiled, compiles, results, reported, silent⟩ := fallback_silent_iff "en_us" valid pool
  have report := reported 2 capital resolves ⟨1, by decide, by simp [refers]⟩
  have three : compiled.segments.length = 3 := by
    have lengths := congrArg List.length (templates_of_compile compiles)
    rwa [List.length_map, List.length_map, length_assigned] at lengths
  have here := List.getElem?_eq_getElem (by omega : 2 < compiled.segments.length)
  refine ⟨compiled, compiles, ⟨_, here, ?_⟩, report, fun quiet => ?_⟩
  · obtain ⟨result, only, template⟩ := results 2 _ here
    obtain rfl := (only _).1 resolves
    exact template
  · obtain ⟨m, -, warned, -⟩ := report
    simp [(silent.2 quiet).2] at warned

/-- A pool whose first entry is no name. -/
def baseless : Scene :=
  { id := "demo:lid"
    items := ["demo:lid"]
    structures := ["demo:Base"]
    steps := [.ofOp (.showStructure none none none)] }

/-- The only segment falls back, and nothing says so. -/
theorem fallback_silent_baseless :
    ∃ compiled, baseless.compile "en_us" = .ok compiled ∧ baseless.structures ≠ [] ∧
      baseless.Resolves 0 (.error capital) ∧
      compiled.segments.map (·.template) = [⟨"ponder", "debug/scene_1"⟩] ∧
      compiled.warnings = [] := by
  have free : ∀ m ≤ 0, baseless.openingReference? m = none := by
    intro m upto
    rw [Nat.le_zero.1 upto]
    rfl
  exact ⟨_, rfl, by decide, .entry free rfl rfl, rfl, rfl⟩

end Storyboard.Scene
