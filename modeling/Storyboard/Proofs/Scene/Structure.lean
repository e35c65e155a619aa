import Storyboard.Proofs.Call.Check
import Storyboard.Proofs.Compile
import Storyboard.Proofs.Outcome
import Storyboard.Proofs.Scene.Normal

/-!
# Structures of a scene

A segment that opens by showing a structure may refer to one. It plays on that structure, and so do
the segments after it up to the next one that refers to a structure. Before the first reference,
segments play on the first structure of the pool.

## Main definitions

* `Segment.openingReference?`: the structure that a segment refers to when it opens.
* `InForce`: the last reference up to a place.

## Main statements

* `Segment.reference?_opened`: an opening that is put in front hides what comes after it.
* `assigned_cases`: what each segment is assigned in a run over all segments.
* `Scene.structures_in_force`: the structures and the warnings of a compiled scene.
-/

namespace Storyboard

/-! ## References -/

/-- The structure that a segment refers to in its first step that is not blank. -/
def Segment.openingReference? (segment : Segment) : Option String :=
  match segment.steps.find? (!·.isBlank) with
  | some ⟨_, .showStructure template _ _⟩ => template
  | _ => none

namespace Segment

variable {segment : Segment}

theorem openingReference?_of_some {step : Step} (first : segment.firstMeaningful? = some step)
    {template : Option String} {height : Option Int32} {scale : Option Double}
    (shows : step.op = .showStructure template height scale) :
    segment.openingReference? = template := by
  obtain ⟨marked, op⟩ := step
  subst shows
  rw [firstMeaningful?] at first
  rw [openingReference?, first]

theorem openingReference?_of_not_reveal
    (other : ∀ step, segment.firstMeaningful? = some step → ¬step.isReveal) :
    segment.openingReference? = none := by
  unfold openingReference?
  split
  next first => exact absurd rfl (other _ first)
  next => rfl

/-- A segment that lacks an opening gets one without a reference, and this is the first structure
that it shows. -/
theorem reference?_opened_of_lacksReveal (lacks : segment.lacksReveal) :
    Structure.reference? segment.opened = none := by
  rw [opened, if_pos lacks]
  rfl

/-- Where a segment shows a structure first, this is the first structure that it shows. -/
theorem IsOpened.reference?_eq (is : segment.IsOpened) :
    Structure.reference? segment = segment.openingReference? := by
  cases first : segment.firstMeaningful? with
  | none =>
    have blank : ∀ step ∈ segment.steps, step.op = .blank := by
      simpa [firstMeaningful?, Step.isBlank_iff] using first
    rw [openingReference?_of_not_reveal (by simp [first]), Structure.reference?,
      List.findSome?_eq_none_iff.2]
    · rfl
    · intro step mem
      rw [blank step mem]
  | some step =>
    obtain ⟨template, height, scale, shows⟩ := Step.isReveal_iff.1 (is step first)
    rw [openingReference?_of_some first shows]
    obtain ⟨-, before, after, steps, blank⟩ := List.find?_eq_some_iff_append.1 first
    rw [Structure.reference?, steps, List.findSome?_append, List.findSome?_eq_none_iff.2]
    · simp [shows]
    · intro earlier mem
      have blank : earlier.op = .blank := Step.isBlank_iff.1 (by simpa using blank earlier mem)
      rw [blank]

theorem reference?_opened (segment : Segment) :
    Structure.reference? segment.opened = segment.openingReference? := by
  by_cases lacks : segment.lacksReveal
  · rw [reference?_opened_of_lacksReveal lacks, openingReference?_of_not_reveal]
    intro step first
    simpa [lacksReveal, first] using lacks
  · have is : segment.IsOpened := by simpa [lacksReveal_iff] using lacks
    rw [is.opened_eq, is.reference?_eq]

end Segment

/-! ## Runs -/

/-- Of the places up to `n`, the last one with a reference is `m`. -/
structure InForce (references : Nat → Option String) (n m : Nat) (reference : String) : Prop where
  le : m ≤ n
  refers : references m = some reference
  last : ∀ k, m < k → k ≤ n → references k = none

/-- There is at most one reference in force. -/
theorem InForce.unique {references : Nat → Option String} {n m m' : Nat} {reference other : String}
    (h : InForce references n m reference) (h' : InForce references n m' other) :
    m = m' ∧ reference = other := by
  have place : m = m' := by
    rcases Nat.lt_trichotomy m m' with lt | eq | gt
    · exact absurd h'.refers (by simp [h.last m' lt h'.le])
    · exact eq
    · exact absurd h.refers (by simp [h'.last m gt h.le])
  subst place
  exact ⟨rfl, Option.some.inj (h.refers.symm.trans h'.refers)⟩

namespace Structure

/-- The structure that a reference names, or the one that stands in for it. -/
def resolved (pool : List String) (reference : String) : Identifier :=
  (resolve pool reference).toOption.getD fallback

theorem advance_some_fst (pool : List String) (current : Identifier) (reference : String) :
    (advance pool current (some reference)).1 = resolved pool reference := by
  unfold advance resolved
  cases result : resolve pool reference <;> simp [result]

theorem advance_snd_eq_some_iff {pool : List String} {current : Identifier}
    {reference? : Option String} {cause : Error} :
    (advance pool current reference?).2 = some cause ↔
      ∃ reference, reference? = some reference ∧ resolve pool reference = .error cause := by
  cases reference? with
  | none => simp [advance]
  | some reference =>
    unfold advance
    cases result : resolve pool reference <;> simp [result]

theorem seed_eq (pool : List String) :
    seed pool = (pool.head?.bind fun name => (ofName name).toOption).getD fallback := by
  unfold seed
  cases pool with
  | nil => rfl
  | cons name pool => cases named : ofName name <;> simp [named]

end Structure

section Run

/-- The reference of the segment at a place. -/
def referenceAt (segments : List Segment) (n : Nat) : Option String :=
  segments[n]?.bind Structure.reference?

variable {pool : List String} {current : Identifier} {segment : Segment} {segments : List Segment}
  {n : Nat}

theorem InForce.cons {m : Nat} {reference : String}
    (h : InForce (referenceAt segments) n m reference) :
    InForce (referenceAt (segment :: segments)) (n + 1) (m + 1) reference := by
  refine ⟨Nat.succ_le_succ h.le, h.refers, ?_⟩
  rintro (_ | k) after upto
  · omega
  · exact h.last k (by omega) (by omega)

theorem inForce_first {reference : String} (refers : Structure.reference? segment = some reference)
    (later : ∀ m < n, referenceAt segments m = none) :
    InForce (referenceAt (segment :: segments)) n 0 reference := by
  refine ⟨Nat.zero_le n, refers, ?_⟩
  rintro (_ | k) after upto
  · omega
  · exact later k (by omega)

variable {entry : Identifier × Option Structure.Error}

/-- A run carries the structure of the last reference, and the one that it started with as long as
there is none. -/
theorem assigned_cases (here : (assignStructures pool current segments)[n]? = some entry) :
    (∃ m reference, InForce (referenceAt segments) n m reference ∧
      entry.1 = Structure.resolved pool reference) ∨
    ((∀ m ≤ n, referenceAt segments m = none) ∧ entry.1 = current) := by
  induction segments generalizing current n with
  | nil => simp [assignStructures] at here
  | cons segment segments ih =>
    -- What the rest of the run starts with depends on the first segment alone.
    have first (later : ∀ m < n, referenceAt segments m = none)
        (carried : entry.1 = (Structure.advance pool current (Structure.reference? segment)).1) :
        (∃ m reference, InForce (referenceAt (segment :: segments)) n m reference ∧
          entry.1 = Structure.resolved pool reference) ∨
        ((∀ m ≤ n, referenceAt (segment :: segments) m = none) ∧ entry.1 = current) := by
      cases refers : Structure.reference? segment with
      | some reference =>
        rw [refers, Structure.advance_some_fst] at carried
        exact .inl ⟨0, reference, inForce_first refers later, carried⟩
      | none =>
        rw [refers] at carried
        refine .inr ⟨?_, carried⟩
        rintro (_ | m) upto
        · exact refers
        · exact later m (by omega)
    cases n with
    | zero =>
      obtain rfl := Option.some.inj here
      exact first (by omega) rfl
    | succ n =>
      rcases ih here with ⟨m, reference, force, resolved⟩ | ⟨later, carried⟩
      · exact .inl ⟨m + 1, reference, force.cons, resolved⟩
      · exact first (fun m below => later m (by omega)) carried

/-- What goes wrong at a place is what goes wrong with the reference there. -/
theorem assigned_cause_iff (here : (assignStructures pool current segments)[n]? = some entry)
    (cause : Structure.Error) :
    entry.2 = some cause ↔ ∃ reference, referenceAt segments n = some reference ∧
      Structure.resolve pool reference = .error cause := by
  induction segments generalizing current n with
  | nil => simp [assignStructures] at here
  | cons segment segments ih =>
    cases n with
    | zero =>
      obtain rfl := Option.some.inj here
      exact Structure.advance_snd_eq_some_iff
    | succ n => exact ih here

end Run

/-! ## Scenes -/

namespace Scene

variable {scene : Scene}

/-- The structure that the segment at a place refers to when it opens. -/
def openingReference? (scene : Scene) (n : Nat) : Option String :=
  scene.sourceSegments[n]?.bind Segment.openingReference?

theorem referenceAt_normalSegments (scene : Scene) :
    referenceAt scene.normalSegments = scene.openingReference? := by
  funext n
  simp only [referenceAt, openingReference?, normalSegments_eq_map, List.getElem?_map,
    Option.bind_map, Function.comp_def, Segment.reference?_opened]

section Compiled

variable {language : String} {compiled : CompiledScene}
  (compiles : scene.compile language = .ok compiled)
include compiles

theorem mem_warnings_iff (m : Nat) (cause : Structure.Error) :
    (m, cause) ∈ compiled.warnings ↔ ∃ reference, scene.openingReference? m = some reference ∧
      Structure.resolve scene.structures reference = .error cause := by
  have reported : (m, cause) ∈ compiled.warnings ↔
      ∃ entry, scene.assigned[m]? = some entry ∧ entry.2 = some cause := by
    rw [warnings_of_compile compiles, List.mem_filterMap]
    simp [List.mem_zipIdx_iff_getElem?]
  rw [reported, ← referenceAt_normalSegments]
  constructor
  · rintro ⟨entry, here, failed⟩
    exact (assigned_cause_iff here cause).1 failed
  · rintro ⟨reference, refers, failed⟩
    obtain ⟨segment, place, -⟩ := Option.bind_eq_some_iff.1 refers
    have bound : m < scene.assigned.length := by
      rw [scene.length_assigned]
      exact (List.getElem?_eq_some_iff.1 place).1
    have here := List.getElem?_eq_getElem bound
    exact ⟨_, here, (assigned_cause_iff here cause).2 ⟨reference, refers, failed⟩⟩

/-- Warnings come in the order of the segments. -/
theorem pairwise_warnings : compiled.warnings.Pairwise (·.1 < ·.1) := by
  have places : scene.assigned.zipIdx.Pairwise (·.2 < ·.2) := by
    rw [← List.pairwise_map (f := Prod.snd), List.zipIdx_map_snd]
    exact List.pairwise_lt_range'
  rw [warnings_of_compile compiles]
  refine places.filterMap _ fun first second lt w here w' there => ?_
  obtain ⟨_, -, rfl⟩ := Option.map_eq_some_iff.1 here
  obtain ⟨_, -, rfl⟩ := Option.map_eq_some_iff.1 there
  exact lt

end Compiled

/-- A scene with a valid identifier compiles, to as many segments as it has. Each of them plays on
the structure that the last segment up to it refers to when it opens, or on `ponder:debug/scene_1`
if that reference fails. If there is no such segment, it plays on the structure that the first entry
of the pool names, or on `ponder:debug/scene_1` if there is no entry or it is no name. The warnings
are the references that fail, each with the index of its segment, in the order of the segments. -/
theorem structures_in_force (language : String) {id : Identifier}
    (valid : scene.identifier = .ok id) :
    ∃ compiled, scene.compile language = .ok compiled ∧
      compiled.segments.length = scene.sourceSegments.length ∧
      (∀ n s, compiled.segments[n]? = some s →
        (∃ m reference, InForce scene.openingReference? n m reference ∧
          s.template = (Structure.resolve scene.structures reference).toOption.getD
            ⟨"ponder", "debug/scene_1"⟩) ∨
        ((∀ m ≤ n, scene.openingReference? m = none) ∧
          s.template = (scene.structures.head?.bind fun name =>
            (Structure.ofName name).toOption).getD ⟨"ponder", "debug/scene_1"⟩)) ∧
      compiled.warnings.Pairwise (·.1 < ·.1) ∧
      ∀ m cause, (m, cause) ∈ compiled.warnings ↔
        ∃ reference, scene.openingReference? m = some reference ∧
          Structure.resolve scene.structures reference = .error cause := by
  obtain ⟨compiled, compiles⟩ := exists_compile language valid
  have templates := templates_of_compile compiles
  refine ⟨compiled, compiles, ?_, ?_, pairwise_warnings compiles,
    mem_warnings_iff compiles⟩
  · have lengths := congrArg List.length templates
    simpa [length_assigned, normalSegments_eq_map] using lengths
  · intro n s here
    have template := congrArg (·[n]?) templates
    simp only [List.getElem?_map, here, Option.map_some] at template
    obtain ⟨entry, assigned, same⟩ := Option.map_eq_some_iff.1 template.symm
    rw [← same, ← referenceAt_normalSegments, ← Structure.fallback, ← Structure.seed_eq]
    exact assigned_cases assigned

/-- A late reference that an opening hides, a reference that is carried on, and one that fails. -/
def relay : Scene :=
  { id := "demo:lid"
    structures := ["demo:base", "lid"]
    segments := some
      [{ steps := [.blank, .ofOp .keyframe, .ofOp (.showStructure (some "2") none none)] },
       { steps := [.blank, .ofOp (.showStructure (some "2") none none)] },
       { steps := [.ofOp (.showStructure none none none)] },
       { steps := [.ofOp (.showStructure (some "9") none none)] },
       {}] }

theorem structures_in_force_relay :
    ∃ compiled, relay.compile "en_us" = .ok compiled ∧ compiled.segments.length = 5 ∧
      (∀ s, compiled.segments[0]? = some s → s.template = ⟨"demo", "base"⟩) ∧
      (∀ s, compiled.segments[2]? = some s → s.template = ⟨"kubejs", "lid"⟩) ∧
      (∀ s, compiled.segments[4]? = some s → s.template = ⟨"ponder", "debug/scene_1"⟩) ∧
      (3, .outOfRange "9" 2) ∈ compiled.warnings := by
  have valid : relay.identifier = .ok ⟨"demo", "lid"⟩ := by decide
  obtain ⟨compiled, compiles, length, templates, -, warnings⟩ := structures_in_force "en_us" valid
  have carried : InForce relay.openingReference? 2 1 "2" := by
    refine ⟨by decide, rfl, fun k after upto => ?_⟩
    obtain rfl : k = 2 := by omega
    rfl
  have failed : InForce relay.openingReference? 4 3 "9" := by
    refine ⟨by decide, rfl, fun k after upto => ?_⟩
    obtain rfl : k = 4 := by omega
    rfl
  refine ⟨compiled, compiles, length, fun s here => ?_, fun s here => ?_, fun s here => ?_,
    (warnings 3 _).2 ⟨"9", rfl, rfl⟩⟩
  · obtain ⟨m, reference, force, -⟩ | ⟨-, seeded⟩ := templates 0 s here
    · obtain rfl : m = 0 := Nat.le_zero.1 force.le
      have hidden : relay.openingReference? 0 = none := rfl
      exact absurd force.refers (by simp [hidden])
    · exact seeded
  · obtain ⟨m, reference, force, resolved⟩ | ⟨free, -⟩ := templates 2 s here
    · obtain ⟨-, rfl⟩ := carried.unique force
      exact resolved
    · exact absurd (free 1 (by decide)) (by decide)
  · obtain ⟨m, reference, force, resolved⟩ | ⟨free, -⟩ := templates 4 s here
    · obtain ⟨-, rfl⟩ := failed.unique force
      exact resolved
    · exact absurd (free 3 (by decide)) (by decide)

end Scene

end Storyboard
