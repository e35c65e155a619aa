import Storyboard.Output
import Storyboard.Proofs.Compile
import Storyboard.Proofs.Scene.Normal
import Storyboard.Proofs.Script.Call
import Storyboard.Proofs.Trace

/-!
# Blank steps do not show

Every pass over steps goes past the blank ones by itself. Together they treat a scene as if its
blank steps were not there: it compiles to the same segments on the same structures, its script is
the same, and its trace only counts the blank steps in the numbers of the steps that it warns of.

## Main definitions

* `meaningful`: the steps that are not blank.
* `Scene.withoutBlanks`: a scene with these steps only.
* `CompiledScene.traceNumbered`: a trace with other numbers for the steps that it warns of.

## Main statements

* `Scene.compile_withoutBlanks`: blank steps stay blank steps, and nothing else, when a scene is
  compiled.
* `CompiledScene.script_withoutBlanks`, `CompiledScene.trace_withoutBlanks`: what blank steps do to
  the output.
* `blank_steps_invisible`: all of this for every scene.
-/

namespace Storyboard

/-- The steps that are not blank. -/
def meaningful (steps : List Step) : List Step :=
  steps.filter (!·.isBlank)

section Cons

variable {step : Step} (steps : List Step)

theorem meaningful_cons_of_blank (blank : step.isBlank) :
    meaningful (step :: steps) = meaningful steps := by
  simp [meaningful, blank]

theorem meaningful_cons (shows : step.isBlank = false) :
    meaningful (step :: steps) = step :: meaningful steps := by
  simp [meaningful, shows]

end Cons

/-- The segment with those of its steps that are not blank. -/
def Segment.withoutBlanks (segment : Segment) : Segment :=
  { segment with steps := meaningful segment.steps }

/-- The scene with those of its steps that are not blank, in its flat list and in its segments. -/
def Scene.withoutBlanks (scene : Scene) : Scene :=
  { scene with
    steps := meaningful scene.steps
    segments := scene.segments.map (List.map Segment.withoutBlanks) }

def CompiledSegment.withoutBlanks (s : CompiledSegment) : CompiledSegment :=
  { s with segment := s.segment.withoutBlanks }

def CompiledScene.withoutBlanks (scene : CompiledScene) : CompiledScene :=
  { scene with segments := scene.segments.map CompiledSegment.withoutBlanks }

/-! ## Normal forms -/

/-- A mark that a boundary passes on goes past blank steps, and no blank step is a boundary. -/
theorem Step.splitFrom_meaningful (carry : Bool) (steps : List Step) :
    splitFrom carry (meaningful steps) =
      (meaningful (splitFrom carry steps).1, (splitFrom carry steps).2.map meaningful) := by
  induction steps generalizing carry with
  | nil => rfl
  | cons step steps ih =>
    cases blank : step.isBlank with
    | true =>
      have inside : step.isBoundary = false := by simp [isBoundary, isBlank_iff.1 blank]
      rw [meaningful_cons_of_blank steps blank, ih, splitFrom]
      simp [blank, inside, meaningful_cons_of_blank]
    | false =>
      have marked : (⟨true, step.op⟩ : Step).isBlank = false := blank
      have nil : meaningful [] = [] := rfl
      rw [meaningful_cons steps blank, splitFrom, splitFrom]
      cases step.isBoundary <;> cases carry <;>
        simp [ih, blank, marked, meaningful_cons, nil]

theorem Step.split_meaningful (steps : List Step) :
    split (meaningful steps) = (split steps).map Segment.withoutBlanks := by
  simp [split, splitFrom_meaningful, Segment.withoutBlanks, Function.comp_def]

namespace Segment

variable (segment : Segment)

theorem firstMeaningful?_withoutBlanks :
    segment.withoutBlanks.firstMeaningful? = segment.firstMeaningful? := by
  simp [firstMeaningful?, withoutBlanks, meaningful, List.find?_filter]

/-- An opening is put in front for the same segments, and none of its steps is blank. -/
theorem opened_withoutBlanks : segment.withoutBlanks.opened = segment.opened.withoutBlanks := by
  have lacks : segment.withoutBlanks.lacksReveal = segment.lacksReveal := by
    rw [lacksReveal, lacksReveal, firstMeaningful?_withoutBlanks]
  unfold opened
  rw [lacks]
  split
  · rfl
  · rfl

theorem reference?_withoutBlanks :
    Structure.reference? segment.withoutBlanks = Structure.reference? segment := by
  unfold Structure.reference? withoutBlanks
  congr 1
  induction segment.steps with
  | nil => rfl
  | cons step steps ih =>
    cases blank : step.isBlank with
    | true =>
      simp only [meaningful_cons_of_blank steps blank, List.findSome?_cons, ih,
        Step.isBlank_iff.1 blank]
    | false => simp only [meaningful_cons steps blank, List.findSome?_cons, ih]

end Segment

theorem Scene.normalSegments_withoutBlanks (scene : Scene) :
    scene.withoutBlanks.normalSegments = scene.normalSegments.map Segment.withoutBlanks := by
  have source : scene.withoutBlanks.sourceSegments =
      scene.sourceSegments.map Segment.withoutBlanks := by
    unfold sourceSegments isSegmented withoutBlanks
    rcases scene.segments with _ | (_ | ⟨first, more⟩)
    · exact Step.split_meaningful scene.steps
    · exact Step.split_meaningful scene.steps
    · rfl
  simp [normalSegments_eq_map, source, Segment.opened_withoutBlanks]

/-! ## Compiled scenes -/

theorem assignStructures_withoutBlanks (pool : List String) (current : Identifier)
    (segments : List Segment) :
    assignStructures pool current (segments.map Segment.withoutBlanks) =
      assignStructures pool current segments := by
  induction segments generalizing current with
  | nil => rfl
  | cons segment segments ih => simp [assignStructures, Segment.reference?_withoutBlanks, ih]

theorem isLone_withoutBlanks (segments : List Segment) :
    isLone (segments.map Segment.withoutBlanks) = isLone segments := by
  rcases segments with _ | ⟨first, _ | ⟨second, more⟩⟩ <;> rfl

/-- A scene without its blank steps compiles to what the scene compiles to, without them. -/
theorem Scene.compile_withoutBlanks (language : String) (scene : Scene) :
    scene.withoutBlanks.compile language =
      (scene.compile language).map CompiledScene.withoutBlanks := by
  have id : scene.withoutBlanks.identifier = scene.identifier := rfl
  rw [compile_eq_map, compile_eq_map, id]
  cases scene.identifier with
  | error cause => rfl
  | ok id =>
    simp only [Except.map, CompiledScene.withoutBlanks, normalSegments_withoutBlanks,
      isLone_withoutBlanks, List.zip_map_left, List.zipIdx_map, List.map_map, Function.comp_def,
      Prod.map]
    simp only [withoutBlanks, assignStructures_withoutBlanks]
    rfl

/-! ## Scripts -/

theorem Script.flatten_linesFrom_meaningful (context : Context) (steps : List Step) :
    (linesFrom context (meaningful steps)).flatten = (linesFrom context steps).flatten := by
  induction steps generalizing context with
  | nil => rfl
  | cons step steps ih =>
    cases blank : step.isBlank with
    | true => simp [meaningful_cons_of_blank steps blank, linesFrom, emit, blank, ih]
    | false => simp only [meaningful_cons steps blank, linesFrom, List.flatten_cons, ih]

theorem CompiledScene.script_withoutBlanks (scene : CompiledScene) :
    scene.withoutBlanks.script = scene.script := by
  have part (s : CompiledSegment) : segmentScript s.withoutBlanks = segmentScript s := by
    have lines : (Script.lines s.withoutBlanks.segment.steps).flatten =
        (Script.lines s.segment.steps).flatten :=
      Script.flatten_linesFrom_meaningful _ _
    unfold segmentScript
    rw [lines]
    rfl
  simp only [script, withoutBlanks, List.map_map, Function.comp_def, part]

/-! ## Traces -/

section Run

variable {σ S : Type} (n : Naming σ S) (stage : Stage σ S) {step : Step}

theorem Stage.apply_of_blank (blank : step.isBlank) :
    stage.apply n step.op = .ok (none, stage) := by
  rw [Step.isBlank_iff.1 blank]
  rfl

theorem Stage.after_of_blank (blank : step.isBlank) : stage.after n step.op = stage := by
  rw [after, apply_of_blank n stage blank]

end Run

/-- The warning with another number for its step. -/
def Warning.renumbered (number : Nat → Nat) (w : Warning) : Warning :=
  { w with index := number w.index }

namespace Trace

open Stage (run apply_of_blank after_of_blank)

theorem lines_run_meaningful (stage : Stage Nat Nat) (steps : List Step) :
    (stage.run naming (meaningful steps)).flatMap eventLines =
      (stage.run naming steps).flatMap eventLines := by
  induction steps generalizing stage with
  | nil => rfl
  | cons step steps ih =>
    cases blank : step.isBlank with
    | true =>
      rw [meaningful_cons_of_blank steps blank, run, List.flatMap_cons, after_of_blank _ _ blank,
        ih]
      simp [eventLines, blank]
    | false => simp only [meaningful_cons steps blank, run, List.flatMap_cons, ih]

/-- How many steps before an index are not blank. -/
def meaningfulBefore (steps : List Step) (i : Nat) : Nat :=
  (meaningful (steps.take i)).length

/-- Warnings number the steps that are not blank by themselves, when only these are there. Here the
steps are numbered from `first` on, and without the blank ones from `first'` on. -/
theorem warnings_run_meaningful (stage : Stage Nat Nat) (steps : List Step) (first first' : Nat) :
    warningsFrom first' (stage.run naming (meaningful steps)) =
      (warningsFrom first (stage.run naming steps)).map
        (.renumbered fun i => first' + meaningfulBefore steps (i - first)) := by
  induction steps generalizing stage first first' with
  | nil => rfl
  | cons step steps ih =>
    -- The warnings after the first step have higher numbers.
    have later (w : Warning) (mem : w ∈ warningsFrom (first + 1)
        ((stage.after naming step.op).run naming steps)) :
        (step :: steps).take (w.index - first) = step :: steps.take (w.index - (first + 1)) := by
      have least := (index_bounds mem).1
      obtain ⟨k, index⟩ := Nat.exists_eq_add_of_le least
      rw [show w.index - first = k + 1 by omega, show w.index - (first + 1) = k by omega,
        List.take_succ_cons]
    cases blank : step.isBlank with
    | true =>
      rw [meaningful_cons_of_blank steps blank, run, warningsFrom_cons, apply_of_blank _ _ blank]
      rw [after_of_blank _ _ blank] at later ⊢
      rw [ih stage (first + 1) first']
      refine List.map_congr_left fun w mem => ?_
      simp only [Warning.renumbered, meaningfulBefore, later w mem,
        meaningful_cons_of_blank _ blank]
    | false =>
      rw [meaningful_cons steps blank, run, run, warningsFrom_cons, warningsFrom_cons,
        List.map_append, ih _ (first + 1) (first' + 1)]
      congr 1
      · unfold warning?
        cases stage.apply naming step.op <;>
          simp [Except.map, Warning.renumbered, meaningfulBefore, meaningful]
      · refine List.map_congr_left fun w mem => ?_
        simp only [Warning.renumbered, meaningfulBefore, later w mem, meaningful_cons _ blank,
          List.length_cons]
        congr 1
        omega

end Trace

/-- The trace with the numbers that `number` gives to the steps of each segment. -/
def CompiledScene.traceNumbered (number : CompiledSegment → Nat → Nat) (scene : CompiledScene) :
    String :=
  String.join (scene.segments.map fun s =>
    let trace := Trace.play s.segment.steps
    unlines (("== " ++ s.id ++ " (" ++ s.template.text ++ ") ==") ::
      (trace.lines ++ trace.warnings.map fun w => warningLine (w.renumbered (number s)))))

theorem CompiledScene.trace_withoutBlanks (scene : CompiledScene) :
    scene.withoutBlanks.trace =
      scene.traceNumbered fun s => Trace.meaningfulBefore s.segment.steps := by
  have lines (s : CompiledSegment) : (Trace.play (meaningful s.segment.steps)).lines =
      (Trace.play s.segment.steps).lines :=
    Trace.lines_run_meaningful _ _
  have warnings (s : CompiledSegment) : (Trace.play (meaningful s.segment.steps)).warnings =
      (Trace.play s.segment.steps).warnings.map
        (.renumbered (Trace.meaningfulBefore s.segment.steps)) := by
    simp only [Trace.warnings_play, Trace.events,
      Trace.warnings_run_meaningful (.start Trace.naming) s.segment.steps 0 0, Nat.zero_add,
      Nat.sub_zero]
  simp only [trace, traceNumbered, withoutBlanks, segmentTrace, CompiledSegment.withoutBlanks,
    Segment.withoutBlanks, lines, warnings, List.map_map, Function.comp_def]

/-! ## Both -/

/-- A scene without its blank steps, marked ones included, compiles when the scene does. It has the
same identifier, triggers, titles, names of segments, structures and warnings about structures, and
its script is the same text. Its trace is the trace of the scene in which a step that is warned of
has for its number how many steps before it are not blank, where the trace of the scene has its
place among all steps. -/
theorem blank_steps_invisible (language : String) (scene : Scene) :
    (∀ cause, scene.withoutBlanks.compile language = .error cause ↔
      scene.compile language = .error cause) ∧
    ∀ compiled, scene.compile language = .ok compiled →
      ∃ bare, scene.withoutBlanks.compile language = .ok bare ∧
        bare.id = compiled.id ∧ bare.triggers = compiled.triggers ∧ bare.title = compiled.title ∧
        bare.segments.map (·.id) = compiled.segments.map (·.id) ∧
        bare.segments.map (·.title) = compiled.segments.map (·.title) ∧
        bare.segments.map (·.template) = compiled.segments.map (·.template) ∧
        bare.warnings = compiled.warnings ∧ bare.script = compiled.script ∧
        bare.trace = (compiled.traceNumbered fun s => Trace.meaningfulBefore s.segment.steps) ∧
        compiled.trace = compiled.traceNumbered fun _ i => i := by
  rw [Scene.compile_withoutBlanks]
  constructor
  · intro cause
    cases scene.compile language <;> simp [Except.map]
  · intro compiled compiles
    rw [compiles]
    refine ⟨compiled.withoutBlanks, rfl, rfl, rfl, rfl, ?_, ?_, ?_, rfl,
      compiled.script_withoutBlanks, compiled.trace_withoutBlanks, rfl⟩ <;>
    · simp only [CompiledScene.withoutBlanks, List.map_map]
      rfl

/-- Blank steps at the start, between a marked boundary and the step that takes over its mark, and
alone in the last segment. -/
def scattered : Scene :=
  { id := "demo:lid"
    steps := [.blank, ⟨true, .nextScene⟩, ⟨true, .blank⟩, .ofOp (.idle none), .ofOp .nextScene,
      .blank] }

theorem blank_steps_invisible_scattered :
    scattered.withoutBlanks ≠ scattered ∧
      ∃ compiled bare, scattered.compile "en" = .ok compiled ∧
        scattered.withoutBlanks.compile "en" = .ok bare ∧ bare.script = compiled.script := by
  obtain ⟨compiled, compiles⟩ : ∃ compiled, scattered.compile "en" = .ok compiled := by
    rw [Scene.compile_eq_map]
    exact ⟨_, rfl⟩
  obtain ⟨-, kept⟩ := blank_steps_invisible "en" scattered
  obtain ⟨bare, compiles', -, -, -, -, -, -, -, script, -⟩ := kept compiled compiles
  exact ⟨by decide, compiled, bare, compiles, compiles', script⟩

end Storyboard
