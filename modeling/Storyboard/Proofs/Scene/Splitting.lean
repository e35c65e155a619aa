import Storyboard.Proofs.Compile
import Storyboard.Proofs.Scene.Normal
import Storyboard.Proofs.Script.Call
import Storyboard.Proofs.Trace

/-!
# Cutting at boundaries

A flat list of steps is cut into the runs between its boundaries. Nothing but the boundaries is left
out, and the mark of a boundary goes to the first step of its run that is not blank. So no boundary
is left for the back ends to report.

## Main definitions

* `Run`, `CutInto`: the runs of a list, each with the boundary that opens it.
* `Step.passMark`: a run that takes over a mark.
* `Run.Becomes`: what a segment has of a run.

## Main statements

* `CutInto.split_eq`: splitting a list gives its runs, with the marks passed on.
* `Step.keyframe_passMark_iff`: the marks of a run that takes over a mark.
* `Stage.apply_eq_strayBoundary_iff`, `Script.boundaryLine_notMem_emit`: what reports a boundary.
* `Scene.split_at_boundaries`: all of this for every list and every scene.
-/

namespace Storyboard

theorem Step.isBoundary_iff {step : Step} : step.isBoundary ↔ step.op = .nextScene := by
  unfold isBoundary
  cases step.op <;> simp

/-! ## Runs -/

/-- Steps without a boundary, and the boundary in front of them; the first run has none. -/
structure Run where
  opener : Option Step
  steps : List Step

/-- The list is made up of the runs, in order, with a boundary between each two of them. A run is as
long as it can be, because a boundary or an end is at each side of it. -/
inductive CutInto : Option Step → List Step → List Run → Prop
  | last {opener : Option Step} {run : List Step} (inside : ∀ step ∈ run, step.op ≠ .nextScene) :
    CutInto opener run [⟨opener, run⟩]
  | cut {opener : Option Step} {run rest : List Step} {boundary : Step} {runs : List Run}
      (inside : ∀ step ∈ run, step.op ≠ .nextScene) (bounds : boundary.op = .nextScene)
      (more : CutInto (some boundary) rest runs) :
    CutInto opener (run ++ boundary :: rest) (⟨opener, run⟩ :: runs)

/-- Every list has runs: a step that is no boundary goes to the front of the first one. -/
theorem exists_cutInto (opener : Option Step) (steps : List Step) :
    ∃ runs, CutInto opener steps runs := by
  induction steps generalizing opener with
  | nil => exact ⟨_, .last (by simp)⟩
  | cons step steps ih =>
    by_cases bounds : step.op = .nextScene
    · obtain ⟨runs, more⟩ := ih (some step)
      exact ⟨_, (.cut (by simp) bounds more : CutInto opener ([] ++ step :: steps) _)⟩
    · obtain ⟨runs, cuts⟩ := ih opener
      cases cuts with
      | last inside => exact ⟨_, .last (List.forall_mem_cons.2 ⟨bounds, inside⟩)⟩
      | @cut _ run rest boundary _ inside found more =>
        have longer : ∀ other ∈ step :: run, other.op ≠ .nextScene :=
          List.forall_mem_cons.2 ⟨bounds, inside⟩
        exact ⟨_, (.cut longer found more : CutInto opener ((step :: run) ++ boundary :: rest) _)⟩

theorem CutInto.length_eq {opener : Option Step} {steps : List Step} {runs : List Run}
    (cuts : CutInto opener steps runs) :
    runs.length = steps.countP (fun step => step.op = .nextScene) + 1 := by
  have none {run : List Step} (inside : ∀ step ∈ run, step.op ≠ .nextScene) :
      run.countP (fun step => step.op = .nextScene) = 0 := by
    simpa [List.countP_eq_zero] using inside
  induction cuts with
  | last inside => simp [none inside]
  | cut inside bounds more ih => simp [none inside, bounds, ih]

/-! ## Marks -/

namespace Step

/-- The run in which the first step that is not blank takes over a mark. -/
def passMark (mark : Bool) : List Step → List Step
  | [] => []
  | step :: steps =>
    if step.isBlank then step :: passMark mark steps
    else { step with keyframe := mark || step.keyframe } :: steps

theorem passMark_false (steps : List Step) : passMark false steps = steps := by
  induction steps with
  | nil => rfl
  | cons step steps ih => simp [passMark, ih]

theorem map_op_passMark (mark : Bool) (steps : List Step) :
    (passMark mark steps).map op = steps.map op := by
  induction steps with
  | nil => rfl
  | cons step steps ih =>
    rw [passMark]
    split <;> simp [ih]

/-- The step at the place is the first one that is not blank. -/
def IsFirstAt (steps : List Step) (i : Nat) : Prop :=
  (∀ step, steps[i]? = some step → step.op ≠ .blank) ∧
    ∀ j < i, ∀ step, steps[j]? = some step → step.op = .blank

theorem isFirstAt_succ_iff {step : Step} {steps : List Step} {i : Nat} :
    IsFirstAt (step :: steps) (i + 1) ↔ step.op = .blank ∧ IsFirstAt steps i := by
  constructor
  · rintro ⟨here, before⟩
    refine ⟨before 0 i.succ_pos step rfl, here, ?_⟩
    intro j lt
    exact before (j + 1) (Nat.succ_lt_succ lt)
  · rintro ⟨blank, here, before⟩
    refine ⟨here, ?_⟩
    rintro (_ | j) lt other found
    · obtain rfl := Option.some.inj found
      exact blank
    · exact before j (Nat.lt_of_succ_lt_succ lt) other found

/-- A mark is there before, or is the one that the first step takes over. -/
theorem keyframe_passMark_iff {mark : Bool} {steps : List Step} {i : Nat} {step after : Step}
    (source : steps[i]? = some step) (target : (passMark mark steps)[i]? = some after) :
    after.keyframe ↔ step.keyframe ∨ mark ∧ IsFirstAt steps i := by
  induction steps generalizing i with
  | nil => cases source
  | cons first steps ih =>
    rw [passMark] at target
    split at target
    next blank =>
      have blank := isBlank_iff.1 blank
      cases i with
      | zero =>
        obtain rfl := Option.some.inj source
        obtain rfl := Option.some.inj target
        have later : ¬ IsFirstAt (first :: steps) 0 := fun h => h.1 first rfl blank
        simp [later]
      | succ i =>
        rw [isFirstAt_succ_iff, ih source target]
        simp [blank]
    next meaningful =>
      have meaningful : first.op ≠ .blank := fun blank => meaningful (isBlank_iff.2 blank)
      cases i with
      | zero =>
        obtain rfl := Option.some.inj source
        obtain rfl := Option.some.inj target
        have here : IsFirstAt (first :: steps) 0 := by simp [IsFirstAt, meaningful]
        simp [here, or_comm]
      | succ i =>
        obtain rfl := Option.some.inj (source.symm.trans target)
        simp [isFirstAt_succ_iff, meaningful]

/-! ## Splitting -/

/-- A run in front goes to the first part and takes over the mark, if it can. -/
theorem splitFrom_append {run : List Step} (inside : ∀ step ∈ run, step.op ≠ .nextScene)
    (mark : Bool) (rest : List Step) :
    splitFrom mark (run ++ rest) =
      (passMark mark run ++ (splitFrom (mark && run.all isBlank) rest).1,
        (splitFrom (mark && run.all isBlank) rest).2) := by
  -- The mark goes along with the induction: blanks leave it, and the first other step uses it up.
  induction run generalizing mark with
  | nil => simp [passMark]
  | cons step run ih =>
    obtain ⟨here, inside⟩ := List.forall_mem_cons.1 inside
    have here : ¬ step.isBoundary := mt isBoundary_iff.1 here
    rw [List.cons_append, splitFrom, if_neg here, passMark]
    cases blank : step.isBlank with
    | true => simp [ih inside, blank]
    | false => cases mark <;> simp [ih inside, blank, passMark_false]

theorem splitFrom_boundary {boundary : Step} (bounds : boundary.op = .nextScene) (mark : Bool)
    (rest : List Step) :
    splitFrom mark (boundary :: rest) =
      ([], (splitFrom boundary.keyframe rest).1 :: (splitFrom boundary.keyframe rest).2) := by
  rw [splitFrom, if_pos (isBoundary_iff.2 bounds)]

end Step

/-- The boundary in front of the run has a mark. -/
def Run.isFlagged (run : Run) : Bool :=
  run.opener.any (·.keyframe)

theorem CutInto.splitFrom_eq {opener : Option Step} {steps : List Step} {runs : List Run}
    (cuts : CutInto opener steps runs) :
    (Step.splitFrom (opener.any (·.keyframe)) steps).1 ::
        (Step.splitFrom (opener.any (·.keyframe)) steps).2 =
      runs.map fun run => Step.passMark run.isFlagged run.steps := by
  induction cuts with
  | @last opener run inside =>
    have parts := Step.splitFrom_append inside (opener.any (·.keyframe)) []
    rw [List.append_nil] at parts
    simp [parts, Step.splitFrom, Run.isFlagged]
  | cut inside bounds more ih =>
    rw [Step.splitFrom_append inside, Step.splitFrom_boundary bounds, List.append_nil,
      List.map_cons, ← ih]
    rfl

/-- The segments of a list are its runs, with the marks passed on. -/
theorem CutInto.split_eq {steps : List Step} {runs : List Run} (cuts : CutInto none steps runs) :
    Step.split steps =
      runs.map fun run => { steps := Step.passMark run.isFlagged run.steps } := by
  have parts := congrArg (List.map fun steps : List Step => ({ steps } : Segment)) cuts.splitFrom_eq
  rwa [List.map_map] at parts

/-- The segment has no name and no title, and the instructions of the run. A step of it has a mark
when the step had one, or when it is the first that is not blank behind a boundary with a mark. -/
structure Run.Becomes (run : Run) (segment : Segment) : Prop where
  id : segment.id = none
  title : segment.title = none
  ops : segment.steps.map Step.op = run.steps.map Step.op
  marks : ∀ i step after, run.steps[i]? = some step → segment.steps[i]? = some after →
    (after.keyframe ↔ step.keyframe ∨
      (∃ boundary, run.opener = some boundary ∧ boundary.keyframe) ∧ Step.IsFirstAt run.steps i)

theorem Run.becomes (run : Run) :
    run.Becomes { steps := Step.passMark run.isFlagged run.steps } where
  id := rfl
  title := rfl
  ops := Step.map_op_passMark _ _
  marks := by
    intro i step after source target
    rw [Step.keyframe_passMark_iff source target]
    simp [isFlagged, Option.any_eq_true]

theorem CutInto.inside {opener : Option Step} {steps : List Step} {runs : List Run}
    (cuts : CutInto opener steps runs) :
    ∀ run ∈ runs, ∀ step ∈ run.steps, step.op ≠ .nextScene := by
  induction cuts with
  | last inside => simpa using inside
  | cut inside bounds more ih => exact List.forall_mem_cons.2 ⟨inside, ih⟩

/-- No boundary is left in the segments. -/
theorem Step.inside_split {steps : List Step} {segment : Segment} (mem : segment ∈ split steps) :
    ∀ step ∈ segment.steps, step.op ≠ .nextScene := by
  obtain ⟨runs, cuts⟩ := exists_cutInto none steps
  rw [cuts.split_eq] at mem
  obtain ⟨run, one, rfl⟩ := List.mem_map.1 mem
  intro step found bounds
  have op : Op.nextScene ∈ run.steps.map Step.op := by
    rw [← map_op_passMark run.isFlagged, ← bounds]
    exact List.mem_map_of_mem found
  obtain ⟨step, found, bounds⟩ := List.mem_map.1 op
  exact cuts.inside run one step found bounds

/-! ## Reports of boundaries -/

namespace Check

variable {α : Type} {field : String}

-- A check of a field fails with a fault of the field, whatever the field is.

@[simp] theorem need_ne_strayBoundary (value : Option α) :
    need field value ≠ .error Fault.strayBoundary := by
  cases value <;> simp [need, Report.missing]

@[simp] theorem identifier_ne_strayBoundary (value : String) :
    identifier field value ≠ .error Fault.strayBoundary := by
  unfold identifier
  split <;> simp [Report.invalidId]

@[simp] theorem neededIdentifier_ne_strayBoundary (value : Option String) :
    neededIdentifier field value ≠ .error Fault.strayBoundary := by
  cases value <;> simp [neededIdentifier, Report.missing]

@[simp] theorem optionalIdentifier_ne_strayBoundary (value : Option String) :
    optionalIdentifier field value ≠ .error Fault.strayBoundary := by
  cases value <;> simp [optionalIdentifier, map_eq_error_iff]

@[simp] theorem word_ne_strayBoundary (value : Option (Keyword α)) :
    word field value ≠ .error Fault.strayBoundary := by
  rcases value with _ | (known | spelling) <;> simp [word, Report.unknownKeyword]

@[simp] theorem patch_ne_strayBoundary (nbt : String) :
    patch nbt ≠ .error Fault.strayBoundary := by
  unfold patch
  split <;> simp [Report.invalidPatch]

@[simp] theorem scope_ne_strayBoundary (area : Area) (fullScene : Option Bool) :
    scope area fullScene ≠ .error Fault.strayBoundary := by
  unfold scope
  split <;> simp [selection, map_eq_error_iff]

end Check

open Check in
/-- Only a boundary is reported as one: the checks of fields report about fields. -/
theorem Op.call_eq_strayBoundary_iff {op : Op} :
    op.call = .error .strayBoundary ↔ op = .nextScene := by
  cases op <;>
    simp [call, bind_eq_error_iff, map_eq_error_iff, duration, selection, block, style, state,
      neededDirection, pure, Except.pure]

namespace Stage

variable {σ S : Type} {n : Naming σ S} {stage : Stage σ S}

theorem follow_ne_strayBoundary (n : Naming σ S) (stage : Stage σ S) (call : LinkedCall Link) :
    stage.follow n call ≠ .error .strayBoundary := by
  have found (link : Link) : stage.find link ≠ .error Fault.strayBoundary := by
    unfold find
    split <;> simp [Report.unlinked]
  cases call with
  | detach => simp [follow]
  | merge =>
    rw [follow]
    split <;> simp
  | hide | rotate | move => simp [follow, map_eq_error_iff, found]

theorem apply_eq_strayBoundary_iff {op : Op} :
    stage.apply n op = .error .strayBoundary ↔ op = .nextScene := by
  rw [← Op.call_eq_strayBoundary_iff, apply]
  rcases op.call with fault | (_ | (call | call))
  · simp
  · simp
  · simp
  · have followed := stage.follow_ne_strayBoundary n call
    rcases follow : stage.follow n call with fault | ⟨made, after⟩
    · simpa [follow] using followed
    · simp [follow]

end Stage

/-- A trace that warns of a boundary is one of a list with a boundary. -/
theorem Trace.fault_ne_strayBoundary {steps : List Step} {w : Warning}
    (inside : ∀ step ∈ steps, step.op ≠ .nextScene) (h : w ∈ (play steps).warnings) :
    w.fault ≠ .strayBoundary := by
  intro stray
  obtain ⟨stage, step, at_, -, failed⟩ := exists_step_of_warning h
  rw [stray, Stage.apply_eq_strayBoundary_iff] at failed
  exact inside step (List.mem_of_getElem? at_) failed

namespace Script

/-- The line of a boundary. -/
def boundaryLine : String :=
  "// [segment boundary]"

-- Lines that make calls have a parenthesis, and the line of a boundary has none. Comments for what is
-- missing, wrong or unknown differ from it in the first letter.

theorem paren_mem_statement (name : String) (arguments : List String) :
    '(' ∈ (statement name arguments).toList := by
  simp [statement, invocation]

theorem paren_mem_plainLines {call : PlainCall} {line : String} (h : line ∈ plainLines call) :
    '(' ∈ line.toList := by
  cases call with
  | toggleRedstonePower | indicateRedstone | indicateSuccess =>
    rw [List.mem_singleton.1 h]
    simp [unsupported, paren_mem_statement]
  | showStructure height scale =>
    simp only [plainLines, List.mem_cons, Option.mem_toList, Option.map_eq_some_iff] at h
    obtain rfl | ⟨_, -, rfl⟩ := h <;> exact paren_mem_statement _ _
  | idle | destroyBlock =>
    rw [List.mem_singleton.1 h]
    split <;> exact paren_mem_statement _ _
  | setBlocks blocks =>
    rw [List.mem_singleton.1 h]
    cases blocks <;> exact paren_mem_statement _ _
  | clearEntities filter scope | clearItemEntities filter scope =>
    rw [List.mem_singleton.1 h]
    cases scope <;> exact paren_mem_statement _ _
  | showText | showSharedText | showControls =>
    rw [List.mem_singleton.1 h]
    simp [invocation]
  | _ =>
    rw [List.mem_singleton.1 h]
    exact paren_mem_statement _ _

theorem paren_mem_callLines {names : Names} {call : Option (Call String)} {line : String}
    (h : line ∈ callLines names call) : '(' ∈ line.toList := by
  rcases call with _ | (call | call)
  · cases h
  · exact paren_mem_plainLines h
  · rw [List.mem_singleton.1 h]
    cases call <;> simp [linkedLine, paren_mem_statement]

theorem comment_ne_boundaryLine (gap : Gap) (op : Op) : comment gap op ≠ boundaryLine := by
  intro equal
  have text := congrArg String.toList equal
  cases gap <;> simp [comment, Gap.text, boundaryLine] at text

theorem boundaryLine_notMem_lower {context after : Context} {op : Op} {lines : List String}
    (inside : op ≠ .nextScene) (h : lower context op = .ok (lines, after)) :
    boundaryLine ∉ lines := by
  rcases applied : context.apply naming op with fault | ⟨call, after'⟩
  · by_cases known : ∀ record, op ≠ .unknown record
    · obtain ⟨gap, failed⟩ := lower_of_error applied inside known
      rw [h] at failed
      cases failed
    · push Not at known
      obtain ⟨record, rfl⟩ := known
      cases h
      intro mem
      have text := congrArg String.toList (List.mem_singleton.1 mem)
      simp [boundaryLine] at text
  · rw [lower_of_ok applied] at h
    cases h
    intro mem
    exact absurd (paren_mem_callLines mem) (by decide)

theorem boundaryLine_notMem_emit (context : Context) {step : Step} (inside : step.op ≠ .nextScene) :
    boundaryLine ∉ (emit context step).1 := by
  have marks : boundaryLine ∉ (if step.marks then [markLine] else []) := by
    split <;> decide
  unfold emit
  split
  · exact List.not_mem_nil
  · simp only
    rcases lowered : lower context step.op with gap | ⟨lines, after⟩
    · simpa [marks] using (comment_ne_boundaryLine gap step.op).symm
    · simpa [marks] using boundaryLine_notMem_lower inside lowered

/-- A script that has the line of a boundary is one of a list with a boundary. -/
theorem boundaryLine_notMem_lines {steps : List Step}
    (inside : ∀ step ∈ steps, step.op ≠ .nextScene) :
    ∀ ls ∈ lines steps, boundaryLine ∉ ls := by
  intro ls mem
  obtain ⟨i, at_⟩ := List.mem_iff_getElem?.1 mem
  rw [lines, getElem?_linesFrom, Option.map_eq_some_iff] at at_
  obtain ⟨step, at_, rfl⟩ := at_
  exact boundaryLine_notMem_emit _ (inside step (List.mem_of_getElem? at_))

end Script

namespace Scene

/-- No boundary is left in what a flat scene compiles to: an opening has none. -/
theorem inside_of_compile {language : String} {scene : Scene} {compiled : CompiledScene}
    (flat : scene.isSegmented = false) (compiles : scene.compile language = .ok compiled) :
    ∀ s ∈ compiled.segments, ∀ step ∈ s.segment.steps, step.op ≠ .nextScene := by
  intro s mem
  have normal : s.segment ∈ scene.normalSegments := by
    rw [← segments_of_compile compiles]
    exact List.mem_map_of_mem mem
  rw [normalSegments_eq_map, sourceSegments, flat] at normal
  obtain ⟨source, part, opened⟩ := List.mem_map.1 normal
  have inside := Step.inside_split part
  rw [← opened]
  rcases source.opened_eq_or with same | added
  · rwa [same]
  · have front : ∀ step ∈ opening, step.op ≠ .nextScene := by decide
    rw [added]
    intro step found
    exact (List.mem_append.1 found).elim (front step) (inside step)

/-- A flat list is cut at its boundaries, and at nothing else. There is a segment for each run of
steps between them, in their order, with the instructions of the run and no boundary. A mark in a
segment was there before, or is the one of the boundary in front, on the first step of the run that
is not blank. So neither a trace nor a script of a compiled flat scene reports a boundary. -/
theorem split_at_boundaries (steps : List Step) :
    (∃ runs, CutInto none steps runs ∧ List.Forall₂ Run.Becomes runs (Step.split steps)) ∧
      (Step.split steps).length = steps.countP (fun step => step.op = .nextScene) + 1 ∧
      (∀ segment ∈ Step.split steps, ∀ step ∈ segment.steps, step.op ≠ .nextScene) ∧
      ∀ (scene : Scene) (language : String) (compiled : CompiledScene),
        scene.steps = steps → scene.isSegmented = false →
        scene.compile language = .ok compiled → ∀ s ∈ compiled.segments,
          (∀ w ∈ (Trace.play s.segment.steps).warnings, w.fault ≠ .strayBoundary) ∧
            ∀ lines ∈ Script.lines s.segment.steps, "// [segment boundary]" ∉ lines := by
  obtain ⟨runs, cuts⟩ := exists_cutInto none steps
  refine ⟨⟨runs, cuts, ?_⟩, ?_, fun segment => Step.inside_split, ?_⟩
  · rw [cuts.split_eq, List.forall₂_map_right_iff, List.forall₂_same]
    exact fun run _ => run.becomes
  · rw [cuts.split_eq, List.length_map, cuts.length_eq]
  · intro scene language compiled _ flat compiles s mem
    have inside := inside_of_compile flat compiles s mem
    exact ⟨fun w => Trace.fault_ne_strayBoundary inside, Script.boundaryLine_notMem_lines inside⟩

/-- Boundaries with marks in front of blanks, of a step that has a mark, of another boundary and of
the end. -/
def flagged : Scene :=
  { id := "demo:flags"
    steps := [.ofOp (.showStructure none none none), ⟨true, .nextScene⟩, .blank,
      .ofOp (.idle (some 20)), .ofOp (.idle (some 40)), ⟨true, .nextScene⟩, ⟨false, .nextScene⟩,
      .ofOp .keyframe, ⟨true, .idle (some 5)⟩, ⟨true, .nextScene⟩] }

theorem split_at_boundaries_flagged :
    ∃ compiled, flagged.compile "en_us" = .ok compiled ∧ flagged.isSegmented = false ∧
      Step.split flagged.steps =
        [{ steps := [.ofOp (.showStructure none none none)] },
         { steps := [.blank, ⟨true, .idle (some 20)⟩, .ofOp (.idle (some 40))] },
         { steps := [] },
         { steps := [.ofOp .keyframe, ⟨true, .idle (some 5)⟩] },
         { steps := [] }] ∧
      compiled.segments.length = 5 ∧
      ∀ s ∈ compiled.segments,
        (∀ w ∈ (Trace.play s.segment.steps).warnings, w.fault ≠ .strayBoundary) ∧
          ∀ lines ∈ Script.lines s.segment.steps, "// [segment boundary]" ∉ lines :=
  ⟨_, rfl, rfl, by decide, rfl,
    (split_at_boundaries flagged.steps).2.2.2 flagged "en_us" _ rfl rfl rfl⟩

end Scene

end Storyboard
