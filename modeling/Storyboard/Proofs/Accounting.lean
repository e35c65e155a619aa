import Storyboard.Proofs.Script.Call
import Storyboard.Proofs.Trace

/-!
# Every step is accounted for

A trace counts each step that is not blank as applied, or warns of it. Its lines are those of the
steps, one step after the other: a mark for a point of the timeline, and a line for a call. A script
has lines for each step that is not blank.

## Main definitions

* `Event.call?`: the call that a step makes.
* `Trace.calls`: the step at an index makes a call, as far as the trace tells.
* `Adds`: where the lines of a step stand among those of all steps.

## Main statements

* `Stage.call?_event_eq_none_iff`: which steps make no call.
* `Trace.applied_add_warnings`: each step is applied, blank or left out.
* `Trace.length_lines`: there is a line for each mark and for each call.
* `Script.emit_eq_nil_iff`: only blank steps have no lines in a script.
* `steps_accounted`: all of this for whole segments.
-/

namespace Storyboard

variable {σ S : Type} {n : Naming σ S} {stage after : Stage σ S} {step : Step}

/-! ## Calls of steps -/

/-- Only blanks and key frames ask for no call. -/
theorem Op.call_eq_none_iff {op : Op} : op.call = .ok none ↔ op = .blank ∨ op = .keyframe := by
  cases op with
  | blank | keyframe => simp [Op.call, pure, Except.pure]
  | _ => simp [Op.call, bind_eq_ok_iff, pure, Except.pure]

theorem Stage.apply_eq_none_iff {op : Op} :
    stage.apply n op = .ok (none, after) ↔ (op = .blank ∨ op = .keyframe) ∧ after = stage := by
  rw [← Op.call_eq_none_iff, apply]
  rcases op.call with fault | (_ | (call | call))
  · simp
  · simp [eq_comm]
  · simp
  · rcases followed : stage.follow n call with fault | ⟨call, later⟩ <;> simp [followed]

/-- The call that a step makes. -/
def Event.call? (event : Event σ S) : Option (Call σ) :=
  event.result.toOption.join

/-- Blank steps, key frames and steps that are left out make no call. -/
theorem Stage.call?_event_eq_none_iff :
    (stage.event n step).call? = none ↔
      step.isBlank ∨ step.op = .keyframe ∨ ∃ fault, (stage.event n step).result = .error fault := by
  rw [Step.isBlank_iff, ← or_assoc]
  have none_iff : (step.op = .blank ∨ step.op = .keyframe) ↔
      stage.apply n step.op = .ok (none, stage) := by
    rw [apply_eq_none_iff, and_iff_left rfl]
  rw [none_iff]
  rcases applied : stage.apply n step.op with fault | ⟨_ | call, later⟩
  · simp [Event.call?, event, applied, Except.map]
  · obtain ⟨-, rfl⟩ := apply_eq_none_iff.1 applied
    simp [Event.call?, event, applied, Except.map]
  · simp [Event.call?, event, applied, Except.map]

/-! ## Traces -/

namespace Trace

/-- The lines of a step: a mark, then the line of its call. -/
theorem eventLines_event (stage : Stage Nat Nat) (step : Step) :
    eventLines (stage.event naming step) =
      (if step.isMarked then [markLine] else []) ++
        ((stage.event naming step).call?.map line).toList := by
  have same : (stage.event naming step).step = step := rfl
  rw [eventLines, same, Step.isMarked]
  cases blank : step.isBlank with
  | true => simp [Stage.call?_event_eq_none_iff.2 (.inl blank)]
  | false =>
    unfold Event.call?
    rcases (stage.event naming step).result with fault | (_ | call) <;> simp

/-- Each step is applied, blank or left out. -/
theorem applied_add_warnings (stage : Stage Nat Nat) (first : Nat) (steps : List Step) :
    (stage.run naming steps).countP isApplied +
        (warningsFrom first (stage.run naming steps)).length =
      steps.countP (!·.isBlank) := by
  induction steps generalizing stage first with
  | nil => rfl
  | cons step steps ih =>
    -- A step that is not blank adds to exactly one of the two numbers.
    have one : (if isApplied (stage.event naming step) then 1 else 0) +
        (warning? (stage.event naming step) first).toList.length =
          if !step.isBlank then 1 else 0 := by
      unfold isApplied warning?
      rcases applied : stage.apply naming step.op with fault | ⟨call, later⟩
      · simp [Stage.event, applied, Except.map, Step.isBlank_of_error applied]
      · cases blank : step.isBlank <;> simp [Stage.event, applied, Except.map, blank]
    rw [Stage.run_cons, warningsFrom_cons, List.countP_cons, List.countP_cons, List.length_append,
      ← ih (stage.after naming step.op) (first + 1), ← one]
    omega

/-- The numbers of warnings go up. -/
theorem pairwise_warningsFrom (first : Nat) (events : List (Event Nat Nat)) :
    (warningsFrom first events).Pairwise (·.index < ·.index) := by
  induction events generalizing first with
  | nil => exact .nil
  | cons event events ih =>
    rw [warningsFrom_cons, List.pairwise_append]
    refine ⟨?_, ih (first + 1), fun w here v there => ?_⟩
    · cases warning? event first <;> simp
    · have := index_of_warning? (Option.mem_toList.1 here)
      have := (index_bounds there).1
      omega

/-- There is a line for each mark and for each call. -/
theorem length_lines (stage : Stage Nat Nat) (steps : List Step) :
    ((stage.run naming steps).flatMap eventLines).length =
      steps.countP Step.isMarked + (stage.run naming steps).countP (·.call?.isSome) := by
  induction steps generalizing stage with
  | nil => rfl
  | cons step steps ih =>
    have one : (eventLines (stage.event naming step)).length =
        (if step.isMarked then 1 else 0) +
          if (stage.event naming step).call?.isSome then 1 else 0 := by
      rw [eventLines_event, List.length_append]
      congr 1
      · split <;> rfl
      · cases (stage.event naming step).call? <;> rfl
    rw [Stage.run_cons, List.flatMap_cons, List.length_append, ih, one, List.countP_cons,
      List.countP_cons]
    omega

/-! ### What a trace tells of calls -/

/-- The step at an index makes a call: it is neither blank nor a key frame, and the trace does not
warn of it. -/
def calls (trace : Trace) (step : Step) (i : Nat) : Bool :=
  !step.isBlank && step.op ≠ .keyframe && trace.warnings.all (·.index ≠ i)

variable {steps : List Step} {step : Step} {i : Nat}

theorem calls_eq (at_ : steps[i]? = some step) :
    (play steps).calls step i =
      (((Stage.start naming).afterAll naming (steps.take i)).event naming step).call?.isSome := by
  have warned := exists_warning_iff (getElem?_events at_)
  rw [Bool.eq_iff_iff, ← Option.ne_none_iff_isSome, Ne, Stage.call?_event_eq_none_iff, ← warned,
    calls]
  simp [and_assoc]

/-- The calls of a run are those that the trace tells of. -/
theorem countP_call? (steps : List Step) :
    (events steps).countP (·.call?.isSome) =
      steps.zipIdx.countP fun entry => (play steps).calls entry.1 entry.2 := by
  have all : events steps = steps.zipIdx.map fun entry =>
      ((Stage.start naming).afterAll naming (steps.take entry.2)).event naming entry.1 := by
    refine List.ext_getElem? fun i => ?_
    rw [events, Stage.getElem?_run, List.getElem?_map, List.getElem?_zipIdx, Option.map_map]
    simp [Function.comp_def]
  rw [all, List.countP_map]
  refine List.countP_congr fun entry mem => ?_
  rw [calls_eq (List.mem_zipIdx_iff_getElem?.1 mem)]
  rfl

end Trace

/-! ## Scripts -/

namespace Script

theorem plainLines_ne_nil (call : PlainCall) : plainLines call ≠ [] := by
  cases call <;> simp [plainLines]

theorem callLines_ne_nil (names : Names) (call : Call String) :
    callLines names (some call) ≠ [] := by
  cases call with
  | plain call => exact plainLines_ne_nil call
  | linked call => exact List.cons_ne_nil _ _

/-- Only blank steps have no lines. -/
theorem emit_eq_nil_iff {context : Context} {step : Step} :
    (emit context step).1 = [] ↔ step.isBlank := by
  constructor
  · intro none
    rcases applied : context.apply naming step.op with fault | ⟨_ | call, after⟩
    · obtain ⟨text, emitted⟩ := emit_of_error applied
      simp [emitted] at none
    · obtain ⟨blank | keyframe, -⟩ := Stage.apply_eq_none_iff.1 applied
      · exact Step.isBlank_iff.2 blank
      · -- A key frame has no line of its own, but it is marked.
        have marked : step.isMarked := by
          simp [Step.isMarked, Step.isBlank, Step.marks, keyframe]
        simp [emit_of_ok applied, marked] at none
    · simp [emit_of_ok applied, callLines_ne_nil] at none
  · intro blank
    simp [emit, blank]

end Script

/-! ## Segments -/

/-- Among the lines of some steps, those of one step follow the lines of the steps before it, and
the lines of the steps after it follow them. -/
def Adds (lines : List Step → List String) (before : List Step) (step : Step) (after : List Step)
    (own : List String) : Prop :=
  lines (before ++ [step]) = lines before ++ own ∧
    ∃ rest, lines (before ++ step :: after) = lines before ++ own ++ rest

theorem Trace.adds (before : List Step) (step : Step) (after : List Step) :
    Adds (fun steps => (play steps).lines) before step after
      (eventLines (((Stage.start naming).afterAll naming before).event naming step)) := by
  have cut (after : List Step) :
      (play (before ++ step :: after)).lines = (play before).lines ++
        eventLines (((Stage.start naming).afterAll naming before).event naming step) ++
        ((((Stage.start naming).afterAll naming before).after naming step.op).run naming
          after).flatMap eventLines := by
    simp only [play, events, Stage.run_append, Stage.run_cons, List.flatMap_append,
      List.flatMap_cons, List.append_assoc]
  exact ⟨(cut []).trans (List.append_nil _), _, cut after⟩

theorem Script.adds (before : List Step) (step : Step) (after : List Step) :
    Adds (fun steps => (lines steps).flatten) before step after
      (emit (contextAfter (.start naming) before) step).1 := by
  have cut (after : List Step) :
      (lines (before ++ step :: after)).flatten = (lines before).flatten ++
        (emit (contextAfter (.start naming) before) step).1 ++
        (linesFrom (emit (contextAfter (.start naming) before) step).2 after).flatten := by
    simp only [lines, linesFrom_append, linesFrom, List.flatten_append, List.flatten_cons,
      List.append_assoc]
  exact ⟨(cut []).trans (List.append_nil _), _, cut after⟩

/-- Every step of a segment is accounted for. In a trace, the steps that are applied and the
warnings are as many as the steps that are not blank; the numbers of the warnings go up, and each is
that of a step that is not blank and has the kind of the warning. There is a line for each mark and
for each step that makes a call, and a step has them in this order, behind the lines of the steps
before it. In a script, each step has its lines behind those of the steps before it, and only blank
steps have none. -/
theorem steps_accounted (steps : List Step) :
    let trace := Trace.play steps
    trace.applied + trace.warnings.length = steps.countP (!·.isBlank) ∧
    trace.warnings.Pairwise (·.index < ·.index) ∧
    (∀ w ∈ trace.warnings, ∃ step, steps[w.index]? = some step ∧ step.isBlank = false ∧
      w.kind = step.op.kindName) ∧
    trace.lines.length = steps.countP Step.isMarked +
      (steps.zipIdx.countP fun entry => trace.calls entry.1 entry.2) ∧
    ∀ before step after, steps = before ++ step :: after →
      (∃ event, (Trace.events steps)[before.length]? = some event ∧
        Adds (fun steps => (Trace.play steps).lines) before step after
          ((if step.isMarked then [Trace.markLine] else []) ++
            (event.call?.map Trace.line).toList) ∧
        event.call?.isSome = trace.calls step before.length) ∧
      ∃ own, Adds (fun steps => (Script.lines steps).flatten) before step after own ∧
        (own = [] ↔ step.isBlank) := by
  refine ⟨Trace.applied_add_warnings _ 0 steps, Trace.pairwise_warningsFrom 0 _, fun w mem => ?_,
    ?_, ?_⟩
  · obtain ⟨stage, step, at_, kind, failed⟩ := Trace.exists_step_of_warning mem
    exact ⟨step, at_, Step.isBlank_of_error failed, kind⟩
  · rw [← Trace.countP_call?]
    exact Trace.length_lines _ steps
  · rintro before step after rfl
    have at_ : (before ++ step :: after)[before.length]? = some step := by simp
    have lines := Trace.adds before step after
    rw [Trace.eventLines_event] at lines
    refine ⟨⟨_, Trace.getElem?_events at_, ?_, (Trace.calls_eq at_).symm⟩, _,
      Script.adds before step after, Script.emit_eq_nil_iff⟩
    rwa [List.take_left]

/-- Shows a block as a section of its own, does nothing, hides a section that is not there at a
marked point, and marks another point. -/
def lidWatched : List Step :=
  [⟨false, .showIndependentSection ⟨some noMotion, none⟩ (some (.known .down)) (some "lid")⟩,
   ⟨false, .blank⟩, ⟨true, .hideIndependentSection (some "base") none⟩, ⟨false, .keyframe⟩]

theorem steps_accounted_lidWatched :
    (Trace.play lidWatched).applied + (Trace.play lidWatched).warnings.length = 3 ∧
    (∃ w ∈ (Trace.play lidWatched).warnings, ∃ step, lidWatched[w.index]? = some step ∧
      step.isBlank = false ∧ w.kind = step.op.kindName) ∧
    (Trace.play lidWatched).lines.length = 3 ∧
    ∃ own, Adds (fun steps => (Script.lines steps).flatten) (lidWatched.take 2)
      ⟨true, .hideIndependentSection (some "base") none⟩ [⟨false, .keyframe⟩] own ∧ own ≠ [] := by
  obtain ⟨all, -, kinds, lines, cut⟩ := steps_accounted lidWatched
  obtain ⟨-, own, adds, blank⟩ := cut (lidWatched.take 2)
    ⟨true, .hideIndependentSection (some "base") none⟩ [⟨false, .keyframe⟩] rfl
  have warned : ⟨2, "hide_independent_section", .unlinked "base"⟩ ∈
      (Trace.play lidWatched).warnings := List.mem_singleton.2 rfl
  exact ⟨all, ⟨_, warned, kinds _ warned⟩, lines, own, adds, mt blank.1 (by decide)⟩

end Storyboard
