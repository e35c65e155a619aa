import Storyboard.Proofs.Script.Agreement

/-!
# Steps that are left out

A step that is left out does nothing to the steps around it. A trace and a script of the other steps
are the same with it and without it, down to the numbers and the variables of sections; all that it
adds stands in its own place.

## Main definitions

* `Warning.movedFrom`: a warning when one more step stands at a place.

## Main statements

* `Stage.run_of_error`: what a run does around a step that is left out.
* `Trace.lines_of_error`, `Trace.warnings_of_error`, `Script.lines_of_error`: what such a step adds.
* `skipped_step_frame`: all of this for the steps that a trace warns of.
-/

namespace Storyboard

/-! ## Runs -/

section Run

variable {σ S : Type} {n : Naming σ S} {stage : Stage σ S} {step : Step} {fault : Fault}

theorem Stage.after_of_error (h : stage.apply n step.op = .error fault) :
    stage.after n step.op = stage := by
  rw [after, h]

/-- Neither blanks nor key frames are left out, so only the flag of the step marks the timeline. -/
theorem Step.isMarked_of_error (h : stage.apply n step.op = .error fault) :
    step.isMarked = step.keyframe := by
  unfold isMarked isBlank marks
  cases op : step.op with
  | blank | keyframe =>
    rw [op] at h
    cases h
  | _ => simp

/-- The event of a step that is left out comes in between, and the other events stay as they are. -/
theorem Stage.run_of_error {before : List Step} (after : List Step)
    (h : (stage.afterAll n before).apply n step.op = .error fault) :
    stage.run n (before ++ step :: after) =
      stage.run n before ++
        ⟨stage.afterAll n before, step, .error fault⟩ :: (stage.afterAll n before).run n after := by
  have event : (stage.afterAll n before).event n step =
      ⟨stage.afterAll n before, step, .error fault⟩ := by
    rw [Stage.event, h]
    rfl
  rw [run_append, ← event, run, after_of_error h]
  rfl

end Run

/-! ## Traces -/

/-- The warning, one place later unless its step is before `place`. -/
def Warning.movedFrom (place : Nat) (w : Warning) : Warning :=
  if w.index < place then w else { w with index := w.index + 1 }

namespace Trace

section Moving

variable {first place : Nat} {events : List (Event Nat Nat)}

theorem map_movedFrom_of_le (le : place ≤ first) :
    (warningsFrom first events).map (·.movedFrom place) = warningsFrom (first + 1) events := by
  induction events generalizing first with
  | nil => rfl
  | cons event events ih =>
    have moved : (warning? event first).map (·.movedFrom place) = warning? event (first + 1) := by
      unfold warning?
      cases event.result with
      | ok _ => rfl
      | error fault => simp [Warning.movedFrom, le]
    rw [warningsFrom_cons, warningsFrom_cons, List.map_append, ih (by omega), ← moved,
      Option.toList_map]

theorem map_movedFrom_of_ge (ge : first + events.length ≤ place) :
    (warningsFrom first events).map (·.movedFrom place) = warningsFrom first events := by
  refine (List.map_congr_left fun w mem => ?_).trans (List.map_id' _)
  have lt := (index_bounds mem).2
  rw [Warning.movedFrom, if_pos (by omega)]

end Moving

section Skipped

variable {before : List Step} {step : Step} {fault : Fault}
  (failed : ((Stage.start naming).afterAll naming before).apply naming step.op = .error fault)
include failed

theorem events_of_error (after : List Step) :
    ∃ event later, event.step = step ∧ event.result = .error fault ∧
      events (before ++ after) = events before ++ later ∧
      events (before ++ step :: after) = events before ++ event :: later :=
  ⟨_, _, rfl, rfl, Stage.run_append _ _ _ _, Stage.run_of_error after failed⟩

/-- A step that is left out adds at most a mark to the lines. -/
theorem lines_of_error (after : List Step) :
    ∃ lines, (play (before ++ after)).lines = (play before).lines ++ lines ∧
      (play (before ++ step :: after)).lines =
        (play before).lines ++ (if step.keyframe then [markLine] else []) ++ lines := by
  obtain ⟨event, later, rfl, result, rest, whole⟩ := events_of_error failed after
  obtain ⟨calls, marked, -, none⟩ := exists_calls event
  rw [none fault result, List.append_nil, Step.isMarked_of_error failed] at marked
  refine ⟨later.flatMap eventLines, ?_, ?_⟩
  · simp only [play, rest, List.flatMap_append]
  · simp only [play, whole, List.flatMap_append, List.flatMap_cons, marked, List.append_assoc]

theorem applied_of_error (after : List Step) :
    (play (before ++ step :: after)).applied = (play (before ++ after)).applied := by
  obtain ⟨event, later, -, result, rest, whole⟩ := events_of_error failed after
  simp [play, rest, whole, isApplied, result]

/-- A step that is left out adds one warning, and moves those of the steps after it. -/
theorem warnings_of_error (after : List Step) :
    ∃ earlier later w,
      (play (before ++ after)).warnings.map (·.movedFrom before.length) = earlier ++ later ∧
      (play (before ++ step :: after)).warnings = earlier ++ w :: later ∧
      w = ⟨before.length, step.op.kindName, fault⟩ ∧
      (∀ v ∈ earlier, v.index < before.length) ∧ ∀ v ∈ later, before.length < v.index := by
  obtain ⟨event, later, rfl, result, rest, whole⟩ := events_of_error failed after
  have length : (events before).length = before.length := Stage.length_run _ _ _
  have warned : warning? event before.length =
      some ⟨before.length, event.step.op.kindName, fault⟩ := by
    rw [warning?, result]
  refine ⟨warningsFrom 0 (events before), warningsFrom (before.length + 1) later, _, ?_, ?_, rfl,
    ?_, ?_⟩
  · rw [warnings_play, rest, warningsFrom_append, length, List.map_append,
      map_movedFrom_of_ge (by omega), map_movedFrom_of_le (by omega), Nat.zero_add]
  · rw [warnings_play, whole, warningsFrom_append, length, warningsFrom_cons, Nat.zero_add, warned]
    rfl
  · intro v mem
    have := (index_bounds mem).2
    omega
  · intro v mem
    exact (index_bounds mem).1

end Skipped

end Trace

/-! ## Scripts -/

/-- A step that is left out adds a comment behind its mark, if it has one. -/
theorem Script.lines_of_error {before : List Step} {step : Step} {fault : Fault}
    (failed : ((Stage.start naming).afterAll naming before).apply naming step.op = .error fault)
    (after : List Step) :
    ∃ text more, lines (before ++ after) = lines before ++ more ∧
      lines (before ++ step :: after) = lines before ++
        ((if step.keyframe then [markLine] else []) ++ ["// " ++ text]) :: more := by
  rw [← contextAfter_eq] at failed
  obtain ⟨text, emitted⟩ := emit_of_error failed
  rw [Step.isMarked_of_error failed] at emitted
  refine ⟨text, linesFrom (contextAfter (.start naming) before) after, linesFrom_append _ _ _, ?_⟩
  rw [lines, linesFrom_append, linesFrom, emitted]
  rfl

/-! ## Both -/

/-- A step that the trace warns of does nothing to the other steps. The lines of the trace are those
of the other steps, with a mark in its place if the step has one. The warnings are those of the
other steps, moved by one place from its own place on, with one for the step between them. The lines
of the script are those of the other steps, with a comment in its place, and a mark before it if the
step has one. -/
theorem skipped_step_frame {before after : List Step} {step : Step}
    (skipped : ∃ w ∈ (Trace.play (before ++ step :: after)).warnings, w.index = before.length) :
    let whole := Trace.play (before ++ step :: after)
    let rest := Trace.play (before ++ after)
    (∃ lines, rest.lines = (Trace.play before).lines ++ lines ∧
      whole.lines =
        (Trace.play before).lines ++ (if step.keyframe then [Trace.markLine] else []) ++ lines) ∧
    (∃ earlier later w, rest.warnings.map (·.movedFrom before.length) = earlier ++ later ∧
      whole.warnings = earlier ++ w :: later ∧ w.index = before.length ∧
      w.kind = step.op.kindName ∧ (∀ v ∈ earlier, v.index < before.length) ∧
      ∀ v ∈ later, before.length < v.index) ∧
    whole.applied = rest.applied ∧
    ∃ text more, Script.lines (before ++ after) = Script.lines before ++ more ∧
      Script.lines (before ++ step :: after) = Script.lines before ++
        ((if step.keyframe then [Script.markLine] else []) ++ ["// " ++ text]) :: more := by
  intro whole rest
  have event := Stage.getElem?_run Trace.naming (.start Trace.naming) (before ++ step :: after)
    before.length
  simp only [List.getElem?_append_right (Nat.le_refl _), Nat.sub_self, List.getElem?_cons_zero,
    List.take_left, Option.map_some] at event
  obtain ⟨fault, result⟩ := (Trace.exists_warning_iff event).1 skipped
  have traced := Stage.event_result_eq_error_iff.1 result
  obtain ⟨_, scripted⟩ :=
    (Stage.exists_apply_error_iff Trace.naming Script.naming before step.op).1 ⟨fault, traced⟩
  obtain ⟨earlier, later, w, moved, warnings, rfl, bounds⟩ := Trace.warnings_of_error traced after
  exact ⟨Trace.lines_of_error traced after, ⟨earlier, later, _, moved, warnings, rfl, rfl, bounds⟩,
    Trace.applied_of_error traced after, Script.lines_of_error scripted after⟩

/-- Shows a block as a section of its own. -/
def lidShown : Step :=
  ⟨false, .showIndependentSection ⟨some noMotion, none⟩ (some (.known .down)) (some "lid")⟩

/-- Hides the section with a link, at a marked point of the timeline. -/
def hides (link : String) : Step :=
  ⟨true, .hideIndependentSection (some link) none⟩

theorem skipped_step_frame_stray :
    (∃ w ∈ (Trace.play ([lidShown] ++ hides "base" :: [hides "lid"])).warnings, w.index = 1) ∧
      (Trace.play ([lidShown] ++ hides "base" :: [hides "lid"])).lines =
        (Trace.play [lidShown]).lines ++ [Trace.markLine] ++
          [Trace.markLine, "hide_independent_section(#0, up)"] := by
  have skipped : ∃ w ∈ (Trace.play ([lidShown] ++ hides "base" :: [hides "lid"])).warnings,
      w.index = [lidShown].length :=
    ⟨⟨1, "hide_independent_section", .unlinked "base"⟩, List.mem_singleton.2 rfl, rfl⟩
  obtain ⟨⟨lines, rest, whole⟩, -⟩ := skipped_step_frame skipped
  have alone : (Trace.play ([lidShown] ++ [hides "lid"])).lines =
      (Trace.play [lidShown]).lines ++ [Trace.markLine, "hide_independent_section(#0, up)"] := by
    rfl
  obtain rfl := List.append_cancel_left (alone.symm.trans rest)
  exact ⟨skipped, whole⟩

end Storyboard
