import Storyboard.Proofs.Script.Reading
import Storyboard.Proofs.Trace

/-!
# Traces and scripts agree

A trace and a script of the same steps leave out the same steps, mark the timeline at the same
steps, and know the same links all along.

## Main statements

* `Script.exists_gap_iff`: the steps that a script has nothing but a comment for.
* `trace_script_agree`: the agreement.
-/

namespace Storyboard

/-! ## Scripts -/

/-- The steps that are left out are those with a gap, boundaries and unknown steps. -/
theorem Script.exists_gap_iff (context : Script.Context) (op : Op) :
    ((∃ gap, Script.lower context op = .error gap) ∨ op = .nextScene ∨
        ∃ record, op = .unknown record) ↔
      ∃ fault, context.apply Script.naming op = .error fault := by
  constructor
  · intro gap
    rcases applied : context.apply Script.naming op with fault | ⟨call, after⟩
    · exact ⟨fault, rfl⟩
    · obtain ⟨gap, lowered⟩ | rfl | ⟨record, rfl⟩ := gap
      · simp [Script.lower_of_ok applied] at lowered
      · cases applied
      · cases applied
  · rintro ⟨fault, failed⟩
    by_contra none
    simp only [not_or, not_exists] at none
    obtain ⟨gap, lowered⟩ := Script.lower_of_error failed none.2.1 none.2.2
    exact none.1 gap lowered

/-! ## Both -/

/-- After any number of steps, a trace and a script of the same steps know the same links. The trace
leaves out the next step with a warning when the script has a gap for it, or when it is a boundary
or unknown. Both mark the timeline for it under one condition, once, and before everything else. -/
theorem trace_script_agree (steps : List Step) (i : Nat) :
    let stage := (Stage.start Trace.naming).afterAll Trace.naming (steps.take i)
    let context := Script.contextAfter (.start Script.naming) (steps.take i)
    stage.sections.map Prod.fst = context.sections.map Prod.fst ∧
      ∀ step, steps[i]? = some step →
        ((∃ w ∈ (Trace.play steps).warnings, w.index = i) ↔
          (∃ gap, Script.lower context step.op = .error gap) ∨ step.op = .nextScene ∨
            ∃ record, step.op = .unknown record) ∧
        (∃ event calls, (Trace.events steps)[i]? = some event ∧ event.before = stage ∧
          Trace.eventLines event = (if step.isMarked then [Trace.markLine] else []) ++ calls ∧
            Trace.markLine ∉ calls ∧
              ((∃ w ∈ (Trace.play steps).warnings, w.index = i) → calls = [])) ∧
        ∃ effect, (Script.lines steps)[i]? = some (Script.emit context step).1 ∧
          (Script.emit context step).1 =
              (if step.isMarked then [Script.markLine] else []) ++ effect ∧
            Script.markLine ∉ effect := by
  intro stage context
  have same : context = (Stage.start Script.naming).afterAll Script.naming (steps.take i) :=
    Script.contextAfter_eq _ _
  refine ⟨?_, fun step at_ => ?_⟩
  · rw [same]
    exact Stage.keys_afterAll _ _ _
  · have traced : (Trace.events steps)[i]? = some (stage.event Trace.naming step) := by
      rw [Trace.events, Stage.getElem?_run, at_]
      rfl
    have written : (Script.lines steps)[i]? = some (Script.emit context step).1 := by
      rw [Script.lines, Script.getElem?_linesFrom, at_]
      rfl
    have failed : (∃ fault, (stage.event Trace.naming step).result = .error fault) ↔
        ∃ fault, stage.apply Trace.naming step.op = .error fault := by
      unfold Stage.event
      cases stage.apply Trace.naming step.op <;> simp [Except.map]
    have warned := Trace.exists_warning_iff traced
    obtain ⟨calls, lines, once, skipped⟩ := Trace.exists_calls (stage.event Trace.naming step)
    obtain ⟨effect, emitted, once'⟩ := Script.exists_effect context step
    refine ⟨?_, ⟨_, calls, traced, rfl, lines, once, ?_⟩, effect, written, emitted, once'⟩
    · rw [warned, failed, Script.exists_gap_iff, same]
      exact Stage.exists_apply_error_iff _ _ _ _
    · intro warning
      obtain ⟨fault, failed⟩ := warned.1 warning
      exact skipped fault failed

/-- Shows a block as a section of its own, then hides a section that is not there. -/
def strayHide : List Step :=
  [⟨true, .showIndependentSection ⟨some noMotion, none⟩ (some (.known .down)) (some "lid")⟩,
   ⟨true, .hideIndependentSection (some "base") none⟩]

theorem trace_script_agree_strayHide :
    strayHide[1]? = some ⟨true, .hideIndependentSection (some "base") none⟩ ∧
      (∃ w ∈ (Trace.play strayHide).warnings, w.index = 1) ∧
        (Script.lines strayHide)[1]? =
          some ["scene.addKeyframe();", "// [unlinked base] hide_independent_section"] := by
  obtain ⟨warned, -, effect, written, -⟩ := (trace_script_agree strayHide 1).2 _ rfl
  exact ⟨rfl, warned.2 (.inl ⟨.unlinked "base", by rfl⟩), written.trans (by rfl)⟩

end Storyboard
