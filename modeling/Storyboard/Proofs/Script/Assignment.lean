import Storyboard.Proofs.Script.Reading
import Storyboard.Proofs.Trace

/-!
# Variables hold the sections of the trace

Where a trace uses a section by its number, the script of the same steps uses a variable. The step
that made this section is the one that assigned the variable last.

## Main definitions

* `Script.assigned`, `Script.used`: the variables in the lines of a step.

## Main statements

* `Script.assigned_eq`, `Script.used_eq`: variables call sections by their histories.
* `exists_last_assignment`: the step that made a section and assigned its variable.
-/

namespace Storyboard

open Naming (Making)

/-! ## Scripts -/

namespace Script

/-- The variables that the lines of the step at an index assign. -/
def assigned (steps : List Step) (i : Nat) : List String :=
  ((lines steps)[i]?.getD []).filterMap assigned?

/-- The variables that the lines of the step at an index hand over as sections. -/
def used (steps : List Step) (i : Nat) : List String :=
  ((lines steps)[i]?.getD []).filterMap used?

variable (steps : List Step) (i : Nat)

/-- The context before the step at an index calls sections by their histories. -/
theorem contextAfter_eq_map :
    contextAfter (.start naming) (steps.take i) =
      (Makings.stage steps i).map naming.name naming.state :=
  (contextAfter_eq _ _).trans (Stage.afterAll_eq_map_history naming _)

/-- What a reader that passes over marks and plain lines finds in the lines of the step at an
index. -/
theorem filterMap_lines {f : String → Option String} (mark : f markLine = none)
    (plain : ∀ line, IsPlain line → f line = none) :
    ((lines steps)[i]?.getD []).filterMap f =
      (((Makings.events steps)[i]?.bind Event.linked?).bind fun call =>
        f (linkedLine (naming.state (Makings.stage steps i).names)
          (call.map naming.name))).toList := by
  rw [lines, getElem?_linesFrom, Makings.getElem?_events]
  cases steps[i]? with
  | none => rfl
  | some step =>
    rw [Option.map_some, Option.getD_some, filterMap_emit mark plain, contextAfter_eq_map,
      Stage.event_map naming.maps_history, Event.linked?_map, Option.bind_map]
    rfl

theorem isVariable_target_map (call : LinkedCall Making) :
    IsVariable (call.map naming.name).target := by
  rw [LinkedCall.target_map]
  exact isVariable_name _

theorem assigned_eq : assigned steps i = ((Makings.made? steps i).map naming.name).toList := by
  rw [assigned, filterMap_lines steps i (by decide) fun line => IsPlain.assigned?_eq_none]
  simp only [assigned?_linkedLine (isVariable_target_map _), LinkedCall.makes_map,
    LinkedCall.target_map, Makings.made?, Event.made?, Option.bind_assoc, Option.map_bind,
    Function.comp_def, apply_ite (Option.map naming.name), Option.map_some, Option.map_none]

theorem used_eq : used steps i = ((Makings.used? steps i).map naming.name).toList := by
  rw [used, filterMap_lines steps i (by decide) fun line => IsPlain.used?_eq_none]
  simp only [used?_linkedLine (isVariable_target_map _), LinkedCall.makes_map,
    LinkedCall.target_map, Makings.used?, Event.used?, Option.bind_assoc, Option.map_bind,
    Function.comp_def, apply_ite (Option.map naming.name), Option.map_some, Option.map_none]

end Script

/-! ## Both -/

/-- A step about a section that is not left out and makes none uses the section with some number
`k`, and has one variable for it in its lines. The step that made this section is the only one to
make it, comes before, and is the last one that made a section under the same key. It assigned the
variable, and no line since has done so. -/
theorem exists_last_assignment {steps : List Step} {j : Nat} {key : String}
    (about : keyAt steps j = some key) (applied : ∀ w ∈ (Trace.play steps).warnings, w.index ≠ j)
    (consumes : Trace.made? steps j = none) :
    ∃ i k x, i < j ∧ Trace.used? steps j = some k ∧ Trace.made? steps i = some k ∧
      (∀ m, Trace.made? steps m = some k → m = i) ∧ keyAt steps i = some key ∧
      (∀ m, i < m → m < j → (Trace.made? steps m).isSome → keyAt steps m ≠ some key) ∧
      Script.used steps j = [x] ∧ Script.assigned steps i = [x] ∧
      ∀ m, i < m → m ≤ j → x ∉ Script.assigned steps m := by
  obtain ⟨k, usesK⟩ := Trace.exists_used about applied consumes
  obtain ⟨used, uses, rfl⟩ := Option.map_eq_some_iff.1 ((Trace.used?_eq steps j).symm.trans usesK)
  obtain ⟨i, lt, makes, keyJ, since⟩ := Makings.exists_maker uses
  obtain rfl : key = linkKey used.2 := Option.some.inj (about.symm.trans keyJ)
  have makesK : Trace.made? steps i = some used.1.length := by
    rw [Trace.made?_eq, makes]
    rfl
  refine ⟨i, _, Script.naming.name used, lt, usesK, makesK, ?_, ?_, ?_, ?_, ?_, ?_⟩
  · exact fun m makes' => Trace.made?_inj makes' makesK
  · exact (Makings.stage_succ_of_made makes).1
  · intro m after before making
    rw [Trace.made?_eq, Option.isSome_map, Option.isSome_iff_exists] at making
    obtain ⟨other, makes'⟩ := making
    rw [(Makings.stage_succ_of_made makes').1]
    exact fun same => since m after before other makes' (Option.some.inj same)
  · rw [Script.used_eq, uses]
    rfl
  · rw [Script.assigned_eq, makes]
    rfl
  · intro m after upto assigned
    rw [Script.assigned_eq, Option.mem_toList, Option.map_eq_some_iff] at assigned
    obtain ⟨other, makes', same⟩ := assigned
    rcases Nat.lt_or_eq_of_le upto with before | rfl
    · -- Only a section of the same named link may take over the variable.
      have later := Makings.concat_prefix_of_made after makes makes'
      obtain ⟨name, link, link'⟩ := Script.link_eq_of_name_eq later same.symm
      exact since m after before other makes' (by rw [link, link'])
    · rw [Makings.made?_eq_none_of_used uses] at makes'
      cases makes'

/-- Two sections under one key, the second of which is hidden: a section without a link goes by the
name of the default link. -/
def renewed : List Step :=
  [⟨false, .showIndependentSection ⟨some noMotion, none⟩ (some (.known .down)) none⟩,
   ⟨false, .showIndependentSection ⟨some noMotion, none⟩ (some (.known .down)) (some "default")⟩,
   ⟨false, .hideIndependentSection none none⟩]

theorem exists_last_assignment_renewed :
    Trace.used? renewed 2 = some 1 ∧
      ∃ x, Script.used renewed 2 = [x] ∧ Script.assigned renewed 1 = [x] := by
  have quiet : (Trace.play renewed).warnings = [] := by rfl
  have about : keyAt renewed 2 = some "default" := by rfl
  have consumes : Trace.made? renewed 2 = none := by rfl
  obtain ⟨i, k, x, -, uses, -, only, -, -, used, assigned, -⟩ :=
    exists_last_assignment about (by simp [quiet]) consumes
  have number : Trace.used? renewed 2 = some 1 := by rfl
  obtain rfl : k = 1 := Option.some.inj (uses.symm.trans number)
  obtain rfl : 1 = i := only 1 (by rfl)
  exact ⟨number, x, used, assigned⟩

end Storyboard
