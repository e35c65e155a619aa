import Storyboard.Call.Link
import Storyboard.Proofs.Outcome

/-!
# Checks without their words

A check passes or fails for its field alone: each back end reports a failure in its own words, but
the value that a check gives is the same for all of them.

## Main definitions

* `Step.isMarked`: the timeline is marked for a step, whatever its checks say.

## Main statements

* `Check.toOption_need`, …: the value of each check, with no mention of a report.
* `Stage.toOption_apply`: the call of an instruction, from its checks and its link.
-/

namespace Storyboard

/-- A point of the timeline is marked for the step; a blank step is passed over. -/
def Step.isMarked (step : Step) : Bool :=
  !step.isBlank && step.marks

theorem Step.isBlank_iff {step : Step} : step.isBlank ↔ step.op = .blank := by
  unfold isBlank
  cases step.op <;> simp

namespace Check

variable {ε α : Type} [Report ε]

@[simp] theorem toOption_need (field : String) (value : Option α) :
    (need field value : Except ε α).toOption = value := by
  cases value <;> rfl

@[simp] theorem toOption_identifier (field value : String) :
    (identifier field value : Except ε Identifier).toOption =
      (Identifier.parse value).toOption := by
  unfold identifier
  cases Identifier.parse value <;> rfl

@[simp] theorem toOption_neededIdentifier (field : String) (value : Option String) :
    (neededIdentifier field value : Except ε Identifier).toOption =
      value.bind fun value => (Identifier.parse value).toOption := by
  cases value with
  | none => rfl
  | some value => exact toOption_identifier field value

@[simp] theorem toOption_optionalIdentifier (field : String) (value : Option String) :
    (optionalIdentifier field value : Except ε (Option Identifier)).toOption =
      value.elim (some none) fun value => (Identifier.parse value).toOption.map some := by
  cases value with
  | none => rfl
  | some value => simp [optionalIdentifier]

/-- The word of a keyword field, if it is one. -/
def word? : Option (Keyword α) → Option (Option α)
  | none => some none
  | some (.known a) => some (some a)
  | some (.raw _) => none

@[simp] theorem toOption_word (field : String) (value : Option (Keyword α)) :
    (word field value : Except ε (Option α)).toOption = word? value := by
  rcases value with _ | (_ | _) <;> rfl

@[simp] theorem toOption_neededDirection (direction : Option (Keyword Direction)) :
    (neededDirection direction : Except ε Direction).toOption = (word? direction).bind id := by
  simp only [neededDirection, toOption_bind, toOption_word, toOption_need]
  rfl

@[simp] theorem toOption_duration (ticks : Option Int32) :
    (duration ticks : Except ε Nat).toOption = ticks.map (·.toInt.toNat) := by
  simp [duration]

@[simp] theorem toOption_selection (area : Area) :
    (selection area : Except ε Selection).toOption = area.selection? := by
  simp [selection]

@[simp] theorem toOption_block (pos : Option Vec3) :
    (block pos : Except ε BlockPos).toOption = pos.map Vec3.block := by
  simp [block]

@[simp] theorem toOption_patch (nbt : String) :
    (patch nbt : Except ε Tag).toOption = (Tag.parse nbt).toOption := by
  unfold patch
  cases Tag.parse nbt <;> rfl

@[simp] theorem toOption_style (caption : Caption) :
    (style caption : Except ε TextStyle).toOption =
      (word? caption.color).map fun color => ⟨color, caption.nearTarget.getD false⟩ := by
  simp [style]

@[simp] theorem toOption_state (placement : Placement) :
    (state placement : Except ε BlockState).toOption =
      (placement.block.bind fun block => (Identifier.parse block).toOption).map fun block =>
        ⟨block, placement.properties.getD .empty⟩ := by
  simp [state]

@[simp] theorem toOption_scope (area : Area) (fullScene : Option Bool) :
    (scope area fullScene : Except ε Scope).toOption =
      if fullScene = some true then some .scene else area.selection?.map .region := by
  unfold scope
  split <;> simp

end Check

namespace Stage

variable {σ S ε : Type} [Report ε]

@[simp] theorem toOption_find (stage : Stage σ S) (link : Link) :
    (stage.find link : Except ε σ).toOption = stage.find? link := by
  unfold find
  cases stage.find? link <;> rfl

/-- What a checked call does on a stage. -/
def settle (n : Naming σ S) (stage : Stage σ S) :
    Option (Call Link) → Option (Option (Call σ) × Stage σ S)
  | none => some (none, stage)
  | some (.plain call) => some (some (.plain call), stage)
  | some (.linked call) =>
    (stage.follow n call).toOption.map fun (call, stage) => (some (.linked call), stage)

theorem toOption_apply (n : Naming σ S) (stage : Stage σ S) (op : Op) :
    (stage.apply n op).toOption = op.call.toOption.bind (stage.settle n) := by
  unfold apply
  rcases op.call with fault | (_ | (call | call))
  · rfl
  · rfl
  · rfl
  · simp only [toOption_ok, Option.bind_some, settle]
    cases stage.follow n call <;> rfl

end Stage

/-- A step that is left out is not blank. -/
theorem Step.isBlank_of_error {σ S : Type} {n : Naming σ S} {stage : Stage σ S} {step : Step}
    {fault : Fault} (h : stage.apply n step.op = .error fault) : step.isBlank = false := by
  rw [← Bool.not_eq_true, isBlank_iff]
  intro blank
  rw [blank] at h
  cases h

end Storyboard
