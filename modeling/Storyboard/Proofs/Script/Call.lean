import Storyboard.Proofs.Call.Check
import Storyboard.Proofs.Call.Naming
import Storyboard.Proofs.Tag.Word
import Storyboard.Script.Line

/-!
# Scripts write calls

A script checks a step by itself, in an order of its own, and writes its lines at once. The lines
are those of the call that the step asks for, and there are some whenever there is a call.

## Main definitions

* `Script.isPlaceChar`: the characters of places.
* `Script.callLines`: the lines of a call, with variables for sections.

## Main statements

* `Script.all_selectionText`: the characters of a selection.
* `Script.toOption_lower`: the lines of an instruction are those of its call.
* `Script.emit_snd`: a step changes the variables of links as its call does.
-/

namespace Storyboard.Script

open Vocabulary (spelling)

/-! ## Places -/

/-- A character of words, a bracket around arguments, a comma or a space. -/
def isPlaceChar (c : Char) : Bool :=
  Token.isWordChar c || c = '(' || c = ')' || c = ',' || c = ' '

theorem all_intText (n : Int32) : (intText n).toList.all isPlaceChar := by
  rw [intText, String.toList_ofList, List.all_eq_true]
  intro c mem
  simp [isPlaceChar, (Token.isWord_writeInt n.toInt).2 c mem]

theorem all_pos (p : BlockPos) : p.text.toList.all isPlaceChar := by
  have comma : ", ".toList.all isPlaceChar := by decide
  simp only [BlockPos.text, String.toList_append, List.all_append, all_intText, comma,
    Bool.and_true]

theorem all_selectionText (blocks : Selection) : (selectionText blocks).toList.all isPlaceChar := by
  have words : "util.select.position(".toList.all isPlaceChar ∧
      "util.select.fromTo(".toList.all isPlaceChar ∧ ", ".toList.all isPlaceChar ∧
      ")".toList.all isPlaceChar := by decide
  unfold selectionText
  cases blocks <;>
    simp only [String.toList_append, List.all_append, all_pos, words, Bool.and_true]

/-! ## Lines of calls -/

/-- The last argument that turns a new entity. -/
def facingText : Facing → String
  | .usual => turnText none none none
  | .angles yaw pitch => turnText none (some yaw) (some pitch)
  | .lookAt target => turnText (some target) none none

/-- The line that sets blocks. -/
def placing (state : BlockState) (particles : Bool) : Selection → String
  | .single block =>
    statement "scene.world.setBlock" [blockText block, quoted state.text, flagText particles]
  | blocks =>
    statement "scene.world.setBlocks" [selectionText blocks, quoted state.text, flagText particles]

/-- The line that removes entities. -/
def clearing (name : String) (filter : Option Identifier) : Scope → String
  | .scene => statement name (filter.map fun id => quoted id.text).toList
  | .region blocks =>
    statement (name ++ "Inside")
      (selectionText blocks :: (filter.map fun id => quoted id.text).toList)

/-- The lines of a call that concerns no independent section. -/
def plainLines : PlainCall → List String
  | .showStructure height scale =>
    statement "scene.showStructure" (height.map intText).toList ::
      (scale.map fun s => statement "scene.scaleSceneView" [numberText s]).toList
  | .idle ticks =>
    [if 0 < ticks ∧ ticks % ticksPerSecond = 0 then
        statement "scene.idleSeconds" [toString (ticks / ticksPerSecond)]
      else statement "scene.idle" [toString ticks]]
  | .showText ticks words point style =>
    [invocation "scene.text" [toString ticks, quoted words, pointText point] ++
      styleText style.color (some style.nearTarget) ++ ";"]
  | .showSharedText ticks key point style =>
    [invocation "scene.sharedText" [toString ticks, quoted key, pointText point] ++
      styleText style.color (some style.nearTarget) ++ ";"]
  | .rotateCamera degrees => [statement "scene.rotateCameraY" [numberText degrees]]
  | .showControls ticks point direction action item =>
    [invocation "scene.showControls"
        [toString ticks, pointText point, quoted (spelling direction)] ++
      (action.map actionText).getD "" ++
      (item.map fun id => invocation ".withItem" [quoted id.text]).getD "" ++ ";"]
  | .playSound sound source volume pitch =>
    [statement "scene.playSound"
      [quoted sound.text, quoted (spelling source), numberText volume, numberText pitch]]
  | .setBlocks blocks state particles => [placing state particles blocks]
  | .destroyBlock block particles =>
    [if particles then statement "scene.world.destroyBlock" [blockText block]
      else statement "scene.world.setBlock" [blockText block, quoted "minecraft:air", "false"]]
  | .replaceBlocks blocks state particles =>
    [statement "scene.world.replaceBlocks"
      [selectionText blocks, quoted state.text, flagText particles]]
  | .showSection blocks direction =>
    [statement "scene.world.showSection" [selectionText blocks, directionText direction]]
  | .hideSection blocks direction =>
    [statement "scene.world.hideSection" [selectionText blocks, directionText direction]]
  | .modifyBlockEntity blocks patch redraw =>
    [statement "scene.world.modifyBlockEntityNBT"
      [selectionText blocks, flagText redraw,
       "(nbt) => \x7b nbt.merge(NBT.toTagCompound(" ++ quoted patch.text ++ ")); \x7d"]]
  | .createEntity entity pos facing =>
    [statement "scene.world.createEntity"
      [quoted entity.text, pointText pos ++ facingText facing]]
  | .createItemEntity item pos motion count =>
    [statement "scene.world.createItemEntity"
      [pointText pos, "util.vector.of(" ++ motion.text ++ ")",
       invocation "Item.of" [quoted item.text, toString count]]]
  | .clearEntities filter scope => [clearing "scene.world.removeEntities" filter scope]
  | .clearItemEntities filter scope => [clearing "scene.world.removeItems" filter scope]
  | .showOutline color blocks ticks =>
    [statement "scene.overlay.showOutline"
      [colorText color, quoted "outline", selectionText blocks, toString ticks]]
  | .toggleRedstonePower blocks =>
    [unsupported (statement "scene.world.toggleRedstonePower" [selectionText blocks])]
  | .indicateRedstone block =>
    [unsupported (statement "scene.effects.indicateRedstone" [blockText block])]
  | .indicateSuccess block =>
    [unsupported (statement "scene.effects.indicateSuccess" [blockText block])]

/-- The start of an assignment, which declares a variable the first time. -/
def assignment (names : Names) (target : String) : String :=
  (if names.declared.contains target then "" else "let ") ++ target ++ " = "

/-- The line of a call that makes or uses an independent section. -/
def linkedLine (names : Names) : LinkedCall String → String
  | .detach blocks direction target =>
    assignment names target ++
      statement "scene.world.showIndependentSection" [selectionText blocks, directionText direction]
  | .merge blocks direction target =>
    statement "scene.world.showSectionAndMerge"
      [selectionText blocks, directionText direction, target]
  | .hide target direction =>
    statement "scene.world.hideIndependentSection" [target, directionText direction]
  | .rotate target rotation ticks =>
    statement "scene.world.rotateSection"
      [target, numberText rotation.x, numberText rotation.y, numberText rotation.z, toString ticks]
  | .move target offset ticks =>
    statement "scene.world.moveSection" [target, pointText offset, toString ticks]

/-- The lines of a call, if there is one, after the given variables have been assigned. -/
def callLines (names : Names) : Option (Call String) → List String
  | none => []
  | some (.plain call) => plainLines call
  | some (.linked call) => [linkedLine names call]

/-! ## Instructions -/

theorem turnText_eq (lookAt : Option Vec3) (yaw pitch : Option Double) :
    turnText lookAt yaw pitch = facingText (facing yaw pitch lookAt) := by
  cases lookAt <;> cases yaw <;> cases pitch <;> rfl

theorem styleText_getD (color : Option Palette) (nearTarget : Option Bool) :
    styleText color (some (nearTarget.getD false)) = styleText color nearTarget := by
  cases nearTarget <;> simp [styleText]

@[simp] theorem toOption_clear (name : String) (filter : Option Identifier) (area : Area)
    (fullScene : Option Bool) :
    (clear name filter area fullScene).toOption =
      (if fullScene = some true then some .scene else area.selection?.map .region).map
        (clearing name filter) := by
  unfold clear
  split
  · rfl
  · simp [clearing, Function.comp_def]

/-- The lines of a checked call, and the context after it. -/
def written (context : Context) (call : Option (Call Link)) : Option (List String × Context) :=
  (context.settle naming call).map fun (call, after) => (callLines context.names call, after)

theorem written_plain (context : Context) (call : PlainCall) :
    written context (some (.plain call)) = some (plainLines call, context) :=
  rfl

theorem written_detach (context : Context) (blocks : Selection) (direction : Direction)
    (link : Link) :
    written context (some (.linked (.detach blocks direction link))) =
      some (detach context blocks direction link) :=
  rfl

theorem written_merge (context : Context) (blocks : Selection) (direction : Direction)
    (link : Link) :
    written context (some (.linked (.merge blocks direction link))) =
      some ((context.find? link).elim (detach context blocks direction link) fun target =>
        ([linkedLine context.names (.merge blocks direction target)], context)) := by
  simp only [written, Stage.settle, Stage.follow]
  cases context.find? link <;> rfl

/-- A call that looks up its section has lines when there is one. -/
theorem written_of_follow (context : Context) (call : LinkedCall Link) (link : Link)
    (found : String → LinkedCall String)
    (h : context.follow naming call = (context.find link).map fun target =>
      (found target, context)) :
    written context (some (.linked call)) =
      (context.find? link).map fun target =>
        ([linkedLine context.names (found target)], context) := by
  simp only [written, Stage.settle, h, toOption_map, Stage.toOption_find, Option.map_map]
  rfl

/-- The lines of an instruction are those of its call. Boundaries and unknown steps, which ask for
none, have a comment of their own. -/
theorem toOption_lower_eq_bind (context : Context) {op : Op} (inside : op ≠ .nextScene)
    (known : ∀ record, op ≠ .unknown record) :
    (lower context op).toOption = op.call.toOption.bind (written context) := by
  cases op with
  | nextScene => exact absurd rfl inside
  | unknown record => exact absurd rfl (known record)
  | blank | showStructure | rotateCamera | keyframe => rfl
  | setBlock placement =>
    simp only [lower, Op.call, toOption_bind, toOption_pure, Option.bind_assoc, Option.bind_some,
      Check.toOption_state, Check.toOption_selection, written_plain, plainLines]
    rcases placement.area.selection? with _ | (_ | _) <;> rfl
  | mergeSection area direction link =>
    simp only [lower, Op.call, toOption_bind, toOption_pure, Option.bind_assoc, Option.bind_some,
      Check.toOption_selection, Check.toOption_neededDirection, written_merge]
    cases context.find? link <;> rfl
  | hideIndependentSection link direction =>
    have hide (d : Direction) := written_of_follow context (.hide link d) link (.hide · d) rfl
    -- The section is looked up before the direction is read.
    simp only [lower, Op.call, toOption_bind, toOption_pure, Option.bind_assoc, Option.bind_some,
      Check.toOption_word, Stage.toOption_find, hide]
    cases context.find? link <;> cases Check.word? direction <;> rfl
  | rotateSection link =>
    have rotate (v : Vec3) (n : Nat) :=
      written_of_follow context (.rotate link v n) link (.rotate · v n) rfl
    simp only [lower, Op.call, toOption_bind, toOption_pure, Option.bind_assoc, Option.bind_some,
      Check.toOption_duration, Stage.toOption_find, rotate, Option.map_eq_bind, Function.comp_def,
      linkedLine]
  | moveSection link =>
    have move (v : Vec3) (n : Nat) :=
      written_of_follow context (.move link v n) link (.move · v n) rfl
    simp only [lower, Op.call, toOption_bind, toOption_pure, Option.bind_assoc, Option.bind_some,
      Check.toOption_duration, Check.toOption_need, Stage.toOption_find, move, Option.map_eq_bind,
      Function.comp_def, linkedLine]
  | _ =>
    simp only [lower, Op.call, toOption_bind, toOption_pure, Option.bind_assoc, Option.bind_some,
      Check.toOption_need, Check.toOption_neededIdentifier, Check.toOption_optionalIdentifier,
      Check.toOption_word, Check.toOption_neededDirection, Check.toOption_duration,
      Check.toOption_selection, Check.toOption_block, Check.toOption_patch, Check.toOption_style,
      Check.toOption_state, Check.toOption_scope, Option.bind_map, Function.comp_def,
      written_plain, written_detach, plainLines, toOption_clear, styleText_getD, turnText_eq]

theorem toOption_lower (context : Context) {op : Op} (inside : op ≠ .nextScene)
    (known : ∀ record, op ≠ .unknown record) :
    (lower context op).toOption =
      (context.apply naming op).toOption.map fun (call, after) =>
        (callLines context.names call, after) := by
  rw [toOption_lower_eq_bind context inside known, Stage.toOption_apply, Option.map_bind]
  rfl

theorem lower_of_ok {context after : Context} {op : Op} {call : Option (Call String)}
    (h : context.apply naming op = .ok (call, after)) :
    lower context op = .ok (callLines context.names call, after) := by
  have inside : op ≠ .nextScene := by
    rintro rfl
    cases h
  have known : ∀ record, op ≠ .unknown record := by
    rintro record rfl
    cases h
  have lowered := toOption_lower context inside known
  rw [h] at lowered
  exact toOption_eq_some_iff.1 lowered

theorem lower_of_error {context : Context} {op : Op} {fault : Fault}
    (h : context.apply naming op = .error fault) (inside : op ≠ .nextScene)
    (known : ∀ record, op ≠ .unknown record) : ∃ gap, lower context op = .error gap := by
  have lowered := toOption_lower context inside known
  rw [h] at lowered
  exact toOption_eq_none_iff.1 lowered

/-! ## Steps -/

/-- The lines of a step that makes its call. -/
theorem emit_of_ok {context after : Context} {step : Step} {call : Option (Call String)}
    (h : context.apply naming step.op = .ok (call, after)) :
    emit context step =
      ((if step.isMarked then [markLine] else []) ++ callLines context.names call, after) := by
  cases blank : step.isBlank with
  | true =>
    rw [Step.isBlank_iff.1 blank] at h
    cases h
    simp [emit, Step.isMarked, blank, callLines]
  | false => simp [emit, Step.isMarked, blank, lower_of_ok h]

/-- A step that is left out becomes a comment. -/
theorem emit_of_error {context : Context} {step : Step} {fault : Fault}
    (h : context.apply naming step.op = .error fault) :
    ∃ text, emit context step =
      ((if step.isMarked then [markLine] else []) ++ ["// " ++ text], context) := by
  have blank : step.isBlank = false := Step.isBlank_of_error h
  simp only [emit, Step.isMarked, blank, Bool.false_eq_true, if_false, Bool.not_false,
    Bool.true_and]
  cases op : step.op with
  | nextScene => exact ⟨"[segment boundary]", rfl⟩
  | unknown record => exact ⟨"[unknown] step type " ++ quoted (record.kind.getD ""), rfl⟩
  | _ =>
    rw [op] at h
    obtain ⟨gap, lowered⟩ := lower_of_error h (by simp) (by simp)
    rw [lowered]
    exact ⟨gap.text ++ " " ++ Op.kindName _, rfl⟩

/-- A step changes the variables of links as its call does. -/
theorem emit_snd (context : Context) (step : Step) :
    (emit context step).2 = context.after naming step.op := by
  unfold Stage.after
  rcases applied : context.apply naming step.op with fault | ⟨call, after⟩
  · obtain ⟨text, emitted⟩ := emit_of_error applied
    rw [emitted]
  · rw [emit_of_ok applied]

/-- The context after a list of steps. -/
def contextAfter (context : Context) (steps : List Step) : Context :=
  steps.foldl (fun context step => (emit context step).2) context

theorem contextAfter_eq (context : Context) (steps : List Step) :
    contextAfter context steps = context.afterAll naming steps := by
  simp only [contextAfter, emit_snd, Stage.afterAll]

/-- The lines of the step at an index: it meets the context after the steps before it. -/
theorem getElem?_linesFrom (context : Context) (steps : List Step) (i : Nat) :
    (linesFrom context steps)[i]? =
      steps[i]?.map fun step => (emit (contextAfter context (steps.take i)) step).1 := by
  induction steps generalizing context i with
  | nil => simp [linesFrom]
  | cons step steps ih =>
    cases i with
    | zero => simp [linesFrom, contextAfter]
    | succ i => simp [linesFrom, ih, contextAfter]

theorem linesFrom_append (context : Context) (steps more : List Step) :
    linesFrom context (steps ++ more) =
      linesFrom context steps ++ linesFrom (contextAfter context steps) more := by
  induction steps generalizing context with
  | nil => rfl
  | cons step steps ih => simp [linesFrom, ih, contextAfter]

end Storyboard.Script
