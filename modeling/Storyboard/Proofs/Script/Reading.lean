import Storyboard.Proofs.Call.Making
import Storyboard.Proofs.Script.Call
import Storyboard.Proofs.Script.Variable

/-!
# Reading lines of scripts

What a reader of a script sees in one line: the variable that it assigns, and the variable that it
hands to a function as a section.

## Main definitions

* `Script.assigned?`, `Script.used?`: the variables of a line.

## Main statements

* `Script.assigned?_linkedLine`, `Script.used?_linkedLine`: the variable of a call about a section.
* `Script.exists_effect`: the timeline is marked once for a step, before its effect.
* `Script.filterMap_emit`: what can be read in the lines of a step.
-/

namespace Storyboard

namespace Script

/-! ## Readers -/

/-- The functions that use the section in their first argument. -/
def firstUsers : List String :=
  ["scene.world.hideIndependentSection", "scene.world.rotateSection", "scene.world.moveSection"]

/-- The function that uses the section in its last argument. -/
def lastUser : String :=
  "scene.world.showSectionAndMerge"

/-- The variable that a line hands to a function as a section. -/
def used? (line : String) : Option String :=
  let arguments := line.toList.dropWhile (· ≠ '(')
  if callee line ∈ firstUsers then
    some (String.ofList ((arguments.drop 1).takeWhile isVariableChar))
  else if callee line = lastUser then
    -- The last argument stands before the parenthesis and the semicolon at the end.
    some (String.ofList ((arguments.reverse.drop 2).takeWhile isVariableChar).reverse)
  else none

/-- The text after the word that declares a variable. -/
def withoutLet : List Char → List Char
  | 'l' :: 'e' :: 't' :: ' ' :: rest => rest
  | text => text

/-- The variable in front of an equals sign. -/
def leftSide? (text : List Char) : Option String :=
  let name := text.takeWhile isVariableChar
  if name ≠ [] ∧ [' ', '=', ' '] <+: text.dropWhile isVariableChar then some (String.ofList name)
  else none

/-- The variable that a line assigns, with or without a declaration. -/
def assigned? (line : String) : Option String :=
  leftSide? (withoutLet line.toList)

/-! ## Lines without sections -/

/-- A function of scenes that neither marks the timeline nor uses a section. -/
def IsPlainFunction (name : String) : Prop :=
  ['s', 'c', 'e', 'n', 'e', '.'] <+: name.toList ∧ '(' ∉ name.toList ∧
    name ∉ "scene.addKeyframe" :: lastUser :: firstUsers

instance (name : String) : Decidable (IsPlainFunction name) :=
  inferInstanceAs (Decidable (_ ∧ _))

/-- A comment, or a call of a plain function. -/
def IsPlain (line : String) : Prop :=
  (∃ text, line = "// " ++ text) ∨ IsPlainFunction (callee line)

theorem isPlain_invocation {name : String} (plain : IsPlainFunction name)
    (arguments : List String) (rest : String) : IsPlain (invocation name arguments ++ rest) := by
  right
  rw [invocation, String.append_assoc, String.append_assoc, callee_append plain.2.1]
  exact plain

theorem isPlain_statement {name : String} (plain : IsPlainFunction name)
    (arguments : List String) : IsPlain (statement name arguments) :=
  isPlain_invocation plain arguments ";"

theorem isPlain_unsupported (call : String) : IsPlain (unsupported call) :=
  .inl ⟨unsupportedTag ++ " " ++ call, by simp [unsupported, String.append_assoc]⟩

/-- The lines of a call that concerns no independent section are plain. -/
theorem isPlain_of_mem_plainLines {call : PlainCall} {line : String} (h : line ∈ plainLines call) :
    IsPlain line := by
  cases call with
  | toggleRedstonePower | indicateRedstone | indicateSuccess =>
    rw [List.mem_singleton.1 h]
    exact isPlain_unsupported _
  | showStructure height scale =>
    simp only [plainLines, List.mem_cons, Option.mem_toList, Option.map_eq_some_iff] at h
    obtain rfl | ⟨_, -, rfl⟩ := h <;> exact isPlain_statement (by decide) _
  | idle | destroyBlock =>
    rw [List.mem_singleton.1 h]
    split <;> exact isPlain_statement (by decide) _
  | setBlocks blocks =>
    rw [List.mem_singleton.1 h]
    cases blocks <;> exact isPlain_statement (by decide) _
  | clearEntities filter scope | clearItemEntities filter scope =>
    rw [List.mem_singleton.1 h]
    cases scope <;> exact isPlain_statement (by decide) _
  | showText | showSharedText | showControls =>
    rw [List.mem_singleton.1 h]
    simp only [String.append_assoc]
    exact isPlain_invocation (by decide) _ _
  | _ =>
    rw [List.mem_singleton.1 h]
    exact isPlain_statement (by decide) _

theorem callee_comment_ne (text : String) {name : String}
    (scene : ['s', 'c', 'e', 'n', 'e', '.'] <+: name.toList) : callee ("// " ++ text) ≠ name := by
  rintro rfl
  obtain ⟨rest, equal⟩ := scene
  simp [callee] at equal

theorem assigned?_of_scene {line : String}
    (scene : ['s', 'c', 'e', 'n', 'e', '.'] <+: (callee line).toList) : assigned? line = none := by
  rw [callee, String.toList_ofList] at scene
  obtain ⟨rest, text⟩ := scene.trans (List.takeWhile_prefix _)
  simp [assigned?, ← text, withoutLet, leftSide?, isVariableChar]

namespace IsPlain

variable {line : String}

theorem callee_notMem (plain : IsPlain line) :
    callee line ∉ "scene.addKeyframe" :: lastUser :: firstUsers := by
  rcases plain with ⟨text, rfl⟩ | ⟨-, -, other⟩
  · have scene : ∀ name ∈ "scene.addKeyframe" :: lastUser :: firstUsers,
        ['s', 'c', 'e', 'n', 'e', '.'] <+: name.toList := by decide
    exact fun mem => callee_comment_ne text (scene _ mem) rfl
  · exact other

theorem ne_markLine (plain : IsPlain line) : line ≠ markLine := by
  rintro rfl
  exact plain.callee_notMem (by decide)

theorem used?_eq_none (plain : IsPlain line) : used? line = none := by
  have other := plain.callee_notMem
  simp only [List.mem_cons, not_or] at other
  simp [used?, other.2.1, other.2.2]

theorem assigned?_eq_none (plain : IsPlain line) : assigned? line = none := by
  rcases plain with ⟨text, rfl⟩ | ⟨scene, -⟩
  · simp [assigned?, withoutLet, leftSide?, isVariableChar]
  · exact assigned?_of_scene scene

end IsPlain

/-! ## Lines about sections -/

section Assignment

variable {x : String} (var : IsVariable x)
include var

theorem leftSide?_append (rest : List Char) :
    leftSide? (x.toList ++ ' ' :: '=' :: ' ' :: rest) = some x := by
  have stop : Stops isVariableChar (' ' :: '=' :: ' ' :: rest) := by simp [isVariableChar]
  simp [leftSide?, takeWhile_run var.chars stop, dropWhile_run var.chars stop, var.ne_empty]

theorem withoutLet_append (rest : List Char) :
    withoutLet (x.toList ++ ' ' :: '=' :: ' ' :: rest) = x.toList ++ ' ' :: '=' :: ' ' :: rest := by
  unfold withoutLet
  split
  next after text =>
    -- The run of variable characters in front is the word itself.
    have run := congrArg (List.takeWhile isVariableChar) text
    rw [takeWhile_run var.chars (by simp [isVariableChar])] at run
    exact absurd (String.toList_inj.1 (run.trans (by simp [isVariableChar]))) var.ne_let
  next => rfl

theorem withoutLet_assignment (names : Names) (line : String) :
    withoutLet (assignment names x ++ line).toList =
      x.toList ++ ' ' :: '=' :: ' ' :: line.toList := by
  rw [assignment]
  split
  · have text : ("" ++ x ++ " = " ++ line).toList =
        x.toList ++ ' ' :: '=' :: ' ' :: line.toList := by
      simp
    rw [text, withoutLet_append var]
  · have text : ("let " ++ x ++ " = " ++ line).toList =
        'l' :: 'e' :: 't' :: ' ' :: (x.toList ++ ' ' :: '=' :: ' ' :: line.toList) := by
      simp
    rw [text, withoutLet]

theorem assigned?_assignment (names : Names) (line : String) :
    assigned? (assignment names x ++ line) = some x := by
  rw [assigned?, withoutLet_assignment var, leftSide?_append var]

theorem blank_mem_callee (names : Names) (line : String) :
    ' ' ∈ (callee (assignment names x ++ line)).toList := by
  have chars : '(' ∉ x.toList := fun mem => by
    simpa [isVariableChar] using var.chars '(' mem
  have free : '(' ∉ (assignment names x).toList := by
    unfold assignment
    split <;> simp [chars]
  rw [callee, String.toList_ofList, String.toList_append,
    List.takeWhile_append_of_pos (forall_ne_of_notMem free)]
  simp [assignment]

end Assignment

theorem callee_statement {name : String} (free : '(' ∉ name.toList) (arguments : List String) :
    callee (statement name arguments) = name := by
  rw [statement, invocation, String.append_assoc, String.append_assoc, callee_append free]

theorem dropWhile_statement {name : String} (free : '(' ∉ name.toList) (arguments : List String) :
    (statement name arguments).toList.dropWhile (· ≠ '(') =
      '(' :: ((", ".intercalate arguments).toList ++ [')', ';']) := by
  have text : (statement name arguments).toList =
      name.toList ++ '(' :: ((", ".intercalate arguments).toList ++ [')', ';']) := by
    simp [statement, invocation]
  rw [text, dropWhile_run (forall_ne_of_notMem free) (by simp)]

theorem used?_first {name x : String} (user : name ∈ firstUsers) (var : IsVariable x)
    (argument : String) (arguments : List String) :
    used? (statement name (x :: argument :: arguments)) = some x := by
  have free : ∀ name ∈ firstUsers, '(' ∉ name.toList := by decide
  simp only [used?, callee_statement (free _ user), dropWhile_statement (free _ user), user,
    if_true, List.drop_one, List.tail_cons, String.intercalate_cons_cons, String.toList_append,
    List.append_assoc]
  rw [takeWhile_run var.chars (by simp [isVariableChar]), String.ofList_toList]

theorem used?_last {x : String} (var : IsVariable x) (first second : String) :
    used? (statement lastUser [first, second, x]) = some x := by
  have free : '(' ∉ lastUser.toList := by decide
  have other : lastUser ∉ firstUsers := by decide
  have chars : ∀ c ∈ x.toList.reverse, isVariableChar c := fun c hc =>
    var.chars c (List.mem_reverse.1 hc)
  have text : ('(' :: ((", ".intercalate [first, second, x]).toList ++ [')', ';'])).reverse.drop 2 =
      x.toList.reverse ++ ' ' :: ',' :: (('(' :: (first ++ ", " ++ second).toList).reverse) := by
    simp
  simp only [used?, callee_statement free, dropWhile_statement free, other, if_false, if_true, text]
  rw [takeWhile_run chars (by simp [isVariableChar]), List.reverse_reverse, String.ofList_toList]

/-- The line of a call assigns the section that the call makes. -/
theorem assigned?_linkedLine {call : LinkedCall String} (var : IsVariable call.target)
    (names : Names) :
    assigned? (linkedLine names call) = if call.makes then some call.target else none := by
  cases call with
  | detach => exact assigned?_assignment var names _
  | merge | hide | rotate | move =>
    refine assigned?_of_scene ?_
    rw [linkedLine, callee_statement (by decide)]
    decide

/-- The line of a call hands over the section that the call uses. -/
theorem used?_linkedLine {call : LinkedCall String} (var : IsVariable call.target)
    (names : Names) :
    used? (linkedLine names call) = if call.makes then none else some call.target := by
  cases call with
  | detach blocks direction target =>
    have users : ∀ name ∈ lastUser :: firstUsers, ' ' ∉ name.toList := by decide
    have other : callee (linkedLine names (.detach blocks direction target)) ∉
        lastUser :: firstUsers :=
      fun mem => users _ mem (blank_mem_callee var names _)
    simp only [List.mem_cons, not_or] at other
    simp [used?, other, LinkedCall.makes]
  | merge => exact used?_last var _ _
  | hide | rotate | move => exact used?_first (by decide) var _ _

theorem linkedLine_ne_markLine (names : Names) (call : LinkedCall String) :
    linkedLine names call ≠ markLine := by
  cases call with
  | detach blocks direction target =>
    intro equal
    have lengths := congrArg String.length equal
    have long : markLine.length < "scene.world.showIndependentSection".length := by decide
    simp only [linkedLine, statement, invocation, String.length_append] at lengths
    omega
  | merge | hide | rotate | move =>
    intro equal
    have names := congrArg callee equal
    rw [linkedLine, callee_statement (by decide)] at names
    revert names
    decide

/-! ## Steps -/

/-- The lines of a step: a mark where the timeline is marked, then plain lines or the line of the
call about a section. -/
theorem emit_fst (context : Context) (step : Step) :
    ∃ effect, (emit context step).1 = (if step.isMarked then [markLine] else []) ++ effect ∧
      match (context.event naming step).linked? with
      | none => ∀ line ∈ effect, IsPlain line
      | some call => effect = [linkedLine context.names call] := by
  rcases applied : context.apply naming step.op with fault | ⟨_ | (call | call), after⟩
  · obtain ⟨text, emitted⟩ := emit_of_error applied
    refine ⟨["// " ++ text], by rw [emitted], ?_⟩
    simpa [Stage.event, Event.linked?, applied, Except.map] using .inl ⟨text, rfl⟩
  · refine ⟨[], by rw [emit_of_ok applied]; rfl, ?_⟩
    simp [Stage.event, Event.linked?, applied, Except.map]
  · refine ⟨plainLines call, by rw [emit_of_ok applied]; rfl, ?_⟩
    simpa [Stage.event, Event.linked?, applied, Except.map] using
      fun line => isPlain_of_mem_plainLines
  · refine ⟨[linkedLine context.names call], by rw [emit_of_ok applied]; rfl, ?_⟩
    simp [Stage.event, Event.linked?, applied, Except.map]

/-- The timeline is marked once for a step, before its effect. -/
theorem exists_effect (context : Context) (step : Step) :
    ∃ effect, (emit context step).1 = (if step.isMarked then [markLine] else []) ++ effect ∧
      markLine ∉ effect := by
  obtain ⟨effect, emitted, shape⟩ := emit_fst context step
  refine ⟨effect, emitted, ?_⟩
  split at shape
  · exact fun mem => (shape _ mem).ne_markLine rfl
  · rw [shape, List.mem_singleton]
    exact (linkedLine_ne_markLine _ _).symm

/-- What a reader that passes over marks and plain lines finds in the lines of a step. -/
theorem filterMap_emit {f : String → Option String} (mark : f markLine = none)
    (plain : ∀ line, IsPlain line → f line = none) (context : Context) (step : Step) :
    (emit context step).1.filterMap f =
      ((context.event naming step).linked?.bind fun call =>
        f (linkedLine context.names call)).toList := by
  have marks : (if step.isMarked then [markLine] else []).filterMap f = [] := by
    split <;> simp [mark]
  obtain ⟨effect, emitted, shape⟩ := emit_fst context step
  rw [emitted, List.filterMap_append, marks, List.nil_append]
  split at shape
  next none =>
    rw [none, Option.bind_none, Option.toList_none, List.filterMap_eq_nil_iff]
    exact fun line mem => plain line (shape line mem)
  next call some =>
    rw [some, shape, Option.bind_some]
    cases read : f (linkedLine context.names call) <;> simp [read]

end Script

end Storyboard
