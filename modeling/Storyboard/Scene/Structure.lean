import Storyboard.Identifier
import Storyboard.Scene.Basic

/-!
# Structures of segments

Each segment plays on a structure. A segment may refer to one, by its name or by its place in the
scene's pool; without a reference it keeps the structure of the segment before it.

## Main definitions

* `Structure.resolve`: the structure that a reference names.
* `Structure.seed`: the structure that a scene starts on.
* `Structure.advance`: the structure of the next segment.
-/

namespace Storyboard.Structure

/-- The namespace of structures that are named without one. -/
def defaultSpace : String :=
  "kubejs"

/-- The structure that stands in for one that cannot be resolved. -/
def fallback : Identifier :=
  ⟨"ponder", "debug/scene_1"⟩

/-- Why a reference names no structure. -/
inductive Error where
  | empty
  | outOfRange (index : String) (poolSize : Nat)
  | badIndex (reference : String)
  | badName (reference : String) (cause : Identifier.Error)
deriving DecidableEq

def Error.message : Error → String
  | .empty => "structure reference is empty"
  | .outOfRange index poolSize =>
    "structure index " ++ index ++ " is outside the pool of " ++ toString poolSize
  | .badIndex reference => "structure index `" ++ reference ++ "` is not a whole number"
  | .badName reference cause =>
    "structure reference `" ++ reference ++ "` is invalid: " ++ cause.message

/-- The structure with a name; blanks around the name do not count. -/
def ofName (name : String) : Except Error Identifier :=
  let name := trim name
  if name = "" then .error .empty
  else match Identifier.parseIn defaultSpace name with
    | .ok id => .ok id
    | .error cause => .error (.badName name cause)

def isSign (c : Char) : Bool :=
  c = '+' || c = '-'

/-- The reference is a decimal number. The words for what is not finite are names. -/
def isNumeric (reference : List Char) : Bool :=
  let startsNumber := match reference.dropWhile isSign with
    | c :: _ => c.isDigit || c = '.'
    | [] => false
  startsNumber && (Binary.read? .double reference).isSome

/-- The place in the pool that an index means: counted from one, or else from zero. -/
def slot? (poolSize : Nat) (index : Int) : Option Nat :=
  if 1 ≤ index ∧ index ≤ poolSize then some (index - 1).toNat
  else if 0 ≤ index ∧ index < poolSize then some index.toNat
  else none

/-- The place that a whole number of 64 bits means. -/
def index? (reference : List Char) : Option Int :=
  readWithin? (-9223372036854775808) 9223372036854775807 reference

/-- The structure that a number means. A number that is no place in the pool is never a name. -/
def ofNumber (pool : List String) (reference : String) : Except Error Identifier :=
  match index? reference.toList with
  | some index => match (slot? pool.length index).bind (pool[·]?) with
    | some name => ofName name
    | none => .error (.outOfRange reference pool.length)
  | none =>
    -- A whole number that is too wide is told by its digits.
    if (reference.toList.dropWhile isSign).all Char.isDigit then
      .error (.outOfRange reference pool.length)
    else .error (.badIndex reference)

/-- The structure that a reference names; blanks around the reference do not count. -/
def resolve (pool : List String) (reference : String) : Except Error Identifier :=
  let reference := trim reference
  if reference = "" then .error .empty
  else if isNumeric reference.toList then ofNumber pool reference
  else ofName reference

/-- The structure that a scene starts on: the first of its pool. -/
def seed (pool : List String) : Identifier :=
  match pool with
  | [] => fallback
  | name :: _ => match ofName name with
    | .ok id => id
    | .error _ => fallback

/-- The structure after one with the given reference, and why it is the fallback. -/
def advance (pool : List String) (current : Identifier) :
    Option String → Identifier × Option Error
  | none => (current, none)
  | some reference => match resolve pool reference with
    | .ok id => (id, none)
    | .error cause => (fallback, some cause)

/-- The reference of a segment: that of its first step that shows a structure. -/
def reference? (segment : Segment) : Option String :=
  (segment.steps.findSome? fun step => match step.op with
    | .showStructure template _ _ => some template
    | _ => none).join

end Storyboard.Structure
