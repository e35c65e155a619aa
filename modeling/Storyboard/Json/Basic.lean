import Storyboard.Number.Compact

/-!
# JSON values

The values that documents are made of. An object keeps its members in the order of the text, each
key once.

## Main definitions

* `Json`, `JsonNumber`: values and their numbers.
* `Json.ofMembers`: an object with the last member of each key.
* `Json.ofNumber`: a 64-bit number, as an integer where it is whole and exact.
-/

namespace Storyboard

/-- A JSON number: an integer of at most 64 bits, or a 64-bit number. -/
inductive JsonNumber where
  | int (n : Int)
  | float (x : Double)
deriving DecidableEq

/-- A JSON value. -/
inductive Json where
  | null
  | bool (b : Bool)
  | number (n : JsonNumber)
  | string (s : String)
  | array (items : List Json)
  | object (members : List (String × Json))

/-- The 64-bit number nearest to a JSON number. -/
def JsonNumber.toDouble : JsonNumber → Double
  | .int n => .ofInt n
  | .float x => x

namespace Json

/-- The members without those whose key comes again later. -/
def lastOfEach : List (String × Json) → List (String × Json)
  | [] => []
  | (key, value) :: rest =>
    if rest.any (·.1 = key) then lastOfEach rest else (key, value) :: lastOfEach rest

/-- An object; of two members with one key the last stays. -/
def ofMembers (members : List (String × Json)) : Json :=
  .object (lastOfEach members)

/-- Integers below this bound are exact as 64-bit numbers. -/
def exactBound : Nat :=
  9007199254740992

/-- A number field: an integer where the number is whole and small enough to be exact. -/
def ofNumber (x : Double) : Json :=
  match x.whole? exactBound with
  | some n => .number (.int n)
  | none => .number (.float x)

/-- The members that are present, in order. -/
def ofFields (fields : List (String × Option Json)) : Json :=
  .object (fields.filterMap fun (key, value) => value.map (key, ·))

end Json

end Storyboard
