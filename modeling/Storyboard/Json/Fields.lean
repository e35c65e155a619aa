import Storyboard.Geometry
import Storyboard.Json.Printer
import Storyboard.Text.Blank
import Storyboard.Text.Dictionary

/-!
# Reading fields

Readers for the fields of stored things. They are lenient: a value of the wrong shape reads as
absent and never makes the thing around it unreadable.

## Main definitions

* `Json.number?`, `Json.text?`, `Json.flag?`, `Json.vec3?`, `Json.dictionary?`, `Json.list?`:
  readers of one field.
* `Json.fields?`: the fields of an object by key, or of an array by position.
-/

namespace Storyboard.Json

/-- A finite number, also from a text that writes one. -/
def number? (value : Json) : Option Double :=
  let number := match value with
    | .number n => some n.toDouble
    | .string s => Binary.read? .double (trimChars s.toList)
    | _ => none
  number.filter Binary.isFinite

/-- A text; a number or a truth value reads as the text that writes it. -/
def text? : Json → Option String
  | .string s => some s
  | .number n => some (String.ofList (numberChars n))
  | .bool true => some "true"
  | .bool false => some "false"
  | _ => none

/-- A truth value, also from a text that writes one. -/
def flag? : Json → Option Bool
  | .bool b => some b
  | .string s =>
    let word := trim s
    if word = "true" then some true else if word = "false" then some false else none
  | _ => none

/-- Three numbers: an array of exactly three, or the members `x`, `y` and `z` of an object. -/
def vec3? : Json → Option Vec3
  | .array [x, y, z] => return ⟨← x.number?, ← y.number?, ← z.number?⟩
  | .object members =>
    return ⟨← (← members.lookup "x").number?, ← (← members.lookup "y").number?,
      ← (← members.lookup "z").number?⟩
  | _ => none

/-- Texts under names; members that are no texts are left out. -/
def dictionary? : Json → Option Dictionary
  | .object members => some <| .ofList <| members.filterMap fun (name, value) =>
    value.text?.map (name, ·)
  | _ => none

/-- A list; items that `item` does not read are left out. -/
def list? {α : Type} (item : Json → Option α) : Json → Option (List α)
  | .array items => some (items.filterMap item)
  | _ => none

/-- A string and nothing else. -/
def string? : Json → Option String
  | .string s => some s
  | _ => none

/-- The fields called `names`: in an object the members with these keys, in an array the items in
this order. An array may end early but has no item without a field. -/
def fields? (names : List String) : Json → Option (String → Option Json)
  | .object members => some fun name => members.lookup name
  | .array items =>
    if items.length ≤ names.length then some fun name => (names.zip items).lookup name else none
  | _ => none

/-! ## Writing fields -/

def ofVec3 (v : Vec3) : Json :=
  .array [ofNumber v.x, ofNumber v.y, ofNumber v.z]

def ofDictionary (d : Dictionary) : Json :=
  .object (d.entries.map fun (name, text) => (name, .string text))

end Storyboard.Json
