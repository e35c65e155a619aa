import Storyboard.Json.Basic

/-!
# Identifiers

Names of the form `namespace:path`, as used for scenes, structures, blocks, items and entities.

## Main definitions

* `Identifier.make`: the check of the two parts.
* `Identifier.parse`: reads `namespace:path`, or a bare path in the default namespace.
* `Identifier.parseIn`: the same with a chosen namespace for bare paths.
* `Identifier.ofJson?`: its stored form, which is its text.
* `Identifier.fileStem`: the identifier as a file name.
-/

namespace Storyboard

/-- A name `space:path`, where `space` is the namespace. -/
structure Identifier where
  space : String
  path : String
deriving DecidableEq

namespace Identifier

/-- The two parts of an identifier. -/
inductive Part where
  | space
  | path
deriving DecidableEq

def Part.name : Part → String
  | .space => "namespace"
  | .path => "path"

/-- Why a text is no identifier. -/
inductive Error where
  | empty
  | tooManySeparators (text : String)
  | emptyPart (part : Part) (text : String)
  | invalidChar (c : Char) (part : Part) (text : String)
deriving DecidableEq

def Error.message : Error → String
  | .empty => "identifier is empty"
  | .tooManySeparators text => "identifier `" ++ text ++ "` has more than one `:`"
  | .emptyPart part text => "identifier `" ++ text ++ "` has an empty " ++ part.name
  | .invalidChar c part text =>
    "invalid character `" ++ c.toString ++ "` in " ++ part.name ++ " of `" ++ text ++ "`"

/-- The namespace of a bare path. -/
def defaultSpace : String :=
  "minecraft"

/-- The characters of a namespace: lower-case letters, digits and three marks. -/
def isSpaceChar (c : Char) : Bool :=
  c.isLower || c.isDigit || c = '_' || c = '.' || c = '-'

/-- A path may also have slashes. -/
def isPathChar (c : Char) : Bool :=
  isSpaceChar c || c = '/'

def text (id : Identifier) : String :=
  id.space ++ ":" ++ id.path

/-- The identifier of two parts. Empty parts are reported before characters out of place, and the
namespace before the path. -/
def make (space path : String) : Except Error Identifier :=
  let text := space ++ ":" ++ path
  if space = "" then .error (.emptyPart .space text)
  else if path = "" then .error (.emptyPart .path text)
  else match space.toList.find? (!isSpaceChar ·) with
    | some c => .error (.invalidChar c .space text)
    | none => match path.toList.find? (!isPathChar ·) with
      | some c => .error (.invalidChar c .path text)
      | none => .ok ⟨space, path⟩

/-- Reads an identifier; a text without a separator is a path in the default namespace. -/
def parse (s : String) : Except Error Identifier :=
  if s = "" then .error .empty
  else match s.toList.splitOn ':' with
    | [path] => make defaultSpace (String.ofList path)
    | [space, path] => make (String.ofList space) (String.ofList path)
    | _ => .error (.tooManySeparators s)

/-- Reads an identifier; a text without a separator is a path in the namespace `space`. -/
def parseIn (space s : String) : Except Error Identifier :=
  if s.toList.contains ':' then parse s else make space s

/-- A string that writes an identifier, and nothing else. -/
def ofJson? : Json → Option Identifier
  | .string s => (parse s).toOption
  | _ => none

/-- The order of identifiers: by namespace, then by path. -/
def le (a b : Identifier) : Bool :=
  a.space < b.space || (a.space = b.space && a.path ≤ b.path)

/-- The name of a file for the identifier: slashes become underscores. -/
def fileStem (id : Identifier) : String :=
  id.space ++ "_" ++ String.ofList (id.path.toList.map fun c => if c = '/' then '_' else c)

end Identifier

end Storyboard
