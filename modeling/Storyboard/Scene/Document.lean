import Storyboard.Json.Parser
import Storyboard.Scene.Basic

/-!
# Documents

A document holds one scene, a list of scenes, or an object whose `scenes` is such a list. It is
strict where a scene cannot be told apart from the rest: every scene needs a valid identifier.

## Main definitions

* `Document.load`: the scenes of a document.
-/

namespace Storyboard.Document

/-- Why a text is no document. -/
inductive Error where
  | notJson
  | scenesNotList
  | noScenes
  | malformed (index : Nat)
  | invalidId (index : Nat) (id : String) (cause : Identifier.Error)
deriving DecidableEq

def Error.message : Error → String
  | .notJson => "document is not valid JSON"
  | .scenesNotList => "`scenes` is not an array"
  | .noScenes => "expected a scene object or an array of scenes"
  | .malformed index => "scene " ++ toString index ++ " is malformed"
  | .invalidId index id cause =>
    "scene " ++ toString index ++ " has invalid id `" ++ id ++ "`: " ++ cause.message

/-- The values that store the scenes of a document. -/
def entries : Json → Except Error (List Json)
  | .array items => .ok items
  | .object members => match members.lookup "scenes" with
    | some (.array items) => .ok items
    | some _ => .error .scenesNotList
    | none => .ok [.object members]
  | _ => .error .noScenes

/-- The scene that the value at an index stores. -/
def readScene (index : Nat) (value : Json) : Except Error Scene :=
  match Scene.ofJson? value with
  | none => .error (.malformed index)
  | some scene => match scene.identifier with
    | .error cause => .error (.invalidId index scene.id cause)
    | .ok _ => .ok scene

/-- The scenes from an index on; the first that cannot be read is reported. -/
def readScenes (index : Nat) : List Json → Except Error (List Scene)
  | [] => .ok []
  | value :: values => do
    let scene ← readScene index value
    let scenes ← readScenes (index + 1) values
    return scene :: scenes

/-- The scenes of a document. -/
def load (s : String) : Except Error (List Scene) := do
  match Json.parse? s with
  | none => .error .notJson
  | some root => readScenes 0 (← entries root)

/-- The text that stores one scene. -/
def save (scene : Scene) : String :=
  scene.toJson.compact

end Storyboard.Document
