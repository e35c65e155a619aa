import Storyboard.Identifier
import Storyboard.Step.Storage
import Storyboard.Title

/-!
# Scenes

A scene is a list of steps under an identifier, shown for some items. Its steps are a list of
segments, or one flat list that boundary steps cut into segments.

## Main definitions

* `Segment`, `Scene`: the parts.
* `Segment.ofJson?`, `Segment.toJson`, `Scene.ofJson?`, `Scene.toJson`: their stored forms.
-/

namespace Storyboard

/-- Steps that play on one structure. -/
structure Segment where
  id : Option String := none
  title : Option Title := none
  steps : List Step := []
deriving DecidableEq

/-- A scene as it is stored. -/
structure Scene where
  id : String := ""
  /-- The items that the scene is shown for. -/
  items : List String := []
  title : Option Title := none
  /-- The pool of structures that segments choose from. -/
  structures : List String := []
  tags : List String := []
  /-- The flat list of steps. -/
  steps : List Step := []
  segments : Option (List Segment) := none
deriving DecidableEq

namespace Segment

def fieldNames : List String :=
  ["id", "title", "steps"]

/-- The first step that is not blank. -/
def firstMeaningful? (segment : Segment) : Option Step :=
  segment.steps.find? (!·.isBlank)

def ofFields (get : String → Option Json) : Segment where
  id := (get "id").bind Json.text?
  title := (get "title").bind Title.ofJson?
  steps := ((get "steps").bind Step.listOfJson?).getD []

/-- The segment that a value stores: an object, or an array of fields in order. -/
def ofJson? (value : Json) : Option Segment :=
  (value.fields? fieldNames).map ofFields

def toJson (segment : Segment) : Json :=
  .ofFields
    [("id", segment.id.map .string),
     ("title", segment.title.map Title.toJson),
     ("steps", some (Step.listToJson segment.steps))]

end Segment

namespace Scene

def fieldNames : List String :=
  ["id", "items", "title", "structures", "tags", "steps", "segments"]

/-- The list of segments, where there is a non-empty one, replaces the flat list of steps. -/
def isSegmented (scene : Scene) : Bool :=
  match scene.segments with
  | some (_ :: _) => true
  | _ => false

/-- No item shows the scene. -/
def isInert (scene : Scene) : Bool :=
  scene.items.isEmpty

/-- The strings of a list; what is no string is left out. -/
def strings (value : Option Json) : List String :=
  (value.bind (Json.list? Json.string?)).getD []

/-- Every field but the identifier is read leniently. -/
def ofFields (id : String) (get : String → Option Json) : Scene where
  id := id
  items := strings (get "items")
  title := (get "title").bind Title.ofJson?
  structures := strings (get "structures")
  tags := strings (get "tags")
  steps := ((get "steps").bind Step.listOfJson?).getD []
  segments := (get "segments").bind (Json.list? Segment.ofJson?)

/-- The scene that a value stores: an object, or an array of fields in order. An identifier that is
there has to be a string. -/
def ofJson? (value : Json) : Option Scene := do
  let get ← value.fields? fieldNames
  match get "id" with
  | none => return ofFields "" get
  | some (.string id) => return ofFields id get
  | some _ => none

/-- The list, unless it is empty. -/
def nonEmpty {α : Type} (list : List α) : Option (List α) :=
  if list.isEmpty then none else some list

def ofStrings (strings : List String) : Json :=
  .array (strings.map .string)

def toJson (scene : Scene) : Json :=
  .ofFields
    [("id", some (.string scene.id)),
     ("items", some (ofStrings scene.items)),
     ("title", scene.title.map Title.toJson),
     ("structures", some (ofStrings scene.structures)),
     ("tags", (nonEmpty scene.tags).map ofStrings),
     ("steps", (nonEmpty scene.steps).map Step.listToJson),
     ("segments", scene.segments.map fun segments => .array (segments.map Segment.toJson))]

/-- The identifier, which a stored scene holds as text. -/
def identifier (scene : Scene) : Except Identifier.Error Identifier :=
  Identifier.parse scene.id

end Scene

end Storyboard
