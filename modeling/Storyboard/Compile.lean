import Storyboard.Scene.Normal
import Storyboard.Scene.Structure

/-!
# Compiled scenes

A compiled scene has everything that the back ends write: titles in one language, and for every
segment its identifier and its structure.

## Main definitions

* `CompiledSegment`, `CompiledScene`: the results.
* `Scene.compile`: one scene.
* `compileAll`: the scenes of a document that some item shows.
-/

namespace Storyboard

/-- A segment with everything that the back ends need. -/
structure CompiledSegment where
  id : String
  title : String
  template : Identifier
  segment : Segment
deriving DecidableEq

/-- A scene with everything that the back ends need. -/
structure CompiledScene where
  id : Identifier
  triggers : List String
  title : String
  segments : List CompiledSegment
  /-- References to structures that failed, with the index of the segment. -/
  warnings : List (Nat × Structure.Error)
deriving DecidableEq

/-- The text of an optional title, or else the given one. -/
def titleText (language : String) (title : Option Title) (otherwise : String) : String :=
  (title.bind (Title.get? language)).getD otherwise

/-- The identifier of a segment: the path of its scene, and unless it is the only one and has no
name, its name or its number. -/
def segmentId (path : String) (lone : Bool) (index : Nat) (segment : Segment) : String :=
  if lone then path else path ++ "/" ++ segment.id.getD (toString (index + 1))

/-- The structure of each segment from the given one on, with what went wrong. -/
def assignStructures (pool : List String) (current : Identifier) :
    List Segment → List (Identifier × Option Structure.Error)
  | [] => []
  | segment :: segments =>
    let step := Structure.advance pool current (Structure.reference? segment)
    step :: assignStructures pool step.1 segments

/-- Compiles a scene; `language` chooses the titles. -/
def Scene.compile (language : String) (scene : Scene) :
    Except Identifier.Error CompiledScene := do
  let id ← scene.identifier
  let title := titleText language scene.title id.path
  let segments := scene.normalSegments
  let lone := match segments with
    | [segment] => segment.id.isNone
    | _ => false
  let assigned := assignStructures scene.structures (Structure.seed scene.structures) segments
  let compiled := (segments.zip assigned).zipIdx.map fun ((segment, template, _), index) =>
    { id := segmentId id.path lone index segment
      title := titleText language segment.title title
      template
      segment }
  let warnings := assigned.zipIdx.filterMap fun ((_, cause), index) => cause.map (index, ·)
  return { id, triggers := scene.items, title, segments := compiled, warnings }

/-- Why scenes cannot be compiled: the identifier of one of them. -/
structure CompileError where
  id : String
  cause : Identifier.Error
deriving DecidableEq

def CompileError.message (e : CompileError) : String :=
  "Compiling scene " ++ e.id ++ ": " ++ e.cause.message

/-- Compiles the scenes that some item shows. -/
def compileAll (language : String) : List Scene → Except CompileError (List CompiledScene)
  | [] => .ok []
  | scene :: scenes =>
    if scene.isInert then compileAll language scenes
    else match scene.compile language with
      | .error cause => .error ⟨scene.id, cause⟩
      | .ok compiled => (compileAll language scenes).map (compiled :: ·)

end Storyboard
