import Storyboard.Scene.Basic

/-!
# Normal form of scenes

A scene in normal form is a list of segments, each of which starts by showing its structure.

## Main definitions

* `Step.split`: a flat list cut at its boundary steps.
* `Segment.opened`: a segment that shows its structure first.
* `Scene.normalSegments`, `Scene.normal`: the normal form.
-/

namespace Storyboard

/-- The ticks to wait after a structure that was not asked for. -/
def openingTicks : Int32 :=
  20

/-- Shows the structure, then waits. -/
def opening : List Step :=
  [.ofOp (.showStructure none none none), .ofOp (.idle (some openingTicks))]

namespace Step

def isBoundary (step : Step) : Bool :=
  match step.op with
  | .nextScene => true
  | _ => false

def isReveal (step : Step) : Bool :=
  match step.op with
  | .showStructure .. => true
  | _ => false

/-- The steps up to the first boundary, and the lists after each boundary. A boundary is left out,
but its mark passes to the first step after it that is not blank; `carry` is such a mark. -/
def splitFrom (carry : Bool) : List Step → List Step × List (List Step)
  | [] => ([], [])
  | step :: steps =>
    if step.isBoundary then
      let (first, more) := splitFrom step.keyframe steps
      ([], first :: more)
    else if carry && !step.isBlank then
      let (first, more) := splitFrom false steps
      ({ step with keyframe := true } :: first, more)
    else
      let (first, more) := splitFrom carry steps
      (step :: first, more)

/-- The segments of a flat list, at least one. -/
def split (steps : List Step) : List Segment :=
  let (first, more) := splitFrom false steps
  (first :: more).map fun steps => { steps }

end Step

namespace Segment

/-- The first meaningful step, if there is one, shows no structure. -/
def lacksReveal (segment : Segment) : Bool :=
  match segment.firstMeaningful? with
  | some step => !step.isReveal
  | none => false

/-- The segment behind an opening, if it lacks one. -/
def opened (segment : Segment) : Segment :=
  if segment.lacksReveal then { segment with steps := opening ++ segment.steps } else segment

end Segment

namespace Scene

/-- The segments of a scene, at least one, each of which shows its structure first. -/
def normalSegments (scene : Scene) : List Segment :=
  let segments := match scene.segments with
    | some (segment :: segments) => segment :: segments
    | _ => Step.split scene.steps
  segments.map Segment.opened

/-- The scene with its segments in place of a flat list. -/
def normal (scene : Scene) : Scene :=
  { scene with steps := [], segments := some scene.normalSegments }

end Scene

end Storyboard
