import Storyboard.Call.Check

/-!
# Linking sections

Steps refer to independent sections by links. A back end names each new section in its own way; the
links are followed in the same way for all of them.

## Main definitions

* `Naming`: how a back end names new sections.
* `Stage`: the sections that links lead to after some steps.
* `Stage.apply`: what one instruction does on a stage.
* `Stage.run`: what each step of a list does.
-/

namespace Storyboard

/-- How new sections are named: the name of the next one, given the link that it is made for, and
the state of the naming after it. -/
structure Naming (σ S : Type) where
  start : S
  next : S → Link → σ × S

/-- The sections that links lead to, the latest first, and the state of the naming. -/
structure Stage (σ S : Type) where
  sections : List (String × σ)
  names : S

/-- What one step does: the stage before it, and its call or why there is none. -/
structure Event (σ S : Type) where
  before : Stage σ S
  step : Step
  result : Except Fault (Option (Call σ))

namespace Stage

variable {σ S : Type}

def start (naming : Naming σ S) : Stage σ S :=
  ⟨[], naming.start⟩

/-- The section that a link leads to. -/
def find? (stage : Stage σ S) (link : Link) : Option σ :=
  stage.sections.lookup (linkKey link)

def find {ε : Type} [Report ε] (stage : Stage σ S) (link : Link) : Except ε σ :=
  match stage.find? link with
  | some target => .ok target
  | none => .error (Report.unlinked (linkKey link))

/-- Makes a new section that the link leads to from then on. -/
def detach (naming : Naming σ S) (stage : Stage σ S) (selection : Selection)
    (direction : Direction) (link : Link) : LinkedCall σ × Stage σ S :=
  let (target, names) := naming.next stage.names link
  (.detach selection direction target, ⟨(linkKey link, target) :: stage.sections, names⟩)

/-- Follows the link of a call. Merging into a section that is not there makes a new one. -/
def follow (naming : Naming σ S) (stage : Stage σ S) :
    LinkedCall Link → Except Fault (LinkedCall σ × Stage σ S)
  | .detach selection direction link => .ok (stage.detach naming selection direction link)
  | .merge selection direction link => match stage.find? link with
    | some target => .ok (.merge selection direction target, stage)
    | none => .ok (stage.detach naming selection direction link)
  | .hide link direction => (stage.find link).map fun target => (.hide target direction, stage)
  | .rotate link rotation duration =>
    (stage.find link).map fun target => (.rotate target rotation duration, stage)
  | .move link offset duration =>
    (stage.find link).map fun target => (.move target offset duration, stage)

/-- The call of an instruction on a stage, and the stage after it. -/
def apply (naming : Naming σ S) (stage : Stage σ S) (op : Op) :
    Except Fault (Option (Call σ) × Stage σ S) :=
  match op.call with
  | .error fault => .error fault
  | .ok none => .ok (none, stage)
  | .ok (some (.plain call)) => .ok (some (.plain call), stage)
  | .ok (some (.linked call)) => match stage.follow naming call with
    | .error fault => .error fault
    | .ok (call, stage) => .ok (some (.linked call), stage)

/-- The stage after an instruction; one that is left out changes nothing. -/
def after (naming : Naming σ S) (stage : Stage σ S) (op : Op) : Stage σ S :=
  match stage.apply naming op with
  | .ok (_, stage) => stage
  | .error _ => stage

/-- What each step of a list does, from a stage on. -/
def run (naming : Naming σ S) (stage : Stage σ S) : List Step → List (Event σ S)
  | [] => []
  | step :: steps =>
    ⟨stage, step, (stage.apply naming step.op).map (·.1)⟩ ::
      run naming (stage.after naming step.op) steps

end Stage

/-- A point of the timeline is marked before the step. -/
def Step.marks (step : Step) : Bool :=
  step.keyframe || step.op matches .keyframe

end Storyboard
