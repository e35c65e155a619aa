import Storyboard.Json.Parser
import Storyboard.Step.Storage

/-!
# Undo and redo

A history of step lists. Every snapshot is the text of a whole list, so that it does not change
afterwards and is compared by its text.

## Main definitions

* `Snapshot`: the text of a list of steps.
* `History.save`, `History.undo`, `History.redo`: the operations.
-/

namespace Storyboard

/-- The text of a list of steps. -/
structure Snapshot where
  text : String
deriving DecidableEq

namespace Snapshot

def take (steps : List Step) : Snapshot :=
  ⟨(Step.listToJson steps).compact⟩

/-- The list that a snapshot was taken of. -/
def restore? (snapshot : Snapshot) : Option (List Step) :=
  (Json.parse? snapshot.text).bind Step.listOfJson?

end Snapshot

/-- Snapshots to go back to and forth to, the latest first. -/
structure History where
  past : List Snapshot := []
  future : List Snapshot := []
deriving DecidableEq

namespace History

/-- How many snapshots are kept each way. -/
def maxDepth : Nat :=
  50

/-- Puts a snapshot on top; the oldest goes when there are too many. -/
def push (snapshot : Snapshot) (stack : List Snapshot) : List Snapshot :=
  (snapshot :: stack).take maxDepth

/-- Keeps a list before it changes. What was undone before cannot be redone after that. -/
def save (history : History) (steps : List Step) : History :=
  { past := push (.take steps) history.past, future := [] }

/-- Moves from the list `current` to the top of one stack, and puts `current` on the other.
Snapshots of `current` itself on top are dropped first. -/
def move (source target : List Snapshot) (current : List Step) :
    Option (List Step) × List Snapshot × List Snapshot :=
  let now := Snapshot.take current
  match source.dropWhile (· = now) with
  | [] => (none, [], target)
  | top :: rest => match top.restore? with
    | some steps => (some steps, rest, push now target)
    | none => (none, top :: rest, target)

/-- The list before the last change, if there is one. -/
def undo (history : History) (current : List Step) : Option (List Step) × History :=
  let (steps, past, future) := move history.past history.future current
  (steps, { past, future })

/-- The list before the last undo, if there is one. -/
def redo (history : History) (current : List Step) : Option (List Step) × History :=
  let (steps, future, past) := move history.future history.past current
  (steps, { past, future })

def canUndo (history : History) : Bool :=
  !history.past.isEmpty

def canRedo (history : History) : Bool :=
  !history.future.isEmpty

end History

end Storyboard
