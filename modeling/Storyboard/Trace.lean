import Storyboard.Call.Link

/-!
# Traces

A trace writes down the calls that the steps of a segment make, one per line, with a number for each
independent section in the order of making.

## Main definitions

* `Trace.line`: the line of a call.
* `Trace.play`: the lines, the number of steps that made their calls, and the steps left out.
-/

namespace Storyboard

/-- A step that was left out. -/
structure Warning where
  index : Nat
  kind : String
  fault : Fault

/-- What the steps of a segment do. -/
structure Trace where
  /-- How many steps made their calls. -/
  applied : Nat
  lines : List String
  warnings : List Warning

namespace Trace

open Vocabulary (spelling)

/-- Sections are numbered from zero. -/
def naming : Naming Nat Nat where
  start := 0
  next n _ := (n, n + 1)

def styleText (style : TextStyle) : String :=
  (style.color.map fun color => ", " ++ spelling color).getD "" ++
    if style.nearTarget then ", near_target" else ""

def filterText (filter : Option Identifier) : String :=
  (filter.map Identifier.text).getD "*"

def scopeText : Scope → String
  | .scene => "scene"
  | .region selection => selection.text

def facingText : Facing → String
  | .usual => ""
  | .angles yaw pitch => ", yaw=" ++ numberText yaw ++ ", pitch=" ++ numberText pitch
  | .lookAt target => ", look_at=[" ++ target.text ++ "]"

def plainLine : PlainCall → String
  | .showStructure height scale =>
    invocation "show_structure" <|
      (height.map fun h => "height=" ++ intText h).toList ++
        (scale.map fun s => "scale=" ++ numberText s).toList
  | .idle duration => invocation "idle" [toString duration]
  | .showText duration words point style =>
    invocation "show_text"
      [toString duration, shown words, "[" ++ point.text ++ "]" ++ styleText style]
  | .showSharedText duration key point style =>
    invocation "show_shared_text"
      [toString duration, key, "[" ++ point.text ++ "]" ++ styleText style]
  | .rotateCamera degrees => invocation "rotate_camera_y" [numberText degrees]
  | .showControls duration point pointing action item =>
    invocation "show_controls" [toString duration, "[" ++ point.text ++ "]", spelling pointing,
      (action.map spelling).getD "none", filterText item]
  | .playSound sound source volume pitch =>
    invocation "play_sound" [sound.text, spelling source, numberText volume, numberText pitch]
  | .setBlocks selection state particles =>
    invocation "set_blocks" [selection.text, state.text, "particles=" ++ flagText particles]
  | .destroyBlock block particles =>
    invocation "destroy_block" ["[" ++ block.text ++ "]", "particles=" ++ flagText particles]
  | .replaceBlocks selection state particles =>
    invocation "replace_blocks" [selection.text, state.text, "particles=" ++ flagText particles]
  | .showSection selection direction =>
    invocation "show_section" [selection.text, spelling direction]
  | .hideSection selection direction =>
    invocation "hide_section" [selection.text, spelling direction]
  | .modifyBlockEntity selection patch redraw =>
    invocation "modify_block_entity_nbt" [selection.text, patch.text, "redraw=" ++ flagText redraw]
  | .createEntity entity pos facing =>
    invocation "create_entity" [entity.text, "[" ++ pos.text ++ "]" ++ facingText facing]
  | .createItemEntity item pos motion count =>
    invocation "create_item_entity" [item.text ++ " x" ++ toString count, "[" ++ pos.text ++ "]",
      "motion=[" ++ motion.text ++ "]"]
  | .clearEntities filter scope =>
    invocation "clear_entities" [filterText filter, scopeText scope]
  | .clearItemEntities filter scope =>
    invocation "clear_item_entities" [filterText filter, scopeText scope]
  | .showOutline color selection duration =>
    invocation "show_outline" [spelling color, selection.text, toString duration]
  | .toggleRedstonePower selection => invocation "toggle_redstone_power" [selection.text]
  | .indicateRedstone block => invocation "indicate_redstone" ["[" ++ block.text ++ "]"]
  | .indicateSuccess block => invocation "indicate_success" ["[" ++ block.text ++ "]"]

/-- The number of a section. -/
def sectionText (n : Nat) : String :=
  "#" ++ toString n

def linkedLine : LinkedCall Nat → String
  | .detach selection direction target =>
    invocation "show_independent_section" [selection.text, spelling direction] ++ " -> " ++
      sectionText target
  | .merge selection direction target =>
    invocation "show_section_and_merge" [selection.text, spelling direction, sectionText target]
  | .hide target direction =>
    invocation "hide_independent_section" [sectionText target, spelling direction]
  | .rotate target rotation duration =>
    invocation "rotate_section" [sectionText target, "[" ++ rotation.text ++ "]", toString duration]
  | .move target offset duration =>
    invocation "move_section" [sectionText target, "[" ++ offset.text ++ "]", toString duration]

/-- The line of a call. -/
def line : Call Nat → String
  | .plain call => plainLine call
  | .linked call => linkedLine call

def markLine : String :=
  "mark_timeline_point()"

/-- The lines of a step: a mark, then the call. A blank step has none. -/
def eventLines (event : Event Nat Nat) : List String :=
  if event.step.isBlank then []
  else
    (if event.step.marks then [markLine] else []) ++
      match event.result with
      | .ok (some call) => [line call]
      | _ => []

/-- The step made its call, if it asks for one. A blank step does not count. -/
def isApplied (event : Event Nat Nat) : Bool :=
  !event.step.isBlank && event.result matches .ok _

def warning? (event : Event Nat Nat) (index : Nat) : Option Warning :=
  match event.result with
  | .error fault => some ⟨index, event.step.op.kindName, fault⟩
  | .ok _ => none

def events (steps : List Step) : List (Event Nat Nat) :=
  (Stage.start naming).run naming steps

/-- What the steps of a segment do. -/
def play (steps : List Step) : Trace :=
  let events := events steps
  { applied := events.countP isApplied
    lines := events.flatMap eventLines
    warnings := events.zipIdx.filterMap fun (event, index) => warning? event index }

end Trace

end Storyboard
