import Storyboard.Geometry
import Storyboard.Identifier
import Storyboard.Keyword
import Storyboard.Tag.Basic
import Storyboard.Text.Dictionary

/-!
# Builder calls

What a step asks of the builder of a scene, with everything checked and filled in. Calls that make
or use independent sections refer to them by values of a type `σ`: the name of a link, a number, or
a variable.

## Main definitions

* `PlainCall`: calls that concern no independent section.
* `LinkedCall`: calls that make or use one.
* `Call`: both.
-/

namespace Storyboard

/-- A block with properties that differ from its usual ones. -/
structure BlockState where
  block : Identifier
  properties : Dictionary
deriving DecidableEq

/-- The block and its properties in brackets, if it has any. -/
def BlockState.text (state : BlockState) : String :=
  let properties := state.properties.entries.map fun (name, value) => name ++ "=" ++ value
  state.block.text ++
    if properties.isEmpty then "" else "[" ++ ",".intercalate properties ++ "]"

/-- A truth value as text. -/
def flagText (b : Bool) : String :=
  if b then "true" else "false"

/-- A name with its arguments in parentheses. -/
def invocation (name : String) (arguments : List String) : String :=
  name ++ "(" ++ ", ".intercalate arguments ++ ")"

/-- How a text is shown. -/
structure TextStyle where
  color : Option Palette
  nearTarget : Bool
deriving DecidableEq

/-- How a new entity is turned. -/
inductive Facing where
  | usual
  | angles (yaw pitch : Double)
  | lookAt (target : Vec3)
deriving DecidableEq

/-- Where entities are cleared. -/
inductive Scope where
  | scene
  | region (selection : Selection)
deriving DecidableEq

/-- A call that concerns no independent section. Durations are in ticks. -/
inductive PlainCall where
  | showStructure (height : Option Int32) (scale : Option Double)
  | idle (duration : Nat)
  | showText (duration : Nat) (words : String) (point : Vec3) (style : TextStyle)
  | showSharedText (duration : Nat) (key : String) (point : Vec3) (style : TextStyle)
  | rotateCamera (degrees : Double)
  | showControls (duration : Nat) (point : Vec3) (pointing : Direction)
      (action : Option InputAction) (item : Option Identifier)
  | playSound (sound : Identifier) (source : SoundSource) (volume pitch : Double)
  | setBlocks (selection : Selection) (state : BlockState) (particles : Bool)
  | destroyBlock (block : BlockPos) (particles : Bool)
  | replaceBlocks (selection : Selection) (state : BlockState) (particles : Bool)
  | showSection (selection : Selection) (direction : Direction)
  | hideSection (selection : Selection) (direction : Direction)
  | modifyBlockEntity (selection : Selection) (patch : Tag) (redraw : Bool)
  | createEntity (entity : Identifier) (pos : Vec3) (facing : Facing)
  | createItemEntity (item : Identifier) (pos motion : Vec3) (count : Nat)
  | clearEntities (filter : Option Identifier) (scope : Scope)
  | clearItemEntities (filter : Option Identifier) (scope : Scope)
  | showOutline (color : Palette) (selection : Selection) (duration : Nat)
  | toggleRedstonePower (selection : Selection)
  | indicateRedstone (block : BlockPos)
  | indicateSuccess (block : BlockPos)

/-- A call that makes or uses an independent section. -/
inductive LinkedCall (σ : Type) where
  /-- Shows blocks as a new section, which `target` refers to from then on. -/
  | detach (selection : Selection) (direction : Direction) (target : σ)
  /-- Shows blocks as a part of a section. -/
  | merge (selection : Selection) (direction : Direction) (target : σ)
  | hide (target : σ) (direction : Direction)
  | rotate (target : σ) (rotation : Vec3) (duration : Nat)
  | move (target : σ) (offset : Vec3) (duration : Nat)

/-- A call to the builder of a scene. -/
inductive Call (σ : Type) where
  | plain (call : PlainCall)
  | linked (call : LinkedCall σ)

end Storyboard
