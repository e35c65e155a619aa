import Storyboard.Keyword
import Storyboard.Step.Record

/-!
# Steps

A step is one instruction of a scene. Fields that an instruction cannot do without are optional
all the same, because scenes are saved while they are being written; what is missing is found when
the step is used.

## Main definitions

* `Kind`: the kinds of instructions, with their names in storage.
* `Op`: an instruction with its own fields.
* `Step`: an instruction, and whether a point of the timeline is marked before it.
-/

namespace Storyboard

/-- The kinds of instructions. -/
inductive Kind where
  | showStructure | idle | text | sharedText | rotateCamera | showControls | playSound | setBlock
  | destroyBlock | replaceBlocks | showSection | hideSection | showIndependentSection
  | mergeSection | hideIndependentSection | rotateSection | moveSection | modifyBlockEntity
  | createEntity | createItemEntity | clearEntities | clearItemEntities | showOutline
  | toggleRedstonePower | indicateRedstone | indicateSuccess | keyframe | nextScene
deriving DecidableEq

namespace Kind

/-- The kinds in the order of the instruction set. -/
def all : List Kind :=
  [.showStructure, .idle, .text, .sharedText, .rotateCamera, .showControls, .playSound, .setBlock,
   .destroyBlock, .replaceBlocks, .showSection, .hideSection, .showIndependentSection,
   .mergeSection, .hideIndependentSection, .rotateSection, .moveSection, .modifyBlockEntity,
   .createEntity, .createItemEntity, .clearEntities, .clearItemEntities, .showOutline,
   .toggleRedstonePower, .indicateRedstone, .indicateSuccess, .keyframe, .nextScene]

/-- The name of a kind in storage. -/
def name : Kind → String
  | .showStructure => "show_structure"
  | .idle => "idle"
  | .text => "text"
  | .sharedText => "shared_text"
  | .rotateCamera => "rotate_camera"
  | .showControls => "show_controls"
  | .playSound => "play_sound"
  | .setBlock => "set_block"
  | .destroyBlock => "destroy_block"
  | .replaceBlocks => "replace_blocks"
  | .showSection => "show_section"
  | .hideSection => "hide_section"
  | .showIndependentSection => "show_independent_section"
  | .mergeSection => "show_section_and_merge"
  | .hideIndependentSection => "hide_independent_section"
  | .rotateSection => "rotate_section"
  | .moveSection => "move_section"
  | .modifyBlockEntity => "modify_block_entity_nbt"
  | .createEntity => "create_entity"
  | .createItemEntity => "create_item_entity"
  | .clearEntities => "clear_entities"
  | .clearItemEntities => "clear_item_entities"
  | .showOutline => "show_outline"
  | .toggleRedstonePower => "toggle_redstone_power"
  | .indicateRedstone => "indicate_redstone"
  | .indicateSuccess => "indicate_success"
  | .keyframe => "keyframe"
  | .nextScene => "next_scene"

def ofName? (name : String) : Option Kind :=
  all.find? (·.name = name)

end Kind

/-- How long, where and in which colour a text shows. -/
structure Caption where
  duration : Option Int32
  point : Option Vec3
  color : Option (Keyword Palette)
  nearTarget : Option Bool
deriving DecidableEq

/-- The block that is put into an area, with properties that differ from its usual ones. -/
structure Placement where
  block : Option String
  properties : Option Dictionary
  area : Area
  particles : Option Bool
deriving DecidableEq

/-- An instruction with its own fields. A link is the name of an independent section. -/
inductive Op where
  /-- An entry without a type: every pass leaves it out. -/
  | blank
  | showStructure (template : Option String) (height : Option Int32) (scale : Option Double)
  | idle (ticks : Option Int32)
  | text (words : Option String) (caption : Caption)
  | sharedText (key : Option String) (caption : Caption)
  | rotateCamera (degrees : Option Double)
  | showControls (duration : Option Int32) (point : Option Vec3)
      (direction : Option (Keyword Direction)) (action : Option (Keyword InputAction))
      (item : Option String)
  | playSound (sound : Option String) (volume pitch : Option Double)
      (source : Option (Keyword SoundSource))
  | setBlock (placement : Placement)
  | destroyBlock (pos : Option Vec3) (particles : Option Bool)
  | replaceBlocks (placement : Placement)
  | showSection (area : Area) (direction : Option (Keyword Direction))
  | hideSection (area : Area) (direction : Option (Keyword Direction))
  /-- Shows blocks as a section of their own. -/
  | showIndependentSection (area : Area) (direction : Option (Keyword Direction))
      (link : Option String)
  /-- Shows blocks as a part of a section that is there. -/
  | mergeSection (area : Area) (direction : Option (Keyword Direction)) (link : Option String)
  | hideIndependentSection (link : Option String) (direction : Option (Keyword Direction))
  | rotateSection (link : Option String) (rotX rotY rotZ : Option Double)
      (duration : Option Int32)
  | moveSection (link : Option String) (offset : Option Vec3) (duration : Option Int32)
  | modifyBlockEntity (area : Area) (nbt : Option String) (redraw : Option Bool)
  | createEntity (entity : Option String) (pos : Option Vec3) (yaw pitch : Option Double)
      (lookAt : Option Vec3)
  | createItemEntity (item : Option String) (pos motion : Option Vec3) (count : Option Int32)
  | clearEntities (entity : Option String) (area : Area) (fullScene : Option Bool)
  | clearItemEntities (item : Option String) (area : Area) (fullScene : Option Bool)
  | showOutline (color : Option (Keyword Palette)) (area : Area) (duration : Option Int32)
  | toggleRedstonePower (area : Area)
  | indicateRedstone (pos : Option Vec3)
  | indicateSuccess (pos : Option Vec3)
  | keyframe
  /-- The boundary between two segments in a flat list of steps. -/
  | nextScene
  /-- An instruction of a kind that is not known, kept whole. -/
  | unknown (record : Record)
deriving DecidableEq

namespace Op

/-- The kind of an instruction that is neither blank nor unknown. -/
def kind? : Op → Option Kind
  | .blank => none
  | .showStructure .. => some .showStructure
  | .idle .. => some .idle
  | .text .. => some .text
  | .sharedText .. => some .sharedText
  | .rotateCamera .. => some .rotateCamera
  | .showControls .. => some .showControls
  | .playSound .. => some .playSound
  | .setBlock .. => some .setBlock
  | .destroyBlock .. => some .destroyBlock
  | .replaceBlocks .. => some .replaceBlocks
  | .showSection .. => some .showSection
  | .hideSection .. => some .hideSection
  | .showIndependentSection .. => some .showIndependentSection
  | .mergeSection .. => some .mergeSection
  | .hideIndependentSection .. => some .hideIndependentSection
  | .rotateSection .. => some .rotateSection
  | .moveSection .. => some .moveSection
  | .modifyBlockEntity .. => some .modifyBlockEntity
  | .createEntity .. => some .createEntity
  | .createItemEntity .. => some .createItemEntity
  | .clearEntities .. => some .clearEntities
  | .clearItemEntities .. => some .clearItemEntities
  | .showOutline .. => some .showOutline
  | .toggleRedstonePower .. => some .toggleRedstonePower
  | .indicateRedstone .. => some .indicateRedstone
  | .indicateSuccess .. => some .indicateSuccess
  | .keyframe => some .keyframe
  | .nextScene => some .nextScene
  | .unknown _ => none

/-- The name of the kind as it is stored; a blank has the empty name. -/
def kindName (op : Op) : String :=
  match op with
  | .unknown record => record.kind.getD ""
  | op => (op.kind?.map Kind.name).getD ""

end Op

/-- An instruction, and whether a point of the timeline is marked before it. -/
structure Step where
  keyframe : Bool
  op : Op
deriving DecidableEq

namespace Step

def ofOp (op : Op) : Step :=
  ⟨false, op⟩

def isBlank (step : Step) : Bool :=
  match step.op with
  | .blank => true
  | _ => false

end Step

end Storyboard
