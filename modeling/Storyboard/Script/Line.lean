import Storyboard.Script.Variable

/-!
# Lines of scripts

The statements of a script that make the calls of a segment. A step that lacks something it needs,
or that scripts cannot express, becomes a comment.

## Main definitions

* `Script.Gap`: why a step is not written as a call.
* `Script.lower`: the lines of an instruction.
* `Script.lines`: the lines of each step of a list.
-/

namespace Storyboard.Script

open Vocabulary (spelling)

/-- The mark of comments for calls that scripts cannot express. -/
def unsupportedTag : String :=
  "[unsupported]"

/-- Waits of whole seconds are written in seconds. -/
def ticksPerSecond : Nat :=
  20

/-! ## Arguments -/

def blockText (p : BlockPos) : String :=
  "[" ++ p.text ++ "]"

def pointText (v : Vec3) : String :=
  "[" ++ v.text ++ "]"

def selectionText : Selection → String
  | .single p => "util.select.position(" ++ p.text ++ ")"
  | .box a b => "util.select.fromTo(" ++ a.text ++ ", " ++ b.text ++ ")"

def capitals (s : String) : String :=
  String.ofList (s.toList.map Char.toUpper)

def directionText (d : Direction) : String :=
  "Direction." ++ capitals (spelling d)

def colorText (p : Palette) : String :=
  "PonderPalette." ++ capitals (spelling p)

/-- What follows the statement that shows a text. -/
def styleText (color : Option Palette) (nearTarget : Option Bool) : String :=
  (color.map fun color => ".colored(" ++ colorText color ++ ")").getD "" ++
    if nearTarget = some true then ".placeNearTarget()" else ""

def actionText : InputAction → String
  | .leftClick => ".leftClick()"
  | .rightClick => ".rightClick()"
  | .scroll => ".scroll()"

/-- The function that turns a new entity, as a last argument. A target comes before angles. -/
def turnText : Option Vec3 → Option Double → Option Double → String
  | some target, _, _ => ", (e) => \x7b e.lookAt(\"feet\", " ++ pointText target ++ "); \x7d"
  | none, none, none => ""
  | none, yaw, pitch =>
    ", (e) => \x7b e.setYRot(" ++ numberText (yaw.getD noTurn) ++ "); e.setXRot(" ++
      numberText (pitch.getD noTurn) ++ "); \x7d"

/-- A statement that is one invocation. -/
def statement (name : String) (arguments : List String) : String :=
  invocation name arguments ++ ";"

def unsupported (call : String) : String :=
  "// " ++ unsupportedTag ++ " " ++ call

/-! ## Gaps -/

/-- Why a step is not written as a call. -/
inductive Gap where
  | missing (field : String)
  | invalid (field why : String)
  | unlinked (key : String)
deriving DecidableEq

instance : Report Gap where
  missing := .missing
  invalidId field _ cause := .invalid field cause.message
  unknownKeyword field value := .invalid field ("unknown value `" ++ value ++ "`")
  invalidPatch cause := .invalid "nbt" cause.message
  unlinked := .unlinked

/-- A gap in brackets. -/
def Gap.text : Gap → String
  | .missing field => "[missing " ++ field ++ "]"
  | .invalid field why => "[invalid " ++ field ++ ": " ++ why ++ "]"
  | .unlinked key => "[unlinked " ++ key ++ "]"

/-- The comment for a step with a gap. -/
def comment (gap : Gap) (op : Op) : String :=
  "// " ++ gap.text ++ " " ++ op.kindName

/-! ## Instructions -/

/-- The variables that links lead to after some steps. -/
abbrev Context := Stage String Names

/-- Binds a new section to the variable of its link: the start of the assignment, which declares a
variable the first time, and the context after it. -/
def bind (context : Context) (link : Link) : String × Context :=
  let (name, names) := naming.next context.names link
  ((if context.names.declared.contains name then "" else "let ") ++ name ++ " = ",
    ⟨(linkKey link, name) :: context.sections, names⟩)

/-- The statement that shows blocks as a new section. -/
def detach (context : Context) (blocks : Selection) (direction : Direction) (link : Link) :
    List String × Context :=
  let (assignment, after) := bind context link
  ([assignment ++ statement "scene.world.showIndependentSection"
    [selectionText blocks, directionText direction]], after)

/-- The statement that removes entities, in the whole scene or in an area. -/
def clear (name : String) (filter : Option Identifier) (area : Area) (fullScene : Option Bool) :
    Except Gap String :=
  let filter := (filter.map fun id => quoted id.text).toList
  if fullScene = some true then return statement name filter
  else do
    let blocks ← Check.selection area
    return statement (name ++ "Inside") (selectionText blocks :: filter)

open Check

/-- The lines of an instruction, and the context after it. -/
def lower (context : Context) : Op → Except Gap (List String × Context)
  | .blank => return ([], context)
  | .showStructure _ height scale =>
    return (statement "scene.showStructure" (height.map intText).toList ::
      (scale.map fun s => statement "scene.scaleSceneView" [numberText s]).toList, context)
  | .idle ticks => do
    let ticks ← duration ticks
    let line := if 0 < ticks ∧ ticks % ticksPerSecond = 0 then
        statement "scene.idleSeconds" [toString (ticks / ticksPerSecond)]
      else statement "scene.idle" [toString ticks]
    return ([line], context)
  | .text words caption => do
    let ticks ← duration caption.duration
    let words ← need "text" words
    let point ← need "point" caption.point
    let color ← word "color" caption.color
    return ([invocation "scene.text" [toString ticks, quoted words, pointText point] ++
      styleText color caption.nearTarget ++ ";"], context)
  | .sharedText key caption => do
    let ticks ← duration caption.duration
    let key ← need "key" key
    let point ← need "point" caption.point
    let color ← word "color" caption.color
    return ([invocation "scene.sharedText" [toString ticks, quoted key, pointText point] ++
      styleText color caption.nearTarget ++ ";"], context)
  | .rotateCamera degrees =>
    return ([statement "scene.rotateCameraY" [numberText (degrees.getD usualTurn)]], context)
  | .showControls ticks point direction action item => do
    let ticks ← duration ticks
    let point ← need "point" point
    let direction ← neededDirection direction
    let action ← word "action" action
    let item ← optionalIdentifier "item" item
    return ([invocation "scene.showControls"
        [toString ticks, pointText point, quoted (spelling direction)] ++
      (action.map actionText).getD "" ++
      (item.map fun id => invocation ".withItem" [quoted id.text]).getD "" ++ ";"], context)
  | .playSound sound volume pitch source => do
    let sound ← neededIdentifier "sound" sound
    let source ← word "source" source
    return ([statement "scene.playSound"
      [quoted sound.text, quoted (spelling (source.getD .master)),
       numberText (volume.getD usualLevel), numberText (pitch.getD usualLevel)]], context)
  | .setBlock placement => do
    let state ← state placement
    let particles := flagText (placement.particles.getD true)
    match ← selection placement.area with
    | .single block => return ([statement "scene.world.setBlock"
        [blockText block, quoted state.text, particles]], context)
    | blocks => return ([statement "scene.world.setBlocks"
        [selectionText blocks, quoted state.text, particles]], context)
  | .destroyBlock pos particles => do
    let block ← block pos
    let line := if particles.getD true then
        statement "scene.world.destroyBlock" [blockText block]
      else statement "scene.world.setBlock" [blockText block, quoted "minecraft:air", "false"]
    return ([line], context)
  | .replaceBlocks placement => do
    let state ← state placement
    let blocks ← selection placement.area
    return ([statement "scene.world.replaceBlocks"
      [selectionText blocks, quoted state.text, flagText (placement.particles.getD true)]], context)
  | .showSection area direction => do
    let blocks ← selection area
    let direction ← word "direction" direction
    return ([statement "scene.world.showSection"
      [selectionText blocks, directionText (direction.getD .down)]], context)
  | .hideSection area direction => do
    let blocks ← selection area
    let direction ← word "direction" direction
    return ([statement "scene.world.hideSection"
      [selectionText blocks, directionText (direction.getD .up)]], context)
  | .showIndependentSection area direction link => do
    let blocks ← selection area
    let direction ← neededDirection direction
    return detach context blocks direction link
  | .mergeSection area direction link => do
    let blocks ← selection area
    let direction ← neededDirection direction
    match context.find? link with
    | some name => return ([statement "scene.world.showSectionAndMerge"
        [selectionText blocks, directionText direction, name]], context)
    | none => return detach context blocks direction link
  | .hideIndependentSection link direction => do
    let name ← context.find link
    let direction ← word "direction" direction
    return ([statement "scene.world.hideIndependentSection"
      [name, directionText (direction.getD .up)]], context)
  | .rotateSection link rotX rotY rotZ ticks => do
    let ticks ← duration ticks
    let name ← context.find link
    return ([statement "scene.world.rotateSection"
      [name, numberText (rotX.getD noTurn), numberText (rotY.getD noTurn),
       numberText (rotZ.getD noTurn), toString ticks]], context)
  | .moveSection link offset ticks => do
    let ticks ← duration ticks
    let offset ← need "offset" offset
    let name ← context.find link
    return ([statement "scene.world.moveSection" [name, pointText offset, toString ticks]], context)
  | .modifyBlockEntity area nbt redraw => do
    let blocks ← selection area
    let patch ← patch (← need "nbt" nbt)
    return ([statement "scene.world.modifyBlockEntityNBT"
      [selectionText blocks, flagText (redraw.getD false),
       "(nbt) => \x7b nbt.merge(NBT.toTagCompound(" ++ quoted patch.text ++ ")); \x7d"]], context)
  | .createEntity entity pos yaw pitch lookAt => do
    let entity ← neededIdentifier "entity" entity
    let pos ← need "pos" pos
    return ([statement "scene.world.createEntity"
      [quoted entity.text, pointText pos ++ turnText lookAt yaw pitch]], context)
  | .createItemEntity item pos motion count => do
    let item ← neededIdentifier "item" item
    let pos ← need "pos" pos
    let count := max 1 ((count.map (·.toInt.toNat)).getD 1)
    return ([statement "scene.world.createItemEntity"
      [pointText pos, "util.vector.of(" ++ (motion.getD noMotion).text ++ ")",
       invocation "Item.of" [quoted item.text, toString count]]], context)
  | .clearEntities entity area fullScene => do
    let filter ← optionalIdentifier "entity" entity
    let line ← clear "scene.world.removeEntities" filter area fullScene
    return ([line], context)
  | .clearItemEntities item area fullScene => do
    let filter ← optionalIdentifier "item" item
    let line ← clear "scene.world.removeItems" filter area fullScene
    return ([line], context)
  | .showOutline color area ticks => do
    let ticks ← duration ticks
    let blocks ← selection area
    let color ← word "color" color
    return ([statement "scene.overlay.showOutline"
      [colorText (color.getD .white), quoted "outline", selectionText blocks, toString ticks]],
      context)
  | .toggleRedstonePower area => do
    let blocks ← selection area
    return ([unsupported (statement "scene.world.toggleRedstonePower" [selectionText blocks])],
      context)
  | .indicateRedstone pos => do
    let block ← block pos
    return ([unsupported (statement "scene.effects.indicateRedstone" [blockText block])], context)
  | .indicateSuccess pos => do
    let block ← block pos
    return ([unsupported (statement "scene.effects.indicateSuccess" [blockText block])], context)
  | .keyframe => return ([], context)
  | .nextScene => return (["// [segment boundary]"], context)
  | .unknown record =>
    return (["// [unknown] step type " ++ quoted (record.kind.getD "")], context)

/-! ## Segments -/

def markLine : String :=
  "scene.addKeyframe();"

/-- The lines of a step, and the context after it: a mark, then its statements or its comment. A
blank step has none. -/
def emit (context : Context) (step : Step) : List String × Context :=
  if step.isBlank then ([], context)
  else
    let mark := if step.marks then [markLine] else []
    match lower context step.op with
    | .ok (lines, after) => (mark ++ lines, after)
    | .error gap => (mark ++ [comment gap step.op], context)

/-- The lines of each step of a list, from a context on. -/
def linesFrom (context : Context) : List Step → List (List String)
  | [] => []
  | step :: steps =>
    let (lines, after) := emit context step
    lines :: linesFrom after steps

/-- The lines of each step of a segment. -/
def lines (steps : List Step) : List (List String) :=
  linesFrom (.start naming) steps

end Storyboard.Script
