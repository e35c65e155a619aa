import Storyboard.Step.Basic

/-!
# Storing steps

Steps as records. A record keeps only the fields of the step's own kind; tick counts are made whole
and keywords get their own spelling on the way.

## Main definitions

* `Step.ofRecord`, `Step.toRecord`: a step as a record.
* `Step.ofJson`, `Step.toJson`: a step as JSON.
-/

namespace Storyboard

/-- A count of ticks or of things: the nearest whole number, a half going away from zero. -/
def ticksOf (x : Double) : Int32 :=
  x.toInt32 roundHalfAway

namespace Record

def caption (r : Record) : Caption :=
  ⟨r.duration.map ticksOf, r.point, r.color.map .read, r.placeNearTarget⟩

def area (r : Record) : Area :=
  ⟨r.pos, r.pos2⟩

def placement (r : Record) : Placement :=
  ⟨r.block, r.properties, r.area, r.spawnParticles⟩

/-- The instruction of a known kind with the fields of a record. -/
def op (r : Record) : Kind → Op
  | .showStructure => .showStructure r.template (r.height.map ticksOf) r.scale
  | .idle => .idle (r.duration.map ticksOf)
  | .text => .text r.text r.caption
  | .sharedText => .sharedText r.key r.caption
  | .rotateCamera => .rotateCamera r.degrees
  | .showControls =>
    .showControls (r.duration.map ticksOf) r.point (r.direction.map .read) (r.action.map .read)
      r.item
  | .playSound => .playSound r.sound r.volume r.pitch (r.source.map .read)
  | .setBlock => .setBlock r.placement
  | .destroyBlock => .destroyBlock r.pos r.spawnParticles
  | .replaceBlocks => .replaceBlocks r.placement
  | .showSection => .showSection r.area (r.direction.map .read)
  | .hideSection => .hideSection r.area (r.direction.map .read)
  | .showIndependentSection => .showIndependentSection r.area (r.direction.map .read) r.linkId
  | .mergeSection => .mergeSection r.area (r.direction.map .read) r.linkId
  | .hideIndependentSection => .hideIndependentSection r.linkId (r.direction.map .read)
  | .rotateSection => .rotateSection r.linkId r.rotX r.rotY r.rotZ (r.duration.map ticksOf)
  | .moveSection => .moveSection r.linkId r.offset (r.duration.map ticksOf)
  | .modifyBlockEntity => .modifyBlockEntity r.area r.nbt r.redraw
  | .createEntity => .createEntity r.entity r.pos r.yaw r.pitch r.lookAt
  | .createItemEntity => .createItemEntity r.item r.pos r.motion (r.count.map ticksOf)
  | .clearEntities => .clearEntities r.entity r.area r.fullScene
  | .clearItemEntities => .clearItemEntities r.item r.area r.fullScene
  | .showOutline => .showOutline (r.color.map .read) r.area (r.duration.map ticksOf)
  | .toggleRedstonePower => .toggleRedstonePower r.area
  | .indicateRedstone => .indicateRedstone r.pos
  | .indicateSuccess => .indicateSuccess r.pos
  | .keyframe => .keyframe
  | .nextScene => .nextScene

end Record

/-- A 32-bit integer as a number field. -/
def ofTicks (n : Int32) : Double :=
  .ofInt n.toInt

namespace Op

def captionRecord (c : Caption) : Record where
  duration := c.duration.map ofTicks
  point := c.point
  color := c.color.map Keyword.text
  placeNearTarget := c.nearTarget

def placementRecord (p : Placement) : Record where
  block := p.block
  properties := p.properties
  pos := p.area.first
  pos2 := p.area.second
  spawnParticles := p.particles

/-- The fields of an instruction, without its kind. -/
def fields : Op → Record
  | .blank => {}
  | .showStructure template height scale => { template, height := height.map ofTicks, scale }
  | .idle ticks => { duration := ticks.map ofTicks }
  | .text words caption => { captionRecord caption with text := words }
  | .sharedText key caption => { captionRecord caption with key }
  | .rotateCamera degrees => { degrees }
  | .showControls duration point direction action item =>
    { duration := duration.map ofTicks, point, direction := direction.map Keyword.text,
      action := action.map Keyword.text, item }
  | .playSound sound volume pitch source =>
    { sound, volume, pitch, source := source.map Keyword.text }
  | .setBlock placement => placementRecord placement
  | .destroyBlock pos particles => { pos, spawnParticles := particles }
  | .replaceBlocks placement => placementRecord placement
  | .showSection area direction =>
    { pos := area.first, pos2 := area.second, direction := direction.map Keyword.text }
  | .hideSection area direction =>
    { pos := area.first, pos2 := area.second, direction := direction.map Keyword.text }
  | .showIndependentSection area direction link =>
    { pos := area.first, pos2 := area.second, direction := direction.map Keyword.text,
      linkId := link }
  | .mergeSection area direction link =>
    { pos := area.first, pos2 := area.second, direction := direction.map Keyword.text,
      linkId := link }
  | .hideIndependentSection link direction =>
    { linkId := link, direction := direction.map Keyword.text }
  | .rotateSection link rotX rotY rotZ duration =>
    { linkId := link, rotX, rotY, rotZ, duration := duration.map ofTicks }
  | .moveSection link offset duration =>
    { linkId := link, offset, duration := duration.map ofTicks }
  | .modifyBlockEntity area nbt redraw =>
    { pos := area.first, pos2 := area.second, nbt, redraw }
  | .createEntity entity pos yaw pitch lookAt => { entity, pos, yaw, pitch, lookAt }
  | .createItemEntity item pos motion count =>
    { item, pos, motion, count := count.map ofTicks }
  | .clearEntities entity area fullScene =>
    { entity, pos := area.first, pos2 := area.second, fullScene }
  | .clearItemEntities item area fullScene =>
    { item, pos := area.first, pos2 := area.second, fullScene }
  | .showOutline color area duration =>
    { color := color.map Keyword.text, pos := area.first, pos2 := area.second,
      duration := duration.map ofTicks }
  | .toggleRedstonePower area => { pos := area.first, pos2 := area.second }
  | .indicateRedstone pos => { pos }
  | .indicateSuccess pos => { pos }
  | .keyframe => {}
  | .nextScene => {}
  | .unknown record => record

end Op

namespace Step

def blank : Step :=
  .ofOp .blank

/-- The step that a record stores. Blanks around its kind do not count; a record without a kind is
a blank step, and one of a kind that is not known is kept whole. -/
def ofRecord (r : Record) : Step :=
  let name := trim (r.kind.getD "")
  ⟨r.attachKeyFrame,
    if name = "" then .blank
    else match Kind.ofName? name with
      | some kind => r.op kind
      | none => .unknown { r with attachKeyFrame := false }⟩

def toRecord (step : Step) : Record :=
  match step.op.kind? with
  | some kind => { step.op.fields with kind := some kind.name, attachKeyFrame := step.keyframe }
  | none => { step.op.fields with attachKeyFrame := step.keyframe }

/-- The step that a value stores: what is no object is a blank step. -/
def ofJson : Json → Step
  | .object members => ofRecord ((Record.ofJson? (.object members)).getD {})
  | _ => blank

/-- A blank step without a mark is written as nothing. -/
def toJson (step : Step) : Json :=
  if step.isBlank ∧ !step.keyframe then .null else step.toRecord.toJson

/-- The steps of a list, which is the only value that stores any. -/
def listOfJson? (value : Json) : Option (List Step) :=
  value.list? (some ∘ ofJson)

def listToJson (steps : List Step) : Json :=
  .array (steps.map toJson)

end Step

end Storyboard
