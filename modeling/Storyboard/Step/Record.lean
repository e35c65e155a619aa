import Storyboard.Json.Fields

/-!
# Step records

The stored form of a step: one flat record in which every field is optional.

## Main definitions

* `Record`: the fields.
* `Record.fieldNames`: their names in storage, in the order of writing.
* `Record.ofJson?`, `Record.toJson`: the record as JSON.
-/

namespace Storyboard

/-- The fields that a stored step may have. -/
structure Record where
  kind : Option String := none
  attachKeyFrame : Bool := false
  duration : Option Double := none
  text : Option String := none
  key : Option String := none
  point : Option Vec3 := none
  color : Option String := none
  placeNearTarget : Option Bool := none
  degrees : Option Double := none
  direction : Option String := none
  action : Option String := none
  item : Option String := none
  sound : Option String := none
  volume : Option Double := none
  pitch : Option Double := none
  source : Option String := none
  block : Option String := none
  properties : Option Dictionary := none
  pos : Option Vec3 := none
  pos2 : Option Vec3 := none
  spawnParticles : Option Bool := none
  linkId : Option String := none
  rotX : Option Double := none
  rotY : Option Double := none
  rotZ : Option Double := none
  offset : Option Vec3 := none
  nbt : Option String := none
  redraw : Option Bool := none
  entity : Option String := none
  yaw : Option Double := none
  lookAt : Option Vec3 := none
  motion : Option Vec3 := none
  count : Option Double := none
  fullScene : Option Bool := none
  template : Option String := none
  height : Option Double := none
  scale : Option Double := none
deriving DecidableEq

namespace Record

/-- The names of the fields in storage, in the order of writing. -/
def fieldNames : List String :=
  ["type", "attachKeyFrame", "duration", "text", "key", "point", "color", "placeNearTarget",
   "degrees", "direction", "action", "item", "sound", "volume", "pitch", "source", "block",
   "properties", "pos", "pos2", "spawnParticles", "linkId", "rotX", "rotY", "rotZ", "offset",
   "nbt", "redraw", "entity", "yaw", "lookAt", "motion", "count", "fullScene", "structure",
   "height", "scale"]

/-- Reads each field from the value under its name. -/
def ofFields (get : String → Option Json) : Record where
  kind := (get "type").bind Json.text?
  attachKeyFrame := ((get "attachKeyFrame").bind Json.flag?).getD false
  duration := (get "duration").bind Json.number?
  text := (get "text").bind Json.text?
  key := (get "key").bind Json.text?
  point := (get "point").bind Json.vec3?
  color := (get "color").bind Json.text?
  placeNearTarget := (get "placeNearTarget").bind Json.flag?
  degrees := (get "degrees").bind Json.number?
  direction := (get "direction").bind Json.text?
  action := (get "action").bind Json.text?
  item := (get "item").bind Json.text?
  sound := (get "sound").bind Json.text?
  volume := (get "volume").bind Json.number?
  pitch := (get "pitch").bind Json.number?
  source := (get "source").bind Json.text?
  block := (get "block").bind Json.text?
  properties := (get "properties").bind Json.dictionary?
  pos := (get "pos").bind Json.vec3?
  pos2 := (get "pos2").bind Json.vec3?
  spawnParticles := (get "spawnParticles").bind Json.flag?
  linkId := (get "linkId").bind Json.text?
  rotX := (get "rotX").bind Json.number?
  rotY := (get "rotY").bind Json.number?
  rotZ := (get "rotZ").bind Json.number?
  offset := (get "offset").bind Json.vec3?
  nbt := (get "nbt").bind Json.text?
  redraw := (get "redraw").bind Json.flag?
  entity := (get "entity").bind Json.text?
  yaw := (get "yaw").bind Json.number?
  lookAt := (get "lookAt").bind Json.vec3?
  motion := (get "motion").bind Json.vec3?
  count := (get "count").bind Json.number?
  fullScene := (get "fullScene").bind Json.flag?
  template := (get "structure").bind Json.text?
  height := (get "height").bind Json.number?
  scale := (get "scale").bind Json.number?

/-- The fields as JSON, in the order of writing. A key frame mark is written only if it is set. -/
def fields (r : Record) : List (String × Option Json) :=
  [("type", r.kind.map .string),
   ("attachKeyFrame", if r.attachKeyFrame then some (.bool true) else none),
   ("duration", r.duration.map .ofNumber),
   ("text", r.text.map .string),
   ("key", r.key.map .string),
   ("point", r.point.map .ofVec3),
   ("color", r.color.map .string),
   ("placeNearTarget", r.placeNearTarget.map .bool),
   ("degrees", r.degrees.map .ofNumber),
   ("direction", r.direction.map .string),
   ("action", r.action.map .string),
   ("item", r.item.map .string),
   ("sound", r.sound.map .string),
   ("volume", r.volume.map .ofNumber),
   ("pitch", r.pitch.map .ofNumber),
   ("source", r.source.map .string),
   ("block", r.block.map .string),
   ("properties", r.properties.map .ofDictionary),
   ("pos", r.pos.map .ofVec3),
   ("pos2", r.pos2.map .ofVec3),
   ("spawnParticles", r.spawnParticles.map .bool),
   ("linkId", r.linkId.map .string),
   ("rotX", r.rotX.map .ofNumber),
   ("rotY", r.rotY.map .ofNumber),
   ("rotZ", r.rotZ.map .ofNumber),
   ("offset", r.offset.map .ofVec3),
   ("nbt", r.nbt.map .string),
   ("redraw", r.redraw.map .bool),
   ("entity", r.entity.map .string),
   ("yaw", r.yaw.map .ofNumber),
   ("lookAt", r.lookAt.map .ofVec3),
   ("motion", r.motion.map .ofVec3),
   ("count", r.count.map .ofNumber),
   ("fullScene", r.fullScene.map .bool),
   ("structure", r.template.map .string),
   ("height", r.height.map .ofNumber),
   ("scale", r.scale.map .ofNumber)]

/-- The record that a value stores: an object, or an array of fields in the order of writing. -/
def ofJson? (value : Json) : Option Record :=
  (value.fields? fieldNames).map ofFields

def toJson (r : Record) : Json :=
  .ofFields r.fields

end Record

end Storyboard
