import Storyboard.Scene.Basic

/-!
# Equality of steps and scenes

Numbers are compared by their values, so that a zero equals a zero whatever its sign. Two steps are
equal if they are the same step once the signs of zeros are dropped, and so are two scenes.

## Main definitions

* `Record.mapNumbers`, `Step.mapNumbers`, `Scene.mapNumbers`: a function applied to every number.
* `Step.Equal`, `Scene.Equal`: the equality of steps and of scenes.
-/

namespace Storyboard

/-! ## Numbers of a step -/

def Vec3.map (f : Double → Double) (v : Vec3) : Vec3 :=
  ⟨f v.x, f v.y, f v.z⟩

def Area.mapNumbers (f : Double → Double) (area : Area) : Area :=
  ⟨area.first.map (Vec3.map f), area.second.map (Vec3.map f)⟩

def Caption.mapNumbers (f : Double → Double) (caption : Caption) : Caption :=
  { caption with point := caption.point.map (Vec3.map f) }

def Placement.mapNumbers (f : Double → Double) (placement : Placement) : Placement :=
  { placement with area := placement.area.mapNumbers f }

/-- The record with `f` applied to its numbers. -/
def Record.mapNumbers (f : Double → Double) (r : Record) : Record :=
  { r with
    duration := r.duration.map f
    point := r.point.map (Vec3.map f)
    degrees := r.degrees.map f
    volume := r.volume.map f
    pitch := r.pitch.map f
    pos := r.pos.map (Vec3.map f)
    pos2 := r.pos2.map (Vec3.map f)
    rotX := r.rotX.map f
    rotY := r.rotY.map f
    rotZ := r.rotZ.map f
    offset := r.offset.map (Vec3.map f)
    yaw := r.yaw.map f
    lookAt := r.lookAt.map (Vec3.map f)
    motion := r.motion.map (Vec3.map f)
    count := r.count.map f
    height := r.height.map f
    scale := r.scale.map f }

/-- The instruction with `f` applied to its numbers; counts are integers and stay. -/
def Op.mapNumbers (f : Double → Double) : Op → Op
  | .showStructure template height scale => .showStructure template height (scale.map f)
  | .text words caption => .text words (caption.mapNumbers f)
  | .sharedText key caption => .sharedText key (caption.mapNumbers f)
  | .rotateCamera degrees => .rotateCamera (degrees.map f)
  | .showControls duration point direction action item =>
    .showControls duration (point.map (Vec3.map f)) direction action item
  | .playSound sound volume pitch source => .playSound sound (volume.map f) (pitch.map f) source
  | .setBlock placement => .setBlock (placement.mapNumbers f)
  | .destroyBlock pos particles => .destroyBlock (pos.map (Vec3.map f)) particles
  | .replaceBlocks placement => .replaceBlocks (placement.mapNumbers f)
  | .showSection area direction => .showSection (area.mapNumbers f) direction
  | .hideSection area direction => .hideSection (area.mapNumbers f) direction
  | .showIndependentSection area direction link =>
    .showIndependentSection (area.mapNumbers f) direction link
  | .mergeSection area direction link => .mergeSection (area.mapNumbers f) direction link
  | .rotateSection link rotX rotY rotZ duration =>
    .rotateSection link (rotX.map f) (rotY.map f) (rotZ.map f) duration
  | .moveSection link offset duration => .moveSection link (offset.map (Vec3.map f)) duration
  | .modifyBlockEntity area nbt redraw => .modifyBlockEntity (area.mapNumbers f) nbt redraw
  | .createEntity entity pos yaw pitch lookAt =>
    .createEntity entity (pos.map (Vec3.map f)) (yaw.map f) (pitch.map f) (lookAt.map (Vec3.map f))
  | .createItemEntity item pos motion count =>
    .createItemEntity item (pos.map (Vec3.map f)) (motion.map (Vec3.map f)) count
  | .clearEntities entity area fullScene => .clearEntities entity (area.mapNumbers f) fullScene
  | .clearItemEntities item area fullScene => .clearItemEntities item (area.mapNumbers f) fullScene
  | .showOutline color area duration => .showOutline color (area.mapNumbers f) duration
  | .toggleRedstonePower area => .toggleRedstonePower (area.mapNumbers f)
  | .indicateRedstone pos => .indicateRedstone (pos.map (Vec3.map f))
  | .indicateSuccess pos => .indicateSuccess (pos.map (Vec3.map f))
  | .unknown record => .unknown (record.mapNumbers f)
  | op => op

def Step.mapNumbers (f : Double → Double) (step : Step) : Step :=
  { step with op := step.op.mapNumbers f }

def Segment.mapNumbers (f : Double → Double) (segment : Segment) : Segment :=
  { segment with steps := segment.steps.map (Step.mapNumbers f) }

def Scene.mapNumbers (f : Double → Double) (scene : Scene) : Scene :=
  { scene with
    steps := scene.steps.map (Step.mapNumbers f)
    segments := scene.segments.map (List.map (Segment.mapNumbers f)) }

/-! ## Equality -/

/-- The steps are equal, where a zero equals a zero. -/
def Step.Equal (a b : Step) : Prop :=
  a.mapNumbers Binary.dropZeroSign = b.mapNumbers Binary.dropZeroSign

instance (a b : Step) : Decidable (a.Equal b) :=
  inferInstanceAs (Decidable (_ = _))

/-- The scenes are equal, where a zero equals a zero. -/
def Scene.Equal (a b : Scene) : Prop :=
  a.mapNumbers Binary.dropZeroSign = b.mapNumbers Binary.dropZeroSign

instance (a b : Scene) : Decidable (a.Equal b) :=
  inferInstanceAs (Decidable (_ = _))

end Storyboard
