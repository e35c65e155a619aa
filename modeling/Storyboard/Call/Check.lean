import Storyboard.Call.Basic
import Storyboard.Step.Basic
import Storyboard.Tag.Parser

/-!
# Checking steps

A step becomes a call when nothing that it needs is missing or wrong; otherwise the first fault in
the order of its checks is the reason that it is left out. The checks of single fields are the same
for every back end, and each back end says in its own words what is wrong.

## Main definitions

* `Report`: the words of a back end for what is wrong with a field.
* `Fault`: why a step is left out.
* `Op.call`: the call that an instruction asks for.
-/

namespace Storyboard

/-- What a back end reports about a field that is missing or wrong. -/
class Report (ε : Type) where
  missing (field : String) : ε
  invalidId (field value : String) (cause : Identifier.Error) : ε
  unknownKeyword (field value : String) : ε
  invalidPatch (cause : Tag.Error) : ε
  unlinked (key : String) : ε

/-- Why a step is left out. -/
inductive Fault where
  | missing (field : String)
  | invalidId (field value : String) (cause : Identifier.Error)
  | unknownKeyword (field value : String)
  | invalidPatch (cause : Tag.Error)
  | unlinked (key : String)
  | unknownKind (kind : String)
  | strayBoundary
deriving DecidableEq

def Fault.message : Fault → String
  | .missing field => "missing `" ++ field ++ "`"
  | .invalidId field value cause => "invalid `" ++ field ++ "` `" ++ value ++ "`: " ++ cause.message
  | .unknownKeyword field value => "unknown `" ++ field ++ "` value `" ++ value ++ "`"
  | .invalidPatch cause => "invalid data patch: " ++ cause.message
  | .unlinked key => "no section linked as `" ++ key ++ "`"
  | .unknownKind kind => "unknown step type `" ++ kind ++ "`"
  | .strayBoundary => "segment boundary inside a segment"

instance : Report Fault where
  missing := .missing
  invalidId := .invalidId
  unknownKeyword := .unknownKeyword
  invalidPatch := .invalidPatch
  unlinked := .unlinked

/-- The name that a step gives to an independent section; without one the section is the default. -/
abbrev Link := Option String

/-- The name of the section without a name. -/
def defaultLink : String :=
  "default"

/-- The key that a link is looked up by. -/
def linkKey (link : Link) : String :=
  link.getD defaultLink

/-! ## Checks of single fields -/

namespace Check

variable {ε : Type} [Report ε]

def need {α : Type} (field : String) : Option α → Except ε α
  | some a => .ok a
  | none => .error (Report.missing field)

def identifier (field value : String) : Except ε Identifier :=
  match Identifier.parse value with
  | .ok id => .ok id
  | .error cause => .error (Report.invalidId field value cause)

def neededIdentifier (field : String) : Option String → Except ε Identifier
  | some value => identifier field value
  | none => .error (Report.missing field)

def optionalIdentifier (field : String) : Option String → Except ε (Option Identifier)
  | some value => (identifier field value).map some
  | none => .ok none

/-- The word of a keyword field; a spelling that names no word is a fault. -/
def word {α : Type} (field : String) : Option (Keyword α) → Except ε (Option α)
  | none => .ok none
  | some (.known a) => .ok (some a)
  | some (.raw spelling) => .error (Report.unknownKeyword field spelling)

def neededDirection (direction : Option (Keyword Direction)) : Except ε Direction := do
  need "direction" (← word "direction" direction)

/-- A duration in ticks; a negative one is none at all. -/
def duration (ticks : Option Int32) : Except ε Nat :=
  (need "duration" ticks).map (·.toInt.toNat)

def selection (area : Area) : Except ε Selection :=
  need "pos" area.selection?

def block (pos : Option Vec3) : Except ε BlockPos :=
  (need "pos" pos).map Vec3.block

def patch (nbt : String) : Except ε Tag :=
  match Tag.parse nbt with
  | .ok tag => .ok tag
  | .error cause => .error (Report.invalidPatch cause)

def style (caption : Caption) : Except ε TextStyle :=
  (word "color" caption.color).map fun color => ⟨color, caption.nearTarget.getD false⟩

def state (placement : Placement) : Except ε BlockState :=
  (neededIdentifier "block" placement.block).map fun block =>
    ⟨block, placement.properties.getD .empty⟩

def scope (area : Area) (fullScene : Option Bool) : Except ε Scope :=
  if fullScene = some true then .ok .scene else (selection area).map .region

end Check

/-! ## Values of absent fields -/

/-- The volume and the pitch of a sound that gives none. -/
def usualLevel : Double :=
  .ofInt 1

/-- The turn of the camera that a step without an angle makes. -/
def usualTurn : Double :=
  .ofInt 90

/-- An angle or a coordinate that is not given. -/
def noTurn : Double :=
  .ofInt 0

def noMotion : Vec3 :=
  ⟨noTurn, noTurn, noTurn⟩

/-- A target to look at comes before angles; one angle alone takes the other as zero. -/
def facing (yaw pitch : Option Double) : Option Vec3 → Facing
  | some target => .lookAt target
  | none => match yaw, pitch with
    | none, none => .usual
    | yaw, pitch => .angles (yaw.getD noTurn) (pitch.getD noTurn)

/-! ## Instructions -/

namespace Op

open Check

/-- The call that an instruction asks for, with its section still given by a link. Blanks and key
frames ask for none. -/
def call : Op → Except Fault (Option (Call Link))
  | .blank => return none
  | .showStructure _ height scale => return some (.plain (.showStructure height scale))
  | .idle ticks => do
    let ticks ← duration ticks
    return some (.plain (.idle ticks))
  | .text words caption => do
    let ticks ← duration caption.duration
    let words ← need "text" words
    let point ← need "point" caption.point
    let style ← style caption
    return some (.plain (.showText ticks words point style))
  | .sharedText key caption => do
    let ticks ← duration caption.duration
    let key ← need "key" key
    let point ← need "point" caption.point
    let style ← style caption
    return some (.plain (.showSharedText ticks key point style))
  | .rotateCamera degrees => return some (.plain (.rotateCamera (degrees.getD usualTurn)))
  | .showControls ticks point direction action item => do
    let ticks ← duration ticks
    let point ← need "point" point
    let direction ← neededDirection direction
    let action ← word "action" action
    let item ← optionalIdentifier "item" item
    return some (.plain (.showControls ticks point direction action item))
  | .playSound sound volume pitch source => do
    let sound ← neededIdentifier "sound" sound
    let source ← word "source" source
    return some (.plain
      (.playSound sound (source.getD .master) (volume.getD usualLevel) (pitch.getD usualLevel)))
  | .setBlock placement => do
    let state ← state placement
    let blocks ← selection placement.area
    return some (.plain (.setBlocks blocks state (placement.particles.getD true)))
  | .destroyBlock pos particles => do
    let pos ← block pos
    return some (.plain (.destroyBlock pos (particles.getD true)))
  | .replaceBlocks placement => do
    let state ← state placement
    let blocks ← selection placement.area
    return some (.plain (.replaceBlocks blocks state (placement.particles.getD true)))
  | .showSection area direction => do
    let blocks ← selection area
    let direction ← word "direction" direction
    return some (.plain (.showSection blocks (direction.getD .down)))
  | .hideSection area direction => do
    let blocks ← selection area
    let direction ← word "direction" direction
    return some (.plain (.hideSection blocks (direction.getD .up)))
  | .showIndependentSection area direction link => do
    let blocks ← selection area
    let direction ← neededDirection direction
    return some (.linked (.detach blocks direction link))
  | .mergeSection area direction link => do
    let blocks ← selection area
    let direction ← neededDirection direction
    return some (.linked (.merge blocks direction link))
  | .hideIndependentSection link direction => do
    let direction ← word "direction" direction
    return some (.linked (.hide link (direction.getD .up)))
  | .rotateSection link rotX rotY rotZ ticks => do
    let ticks ← duration ticks
    let rotation : Vec3 := ⟨rotX.getD noTurn, rotY.getD noTurn, rotZ.getD noTurn⟩
    return some (.linked (.rotate link rotation ticks))
  | .moveSection link offset ticks => do
    let ticks ← duration ticks
    let offset ← need "offset" offset
    return some (.linked (.move link offset ticks))
  | .modifyBlockEntity area nbt redraw => do
    let blocks ← selection area
    let patch ← patch (← need "nbt" nbt)
    return some (.plain (.modifyBlockEntity blocks patch (redraw.getD false)))
  | .createEntity entity pos yaw pitch lookAt => do
    let entity ← neededIdentifier "entity" entity
    let pos ← need "pos" pos
    return some (.plain (.createEntity entity pos (facing yaw pitch lookAt)))
  | .createItemEntity item pos motion count => do
    let item ← neededIdentifier "item" item
    let pos ← need "pos" pos
    let count := max 1 ((count.map (·.toInt.toNat)).getD 1)
    return some (.plain (.createItemEntity item pos (motion.getD noMotion) count))
  | .clearEntities entity area fullScene => do
    let filter ← optionalIdentifier "entity" entity
    let scope ← scope area fullScene
    return some (.plain (.clearEntities filter scope))
  | .clearItemEntities item area fullScene => do
    let filter ← optionalIdentifier "item" item
    let scope ← scope area fullScene
    return some (.plain (.clearItemEntities filter scope))
  | .showOutline color area ticks => do
    let ticks ← duration ticks
    let blocks ← selection area
    let color ← word "color" color
    return some (.plain (.showOutline (color.getD .white) blocks ticks))
  | .toggleRedstonePower area => do
    let blocks ← selection area
    return some (.plain (.toggleRedstonePower blocks))
  | .indicateRedstone pos => do
    let pos ← block pos
    return some (.plain (.indicateRedstone pos))
  | .indicateSuccess pos => do
    let pos ← block pos
    return some (.plain (.indicateSuccess pos))
  | .keyframe => return none
  | .nextScene => .error .strayBoundary
  | .unknown record => .error (.unknownKind (record.kind.getD ""))

end Op

end Storyboard
