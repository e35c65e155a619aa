import Storyboard.Number.Compact

/-!
# Positions and selections

Points in space, the blocks that hold them, and the blocks that a step applies to.

## Main definitions

* `Vec3`: a point.
* `BlockPos`: a block, from a point by rounding down.
* `Area`: one or two corners as a step gives them.
* `Selection`: one block or a box between two.
-/

namespace Storyboard

/-- A point or an offset in space. -/
structure Vec3 where
  x : Double
  y : Double
  z : Double
deriving DecidableEq

/-- The coordinates of a block. -/
structure BlockPos where
  x : Int32
  y : Int32
  z : Int32
deriving DecidableEq

/-- The corners that a step gives for the blocks it applies to. -/
structure Area where
  first : Option Vec3
  second : Option Vec3
deriving DecidableEq

/-- The blocks that a step applies to. -/
inductive Selection where
  | single (block : BlockPos)
  | box (corner opposite : BlockPos)
deriving DecidableEq

def Vec3.text (v : Vec3) : String :=
  numberText v.x ++ ", " ++ numberText v.y ++ ", " ++ numberText v.z

/-- The block that holds a point. -/
def Vec3.block (v : Vec3) : BlockPos :=
  ⟨v.x.toInt32 Rat.floor, v.y.toInt32 Rat.floor, v.z.toInt32 Rat.floor⟩

/-- A 32-bit integer as text. -/
def intText (n : Int32) : String :=
  String.ofList (writeInt n.toInt)

def BlockPos.text (p : BlockPos) : String :=
  intText p.x ++ ", " ++ intText p.y ++ ", " ++ intText p.z

/-- The selection between two corners. Corners in one block make a single block, and so does a
corner that stands alone. -/
def Area.selection? (area : Area) : Option Selection :=
  match area.first.map Vec3.block, area.second.map Vec3.block with
  | some a, some b => some (if a = b then .single a else .box a b)
  | some a, none => some (.single a)
  | none, some b => some (.single b)
  | none, none => none

def Selection.text : Selection → String
  | .single p => "[" ++ p.text ++ "]"
  | .box a b => "[" ++ a.text ++ "]..[" ++ b.text ++ "]"

end Storyboard
