import Storyboard.Text.Blank

/-!
# Keywords

Closed sets of words that a step may name, and fields that hold one of them. A field keeps a
spelling that names no word, so that it survives a save.

## Main definitions

* `Vocabulary`: the words of a set with their spellings.
* `Direction`, `Palette`, `SoundSource`, `InputAction`: the four sets.
* `Keyword`: a field that holds a word or a spelling that is none.
-/

namespace Storyboard

/-- A closed set of words: its title in messages, its words in order, and their spellings. -/
class Vocabulary (α : Type) where
  title : String
  words : List α
  spelling : α → String

/-- The side that a section comes in from or leaves to, or that an input hint points at. -/
inductive Direction where
  | down | up | north | south | west | east
deriving DecidableEq

/-- The colours of overlays. -/
inductive Palette where
  | white | black | red | green | blue | slow | medium | fast | input | output
deriving DecidableEq

/-- The volume control that a sound belongs to. -/
inductive SoundSource where
  | master | music | record | weather | block | hostile | neutral | player | ambient | voice
deriving DecidableEq

/-- What an input hint asks the player to do. -/
inductive InputAction where
  | leftClick | rightClick | scroll
deriving DecidableEq

instance : Vocabulary Direction where
  title := "Direction"
  words := [.down, .up, .north, .south, .west, .east]
  spelling
    | .down => "down"
    | .up => "up"
    | .north => "north"
    | .south => "south"
    | .west => "west"
    | .east => "east"

instance : Vocabulary Palette where
  title := "Palette"
  words := [.white, .black, .red, .green, .blue, .slow, .medium, .fast, .input, .output]
  spelling
    | .white => "white"
    | .black => "black"
    | .red => "red"
    | .green => "green"
    | .blue => "blue"
    | .slow => "slow"
    | .medium => "medium"
    | .fast => "fast"
    | .input => "input"
    | .output => "output"

instance : Vocabulary SoundSource where
  title := "SoundSource"
  words := [.master, .music, .record, .weather, .block, .hostile, .neutral, .player, .ambient,
    .voice]
  spelling
    | .master => "master"
    | .music => "music"
    | .record => "record"
    | .weather => "weather"
    | .block => "block"
    | .hostile => "hostile"
    | .neutral => "neutral"
    | .player => "player"
    | .ambient => "ambient"
    | .voice => "voice"

instance : Vocabulary InputAction where
  title := "InputAction"
  words := [.leftClick, .rightClick, .scroll]
  spelling
    | .leftClick => "left_click"
    | .rightClick => "right_click"
    | .scroll => "scroll"

namespace Vocabulary

variable {α : Type} [Vocabulary α]

/-- The word that a text names: blanks at its ends and the case of its letters do not count. -/
def find? (s : String) : Option α :=
  let wanted := (trimChars s.toList).map Char.toLower
  words.find? fun (a : α) => (spelling a).toList = wanted

/-- The message about a text that names no word. -/
def unknownMessage (α : Type) [Vocabulary α] (s : String) : String :=
  "unknown " ++ title α ++ " `" ++ s ++ "`"

end Vocabulary

/-- A field for a word of a vocabulary. -/
inductive Keyword (α : Type) where
  | known (word : α)
  | raw (spelling : String)
deriving DecidableEq

namespace Keyword

variable {α : Type} [Vocabulary α]

/-- The word that a text names, or the text as it is. -/
def read (s : String) : Keyword α :=
  match Vocabulary.find? s with
  | some word => .known word
  | none => .raw s

/-- The spelling to save: a word in its own spelling, anything else as it was read. -/
def text : Keyword α → String
  | .known word => Vocabulary.spelling word
  | .raw s => s

end Keyword

end Storyboard
