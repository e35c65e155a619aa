import Storyboard.Number.Shortest
import Storyboard.Tag.Token

/-!
# Tags

The trees that data patches write: numbers of several widths, texts, lists, arrays and compounds.

## Main definitions

* `Tag`: the trees.
* `Tag.ofWord`: what an unquoted word stands for.
* `Tag.text`: the text of a tree.
-/

namespace Storyboard

/-- A tree of tagged data. A compound keeps its entries in order, also those with one name. -/
inductive Tag where
  | byte (n : Int8)
  | short (n : Int16)
  | int (n : Int32)
  | long (n : Int64)
  | float (x : Single)
  | double (x : Double)
  | string (s : String)
  | list (items : List Tag)
  | byteArray (items : List Int8)
  | intArray (items : List Int32)
  | longArray (items : List Int64)
  | compound (entries : List (String × Tag))

namespace Tag

/-! ## Words -/

def readInt8? (text : List Char) : Option Int8 :=
  (readWithin? (-128) 127 text).map Int8.ofInt

def readInt16? (text : List Char) : Option Int16 :=
  (readWithin? (-32768) 32767 text).map Int16.ofInt

def readInt32? (text : List Char) : Option Int32 :=
  (readWithin? (-2147483648) 2147483647 text).map Int32.ofInt

def readInt64? (text : List Char) : Option Int64 :=
  (readWithin? (-9223372036854775808) 9223372036854775807 text).map Int64.ofInt

/-- The number that a word writes before a letter for its width, which may be of either case. -/
def ofSuffixed? (body : List Char) (suffix : Char) : Option Tag :=
  match suffix.toLower with
  | 'b' => (readInt8? body).map .byte
  | 's' => (readInt16? body).map .short
  | 'l' => (readInt64? body).map .long
  | 'f' => (Binary.read? .single body).map .float
  | 'd' => (Binary.read? .double body).map .double
  | _ => none

/-- The number that a word writes without a letter: one with a point or an exponent is not whole. -/
def ofPlain? (word : List Char) : Option Tag :=
  if word.any fun c => c = '.' || c = 'e' || c = 'E' then
    (Binary.read? .double word).map .double
  else (readInt32? word).map .int

/-- The number that a word writes. Its last letter, if it ends in one, is a width. -/
def numberOfWord? (word : List Char) : Option Tag :=
  match word.getLast? with
  | some last => if last.isAlpha then ofSuffixed? word.dropLast last else ofPlain? word
  | none => ofPlain? word

/-- What an unquoted word stands for: a truth value, a number, or else its own text. -/
def ofWord (word : String) : Tag :=
  if word = "true" then .byte 1
  else if word = "false" then .byte 0
  else (numberOfWord? word.toList).getD (.string word)

/-! ## Printing -/

def isString : Tag → Bool
  | .string _ => true
  | _ => false

/-- The text may stand without quotes: it is a word, and that word stands for itself. -/
def isBare (s : String) : Bool :=
  s != "" && s.toList.all Token.isWordChar && (ofWord s).isString

def stringChars (s : String) : List Char :=
  if isBare s then s.toList else quotedChars s.toList

/-- Pieces with commas between them. -/
def separated : List (List Char) → List Char
  | [] => []
  | [piece] => piece
  | piece :: next :: pieces => piece ++ ',' :: separated (next :: pieces)

def byteChars (n : Int8) : List Char :=
  writeInt n.toInt ++ ['b']

def longChars (n : Int64) : List Char :=
  writeInt n.toInt ++ ['L']

mutual

/-- The characters of a tree. -/
def chars : Tag → List Char
  | .byte n => byteChars n
  | .short n => writeInt n.toInt ++ ['s']
  | .int n => writeInt n.toInt
  | .long n => longChars n
  | .float x => plainText x ++ ['f']
  | .double x => plainText x ++ ['d']
  | .string s => stringChars s
  | .list items => '[' :: (separated (itemChars items) ++ [']'])
  | .byteArray items => "[B;".toList ++ separated (items.map byteChars) ++ [']']
  | .intArray items => "[I;".toList ++ separated (items.map (writeInt ·.toInt)) ++ [']']
  | .longArray items => "[L;".toList ++ separated (items.map longChars) ++ [']']
  | .compound entries => '\x7b' :: (separated (entryChars entries) ++ ['\x7d'])

/-- The characters of each item. -/
def itemChars : List Tag → List (List Char)
  | [] => []
  | item :: items => chars item :: itemChars items

/-- The characters of each entry. -/
def entryChars : List (String × Tag) → List (List Char)
  | [] => []
  | (name, value) :: entries => (stringChars name ++ ':' :: chars value) :: entryChars entries

end

/-- The text of a tree: no blanks, and quotes only where a text needs them. -/
def text (tag : Tag) : String :=
  String.ofList (chars tag)

end Tag

end Storyboard
