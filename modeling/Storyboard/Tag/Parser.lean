import Storyboard.Tag.Basic

/-!
# Reading data patches

A reader of tag trees from tokens. Compounds, lists and arrays nest at most `Tag.maxDepth` deep; the
reader recurses on the depth that is left.

## Main definitions

* `Tag.Error`: why a text is no data patch.
* `Tag.readValue`: a tree at the start of a list of tokens.
* `Tag.parse`: a text that is one compound.
-/

namespace Storyboard.Tag

open Token (Lexeme)

/-- The three kinds of arrays. -/
inductive ArrayKind where
  | bytes
  | ints
  | longs
deriving DecidableEq

def ArrayKind.letter : ArrayKind → String
  | .bytes => "B"
  | .ints => "I"
  | .longs => "L"

/-- What a reader was looking for. -/
inductive Expected where
  | value
  | key
  | colon
  | commaOrBrace
  | commaOrBracket
  | number
  | endOfText
deriving DecidableEq

def Expected.describe : Expected → String
  | .value => "a value"
  | .key => "a key"
  | .colon => "`:`"
  | .commaOrBrace => "`,` or `\x7d`"
  | .commaOrBracket => "`,` or `]`"
  | .number => "a number"
  | .endOfText => "end of input"

/-- How many compounds, lists and arrays may stand around each other. -/
def maxDepth : Nat :=
  512

/-- Why a text is no data patch. -/
inductive Error where
  | lexical (cause : Token.Error)
  | unexpected (expected : Expected) (found : Token)
  | badElement (word : String) (kind : ArrayKind)
  | badArrayType (name : String)
  | notCompound
  | tooDeep
deriving DecidableEq

def Error.message : Error → String
  | .lexical cause => cause.message
  | .unexpected expected found => "expected " ++ expected.describe ++ ", found " ++ found.describe
  | .badElement word kind => "`" ++ word ++ "` is not a valid " ++ kind.letter ++ " array element"
  | .badArrayType name => "unknown array type `" ++ name ++ "`"
  | .notCompound => "data patch must be a compound"
  | .tooDeep => "data patch nests deeper than " ++ toString maxDepth ++ " levels"

/-- What a reader gives back: a result and the rest of the tokens. -/
abbrev Reader (α : Type) := List Lexeme → Except Error (α × List Lexeme)

/-- The next token. -/
def next : Reader Token
  | [] => .ok (.endOfText, [])
  | .ok token :: rest => .ok (token, rest)
  | .error cause :: _ => .error (.lexical cause)

/-! ## Arrays -/

/-- The words of an array up to its closing bracket, at least one. -/
def readWords : Nat → Reader (List String)
  | 0, _ => .error (.unexpected .number .endOfText)
  | fuel + 1, pieces => do
    let (token, rest) ← next pieces
    match token with
    | .word word =>
      let (token, rest) ← next rest
      match token with
      | .comma =>
        let (words, rest) ← readWords fuel rest
        return (word :: words, rest)
      | .closeBracket => return ([word], rest)
      | token => .error (.unexpected .commaOrBracket token)
    | token => .error (.unexpected .number token)

def ofElement? : ArrayKind → String → Option Int
  | .bytes, word => match ofWord word with
    | .byte n => some n.toInt
    | _ => (readInt8? word.toList).map (·.toInt)
  | .ints, word => match ofWord word with
    | .int n => some n.toInt
    | _ => none
  | .longs, word => match ofWord word with
    | .long n => some n.toInt
    | .int n => some n.toInt
    | _ => none

/-- The numbers that the words of an array write; the first that writes none is reported. -/
def elements (kind : ArrayKind) (words : List String) : Except Error (List Int) :=
  words.mapM fun word => match ofElement? kind word with
    | some n => .ok n
    | none => .error (.badElement word kind)

def ofElements : ArrayKind → List Int → Tag
  | .bytes, ns => .byteArray (ns.map Int8.ofInt)
  | .ints, ns => .intArray (ns.map Int32.ofInt)
  | .longs, ns => .longArray (ns.map Int64.ofInt)

/-- An array after its type and semicolon. Its words are all read before any is understood. -/
def readArray (kind : ArrayKind) : Reader Tag
  | .ok .closeBracket :: rest => .ok (ofElements kind [], rest)
  | pieces => do
    let (words, rest) ← readWords (pieces.length + 1) pieces
    let ns ← elements kind words
    return (ofElements kind ns, rest)

def ArrayKind.ofName? (name : String) : Option ArrayKind :=
  [ArrayKind.bytes, .ints, .longs].find? (·.letter = name)

/-! ## Lists and compounds -/

/-- The items of a list up to its closing bracket, at least one. -/
def readItems (item : Reader Tag) : Nat → Reader (List Tag)
  | 0, _ => .error (.unexpected .value .endOfText)
  | fuel + 1, pieces => do
    let (first, rest) ← item pieces
    let (token, rest) ← next rest
    match token with
    | .comma =>
      let (items, rest) ← readItems item fuel rest
      return (first :: items, rest)
    | .closeBracket => return ([first], rest)
    | token => .error (.unexpected .commaOrBracket token)

/-- A list or an array after its opening bracket: a word and a semicolon make it an array. -/
def readList (item : Reader Tag) : Reader Tag
  | .ok (.word name) :: .ok .semicolon :: rest =>
    match ArrayKind.ofName? name with
    | some kind => readArray kind rest
    | none => .error (.badArrayType name)
  | .ok .closeBracket :: rest => .ok (.list [], rest)
  | pieces => do
    let (items, rest) ← readItems item (pieces.length + 1) pieces
    return (.list items, rest)

/-- The name of an entry with its colon. -/
def readKey (pieces : List Lexeme) : Except Error (String × List Lexeme) := do
  let (token, rest) ← next pieces
  let key ← match token with
    | .word text => .ok text
    | .quoted text => .ok text
    | token => .error (.unexpected .key token)
  let (token, rest) ← next rest
  match token with
  | .colon => return (key, rest)
  | token => .error (.unexpected .colon token)

/-- The entries of a compound up to its closing brace, at least one. -/
def readEntries (item : Reader Tag) : Nat → Reader (List (String × Tag))
  | 0, _ => .error (.unexpected .key .endOfText)
  | fuel + 1, pieces => do
    let (key, rest) ← readKey pieces
    let (value, rest) ← item rest
    let (token, rest) ← next rest
    match token with
    | .comma =>
      let (entries, rest) ← readEntries item fuel rest
      return ((key, value) :: entries, rest)
    | .closeBrace => return ([(key, value)], rest)
    | token => .error (.unexpected .commaOrBrace token)

/-- A compound after its opening brace. -/
def readCompound (item : Reader Tag) : Reader Tag
  | .ok .closeBrace :: rest => .ok (.compound [], rest)
  | pieces => do
    let (entries, rest) ← readEntries item (pieces.length + 1) pieces
    return (.compound entries, rest)

/-- A tree at the start of a list of tokens, with at most `depth` brackets around each other. -/
def readValue : Nat → Reader Tag
  | depth, pieces => do
    let (token, rest) ← next pieces
    match token with
    | .openBrace => match depth with
      | 0 => .error .tooDeep
      | depth + 1 => readCompound (readValue depth) rest
    | .openBracket => match depth with
      | 0 => .error .tooDeep
      | depth + 1 => readList (readValue depth) rest
    | .quoted text => return (.string text, rest)
    | .word word => return (ofWord word, rest)
    | token => .error (.unexpected .value token)

/-- The compound that a text writes. -/
def parse (s : String) : Except Error Tag := do
  let (tag, rest) ← readValue maxDepth (Token.scan s)
  let (token, _) ← next rest
  if token ≠ .endOfText then .error (.unexpected .endOfText token)
  else match tag with
    | .compound entries => return .compound entries
    | _ => .error .notCompound

end Storyboard.Tag
