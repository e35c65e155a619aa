import Storyboard.Text.Quoted

/-!
# Tokens of data patches

A data patch is a text of symbols, words and quoted texts. Numbers, truth values and bare texts are
all words here; `Tag.ofWord` tells them apart.

## Main definitions

* `Token`: the tokens.
* `Token.scan`: the tokens of a text. An unreadable piece does not stop it: the error stands in the
  piece's place.
-/

namespace Storyboard

/-- A token of a data patch. -/
inductive Token where
  | openBrace
  | closeBrace
  | openBracket
  | closeBracket
  | colon
  | comma
  | semicolon
  | word (text : String)
  | quoted (text : String)
  | endOfText
deriving DecidableEq

namespace Token

/-- Why a piece of text is no token. -/
inductive Error where
  | unclosed (quote : Char)
  | unexpected (c : Char)
deriving DecidableEq

def Error.message : Error → String
  | .unclosed quote => "no closing " ++ quote.toString ++ " found"
  | .unexpected c => "unexpected character " ++ c.toString

/-- The name of a token in messages. -/
def describe : Token → String
  | .openBrace => "LBrace"
  | .closeBrace => "RBrace"
  | .openBracket => "LBracket"
  | .closeBracket => "RBracket"
  | .colon => "Colon"
  | .comma => "Comma"
  | .semicolon => "Semicolon"
  | .word text => "Word(" ++ shown text ++ ")"
  | .quoted text => "Str(" ++ shown text ++ ")"
  | .endOfText => "Eof"

/-- The characters of words: letters and digits of ASCII and four marks. -/
def isWordChar (c : Char) : Bool :=
  c.isAlphanum || c = '_' || c = '.' || c = '+' || c = '-'

/-- The token of a character that is a token by itself. -/
def symbol? : Char → Option Token
  | '\x7b' => some .openBrace
  | '\x7d' => some .closeBrace
  | '[' => some .openBracket
  | ']' => some .closeBracket
  | ':' => some .colon
  | ',' => some .comma
  | ';' => some .semicolon
  | _ => none

/-- The rest of a quoted text after its opening quote: up to the next such quote that has no
backslash before it. A backslash stands for the character after it. -/
def readQuoted (quote : Char) : List Char → Option (List Char × List Char)
  | [] => none
  | ['\\'] => none
  | '\\' :: c :: rest => (readQuoted quote rest).map fun (text, rest) => (c :: text, rest)
  | c :: rest =>
    if c = quote then some ([], rest)
    else (readQuoted quote rest).map fun (text, rest) => (c :: text, rest)

theorem length_readQuoted {quote : Char} {cs text rest : List Char}
    (h : readQuoted quote cs = some (text, rest)) : rest.length < cs.length := by
  fun_induction readQuoted quote cs generalizing text with
  | case1 => simp at h
  | case2 => simp at h
  | case3 c tail ih =>
    obtain ⟨⟨t, r⟩, hr, he⟩ := Option.map_eq_some_iff.1 h
    obtain rfl : r = rest := by simpa using congrArg Prod.snd he
    have := ih hr
    simp only [List.length_cons]
    omega
  | case4 =>
    simp only [Option.some.injEq, Prod.mk.injEq] at h
    simp [← h.2]
  | case5 c tail _ _ _ ih =>
    obtain ⟨⟨t, r⟩, hr, he⟩ := Option.map_eq_some_iff.1 h
    obtain rfl : r = rest := by simpa using congrArg Prod.snd he
    have := ih hr
    simp only [List.length_cons]
    omega

/-- A piece of a data patch: a token, or why there is none. -/
abbrev Lexeme := Except Error Token

/-- The first piece of a text that does not start with a blank, and the rest after it. A quoted
text without its closing quote takes everything. -/
def readPiece (c : Char) (rest : List Char) : Lexeme × List Char :=
  match symbol? c with
  | some token => (.ok token, rest)
  | none =>
    if c = '"' ∨ c = '\'' then
      match readQuoted c rest with
      | some (text, rest) => (.ok (.quoted (String.ofList text)), rest)
      | none => (.error (.unclosed c), [])
    else if isWordChar c then
      (.ok (.word (String.ofList (c :: rest.takeWhile isWordChar))), rest.dropWhile isWordChar)
    else (.error (.unexpected c), rest)

theorem length_dropWhile_le (p : Char → Bool) (cs : List Char) :
    (cs.dropWhile p).length ≤ cs.length :=
  (List.dropWhile_sublist p).length_le

theorem length_readPiece (c : Char) (rest : List Char) :
    (readPiece c rest).2.length ≤ rest.length := by
  unfold readPiece
  split
  · simp
  · split
    · split
      · next h => exact Nat.le_of_lt (length_readQuoted h)
      · simp
    · split
      · exact length_dropWhile_le _ _
      · simp

/-- The pieces of a text, with the end of the text as the last. -/
def scanChars (cs : List Char) : List Lexeme :=
  match _h : cs.dropWhile isBlank with
  | [] => [.ok .endOfText]
  | c :: rest =>
    let piece := readPiece c rest
    piece.1 :: scanChars piece.2
termination_by cs.length
decreasing_by
  have short := length_dropWhile_le isBlank cs
  have piece := length_readPiece c rest
  rw [_h, List.length_cons] at short
  omega

/-- The pieces of a text, with the end of the text as the last. -/
def scan (s : String) : List Lexeme :=
  scanChars s.toList

end Token

end Storyboard
