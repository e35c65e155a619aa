import Storyboard.Json.Basic
import Storyboard.Number.Numeral

/-!
# Reading JSON

A strict reader: no comments, no trailing commas, no numbers outside the range of finite 64-bit
numbers, no escapes that are half a character. Values nest at most `Json.maxDepth` deep; the reader
recurses on the depth that is left. Numerals that are no integers are read by a `Rounding`, for
documents by the quick one.

## Main definitions

* `Json.readString`, `Json.readNumber`: strings and numbers at the start of a text.
* `Json.readValue`: a value at the start of a text.
* `Json.parseWith?`, `Json.parse?`: a text that is one value.
-/

namespace Storyboard.Json

/-- The blanks that may stand between tokens. -/
def isSpace (c : Char) : Bool :=
  c = ' ' || c = '\t' || c = '\n' || c = '\r'

def skipSpace (cs : List Char) : List Char :=
  cs.dropWhile isSpace

/-! ## Strings -/

def hexDigit? (c : Char) : Option Nat :=
  if c.isDigit then some (c.toNat - '0'.toNat)
  else if 'a' ≤ c ∧ c ≤ 'f' then some (c.toNat - 'a'.toNat + 10)
  else if 'A' ≤ c ∧ c ≤ 'F' then some (c.toNat - 'A'.toNat + 10)
  else none

/-- The unit that four hexadecimal digits write. -/
def hexUnit? (a b c d : Char) : Option Nat := do
  let a ← hexDigit? a
  let b ← hexDigit? b
  let c ← hexDigit? c
  let d ← hexDigit? d
  return ((a * 16 + b) * 16 + c) * 16 + d

/-- The character that one letter after a backslash stands for. -/
def simpleEscape? : Char → Option Char
  | '"' => some '"'
  | '\\' => some '\\'
  | '/' => some '/'
  | 'b' => some '\x08'
  | 'f' => some '\x0c'
  | 'n' => some '\n'
  | 'r' => some '\r'
  | 't' => some '\t'
  | _ => none

/-- The unit is the first half of a pair. -/
def isHighUnit (u : Nat) : Bool :=
  0xd800 ≤ u && u ≤ 0xdbff

/-- The unit is the second half of a pair. -/
def isLowUnit (u : Nat) : Bool :=
  0xdc00 ≤ u && u ≤ 0xdfff

/-- The rest of a string after its opening quote, up to its closing quote. A unit that is half of a
pair has to stand in front of, or after, its other half. -/
def readString : List Char → Option (List Char × List Char)
  | [] => none
  | '"' :: rest => some ([], rest)
  | '\\' :: 'u' :: a :: b :: c :: d :: rest =>
    match hexUnit? a b c d with
    | none => none
    | some unit =>
      if isLowUnit unit then none
      else if isHighUnit unit then
        match rest with
        | '\\' :: 'u' :: a :: b :: c :: d :: rest =>
          match hexUnit? a b c d with
          | none => none
          | some low =>
            if isLowUnit low then
              let code := 0x10000 + (unit - 0xd800) * 0x400 + (low - 0xdc00)
              (readString rest).map fun (cs, rest) => (Char.ofNat code :: cs, rest)
            else none
        | _ => none
      else (readString rest).map fun (cs, rest) => (Char.ofNat unit :: cs, rest)
  | '\\' :: c :: rest =>
    match simpleEscape? c with
    | none => none
    | some c => (readString rest).map fun (cs, rest) => (c :: cs, rest)
  | c :: rest =>
    if c.toNat < 0x20 ∨ c = '\\' then none
    else (readString rest).map fun (cs, rest) => (c :: cs, rest)

/-! ## Numbers -/

/-- A whole numeral: an integer where 64 bits hold it. The negative zero is not an integer. -/
def ofWhole (negative : Bool) (n : Nat) : Option JsonNumber :=
  if negative then
    if n ≠ 0 ∧ n ≤ 9223372036854775808 then some (.int (-n)) else none
  else if n ≤ 18446744073709551615 then some (.int n)
  else none

/-- How numerals that are no integers are read. -/
abbrev Rounding := Numeral → Double

/-- The number that a numeral is read as, which has to be finite. -/
def ofNumeral? (round : Rounding) (numeral : Numeral) : Option JsonNumber :=
  let x := round numeral
  if x.isFinite then some (.float x) else none

/-- Digits after a point, at least one, if there is a point. -/
def readFraction : List Char → Option (List Char × List Char)
  | '.' :: rest =>
    let digits := rest.takeWhile Char.isDigit
    if digits = [] then none else some (digits, rest.dropWhile Char.isDigit)
  | rest => some ([], rest)

/-- The exponent after its mark, if there is one: an optional sign and at least one digit. -/
def readExponent : List Char → Option (Option Int × List Char)
  | mark :: rest =>
    if mark = 'e' ∨ mark = 'E' then
      let (negative, rest) := takeSign rest
      let digits := rest.takeWhile Char.isDigit
      if digits = [] then none
      else
        let exponent : Int := if negative then -(ofDigits digits : Int) else ofDigits digits
        some (some exponent, rest.dropWhile Char.isDigit)
    else some (none, mark :: rest)
  | [] => some (none, [])

/-- A number without its sign. Its whole part has no zero in front of other digits. -/
def readUnsigned (round : Rounding) (negative : Bool) (cs : List Char) :
    Option (JsonNumber × List Char) := do
  let whole := cs.takeWhile Char.isDigit
  if whole = [] ∨ (whole.head? = some '0' ∧ whole ≠ ['0']) then none
  else
    let (fraction, rest) ← readFraction (cs.dropWhile Char.isDigit)
    let (exponent, rest) ← readExponent rest
    let inexact := ofNumeral? round ⟨negative, whole, fraction, exponent.getD 0⟩
    if fraction = [] ∧ exponent = none then
      let number ← (ofWhole negative (ofDigits whole)).or inexact
      return (number, rest)
    else
      let number ← inexact
      return (number, rest)

/-- A number at the start of a text. -/
def readNumber (round : Rounding) : List Char → Option (JsonNumber × List Char)
  | '-' :: cs => readUnsigned round true cs
  | cs => readUnsigned round false cs

/-! ## Values -/

/-- What a reader gives back: a value and the rest of the text. -/
abbrev Reader (α : Type) := List Char → Option (α × List Char)

/-- The items of an array up to its closing bracket, at least one. -/
def readItems (item : Reader Json) : Nat → Reader (List Json)
  | 0, _ => none
  | fuel + 1, cs => do
    let (first, rest) ← item cs
    match skipSpace rest with
    | ',' :: rest =>
      let (items, rest) ← readItems item fuel rest
      return (first :: items, rest)
    | ']' :: rest => return ([first], rest)
    | _ => none

/-- The members of an object up to its closing brace, at least one. -/
def readMembers (item : Reader Json) : Nat → Reader (List (String × Json))
  | 0, _ => none
  | fuel + 1, cs =>
    match skipSpace cs with
    | '"' :: rest => do
      let (key, rest) ← readString rest
      match skipSpace rest with
      | ':' :: rest =>
        let (value, rest) ← item rest
        match skipSpace rest with
        | ',' :: rest =>
          let (members, rest) ← readMembers item fuel rest
          return ((String.ofList key, value) :: members, rest)
        | '\x7d' :: rest => return ([(String.ofList key, value)], rest)
        | _ => none
      | _ => none
    | _ => none

/-- A value that is neither an array nor an object. -/
def readScalar (round : Rounding) : Reader Json
  | 'n' :: 'u' :: 'l' :: 'l' :: rest => some (.null, rest)
  | 't' :: 'r' :: 'u' :: 'e' :: rest => some (.bool true, rest)
  | 'f' :: 'a' :: 'l' :: 's' :: 'e' :: rest => some (.bool false, rest)
  | '"' :: rest => (readString rest).map fun (cs, rest) => (.string (String.ofList cs), rest)
  | cs => (readNumber round cs).map fun (n, rest) => (.number n, rest)

/-- A value at the start of a text, with at most `depth` arrays and objects around each other. Items
are separated, so there are never more of them than characters left. -/
def readValue (round : Rounding) : Nat → Reader Json
  | 0, cs =>
    match skipSpace cs with
    | '[' :: _ | '\x7b' :: _ => none
    | cs => readScalar round cs
  | depth + 1, cs =>
    match skipSpace cs with
    | '[' :: rest =>
      match skipSpace rest with
      | ']' :: rest => some (.array [], rest)
      | rest => (readItems (readValue round depth) rest.length rest).map fun (items, rest) =>
        (.array items, rest)
    | '\x7b' :: rest =>
      match skipSpace rest with
      | '\x7d' :: rest => some (.object [], rest)
      | rest => (readMembers (readValue round depth) rest.length rest).map fun (members, rest) =>
        (ofMembers members, rest)
    | cs => readScalar round cs

/-- How many arrays and objects may stand around each other. -/
def maxDepth : Nat :=
  127

/-- The value that a text writes. -/
def parseWith? (round : Rounding) (s : String) : Option Json :=
  match readValue round maxDepth s.toList with
  | some (value, rest) => if skipSpace rest = [] then some value else none
  | none => none

/-- The value that a text writes, its numerals read quickly. -/
def parse? (s : String) : Option Json :=
  parseWith? Numeral.quick s

end Storyboard.Json
