import Storyboard.Number.Binary

/-!
# Decimal numerals

`± digits · 10 ^ exponent`, as written in text, and its reading as a number of a binary format.

## Main definitions

* `Decimal.toBinary`: the nearest number of a format.
* `readInt?`, `readWithin?`: a whole number as text.
* `Binary.read?`: a number as text, with the words for the infinities.
-/

namespace Storyboard

/-- The decimal numeral `± digits · 10 ^ exponent`. -/
structure Decimal where
  negative : Bool
  digits : Nat
  exponent : Int
deriving DecidableEq

/-- The decimal digits of a whole number. -/
def digitsOf (n : Nat) : List Char :=
  Nat.toDigits 10 n

/-- The whole number that a list of decimal digits writes. -/
def ofDigits (ds : List Char) : Nat :=
  Nat.ofDigitChars 10 ds 0

namespace Decimal

/-- The numeral with the given digits before and after the point. -/
def ofParts (negative : Bool) (whole fraction : List Char) (exponent : Int) : Decimal :=
  ⟨negative, ofDigits (whole ++ fraction), exponent - fraction.length⟩

/-- The value without its sign. -/
def magnitude (d : Decimal) : Rat :=
  d.digits * 10 ^ d.exponent

/-- The position of the point, counted from before the first digit:
`10 ^ (point - 1) ≤ magnitude < 10 ^ point` unless the digits are zero. -/
def point (d : Decimal) : Int :=
  (digitsOf d.digits).length + d.exponent

/-- The nearest number of the format. Because `2 ^ 3 ≤ 10`, numerals far outside the format's
range are told from the position of their point, and no power is formed for them. -/
def toBinary (f : Format) (d : Decimal) : Binary f :=
  if d.digits = 0 then Binary.zero f d.negative
  else if f.maxExponent + f.precision ≤ 3 * (d.point - 1) then .infinite d.negative
  else if 3 * d.point ≤ f.minExponent - 1 ∧ d.point ≤ 0 then Binary.zero f d.negative
  else Binary.ofMagnitude f d.negative d.magnitude

end Decimal

/-! ## Reading -/

/-- Takes one optional sign off a text. -/
def takeSign : List Char → Bool × List Char
  | '-' :: rest => (true, rest)
  | '+' :: rest => (false, rest)
  | text => (false, text)

/-- A whole number: one optional sign, then at least one digit and nothing else. -/
def readInt? (text : List Char) : Option Int :=
  let (negative, body) := takeSign text
  if body ≠ [] ∧ body.all Char.isDigit then
    some (if negative then -(ofDigits body : Int) else ofDigits body)
  else none

/-- A whole number that lies in a range. -/
def readWithin? (least greatest : Int) (text : List Char) : Option Int :=
  (readInt? text).filter fun n => least ≤ n && n ≤ greatest

/-- A whole number as text. -/
def writeInt (n : Int) : List Char :=
  if n < 0 then '-' :: digitsOf n.natAbs else digitsOf n.natAbs

/-- An unsigned numeral: digits with an optional point, a digit on at least one side of it, and an
optional exponent. -/
def Decimal.read? (negative : Bool) (text : List Char) : Option Decimal :=
  let whole := text.takeWhile Char.isDigit
  let rest := text.dropWhile Char.isDigit
  let (fraction, rest) := match rest with
    | '.' :: rest => (rest.takeWhile Char.isDigit, rest.dropWhile Char.isDigit)
    | rest => ([], rest)
  if whole = [] ∧ fraction = [] then none
  else match rest with
    | [] => some (.ofParts negative whole fraction 0)
    | e :: rest =>
      if e = 'e' ∨ e = 'E' then
        (readInt? rest).map fun exponent => .ofParts negative whole fraction exponent
      else none

/-- A number as text: one optional sign, then a numeral or a word for an infinity or for what is
no number, in either case of letters. -/
def Binary.read? (f : Format) (text : List Char) : Option (Binary f) :=
  let (negative, body) := takeSign text
  let word := String.ofList (body.map Char.toLower)
  if word = "inf" ∨ word = "infinity" then some (.infinite negative)
  else if word = "nan" then some .nan
  else (Decimal.read? negative body).map (·.toBinary f)

end Storyboard
