import Storyboard.Json.Basic
import Storyboard.Number.Numeral

/-!
# Writing JSON

The compact text of a value: no blanks, members in order.

## Main definitions

* `Json.floatNumeral`: the numeral of a number that is no integer.
* `Json.numberChars`: the text of a number.
* `Json.compact`: the text of a value.
-/

namespace Storyboard.Json

/-- The escape for one character of a string: quotes, backslashes and controls only. -/
def escapeChar (c : Char) : List Char :=
  if c = '"' ∨ c = '\\' then ['\\', c]
  else if c = '\x08' then ['\\', 'b']
  else if c = '\x0c' then ['\\', 'f']
  else if c = '\n' then ['\\', 'n']
  else if c = '\r' then ['\\', 'r']
  else if c = '\t' then ['\\', 't']
  else if c.toNat < 0x20 then
    ['\\', 'u', '0', '0', Nat.digitChar (c.toNat / 16), Nat.digitChar (c.toNat % 16)]
  else [c]

def stringChars (s : String) : List Char :=
  '"' :: (s.toList.flatMap escapeChar ++ ['"'])

/-- The digits on one side of a point, where a zero stands for none. -/
def side (digits : List Char) : List Char :=
  if digits = [] then ['0'] else digits

/-- The numeral of a decimal. Where its first digit stands for `10 ^ -5` to `10 ^ 15` it is written
out, with at least one digit after the point; otherwise it has an exponent. -/
def numeralOf (d : Decimal) : Numeral :=
  let digits := d.toDigits
  let exponent := digits.point - 1
  if -5 ≤ exponent ∧ exponent ≤ 15 then
    ⟨d.negative, side digits.split.1, side digits.split.2, 0⟩
  else ⟨d.negative, digits.digits.take 1, digits.digits.drop 1, exponent⟩

/-- The text of a numeral: no point without digits behind it, and a sign in every exponent. -/
def numeralChars (numeral : Numeral) : List Char :=
  signText numeral.negative ++ numeral.whole ++
    (if numeral.fraction = [] then [] else '.' :: numeral.fraction) ++
    if numeral.exponent = 0 then []
    else 'e' :: ((if numeral.exponent < 0 then [] else ['+']) ++ writeInt numeral.exponent)

/-- The numeral that is written for a number that is no integer. Of two equally near decimals the
even one is taken. -/
def floatNumeral (negative : Bool) (m : Nat) (q : Int) (canonical : Format.double.Canonical m q) :
    Numeral :=
  numeralOf (Binary.shortest .even negative m q canonical)

def floatChars : Double → List Char
  | .finite negative m q canonical => numeralChars (floatNumeral negative m q canonical)
  | _ => "null".toList

def numberChars : JsonNumber → List Char
  | .int n => writeInt n
  | .float x => floatChars x

mutual

/-- The characters of a value. -/
def chars : Json → List Char
  | .null => "null".toList
  | .bool true => "true".toList
  | .bool false => "false".toList
  | .number n => numberChars n
  | .string s => stringChars s
  | .array items => '[' :: (itemChars items ++ [']'])
  | .object members => '\x7b' :: (memberChars members ++ ['\x7d'])

/-- Items with commas between them. -/
def itemChars : List Json → List Char
  | [] => []
  | [item] => chars item
  | item :: next :: items => chars item ++ ',' :: itemChars (next :: items)

/-- Members with commas between them. -/
def memberChars : List (String × Json) → List Char
  | [] => []
  | [(key, value)] => stringChars key ++ ':' :: chars value
  | (key, value) :: next :: members =>
    stringChars key ++ ':' :: (chars value ++ ',' :: memberChars (next :: members))

end

/-- The compact text of a value. -/
def compact (value : Json) : String :=
  String.ofList (chars value)

end Storyboard.Json
