import Storyboard.Number.Decimal

/-!
# Numerals of 64-bit numbers

A numeral stands for the 64-bit number nearest to it. A quicker way gathers its digits in a 64-bit
integer and scales that by a power of ten in 64-bit numbers. Every step of it rounds, so that a
neighbour of the nearest number may come out.

## Main definitions

* `Numeral.decimal`, `Numeral.nearest`: the value, and the number nearest to it.
* `Numeral.gathered`: the digits as an integer, and its power of ten.
* `Numeral.quick`: the number that the quicker way gives.
-/

namespace Storyboard

/-- A numeral as it is written: its sign, the digits on both sides of its point, its exponent. -/
structure Numeral where
  negative : Bool
  whole : List Char
  fraction : List Char
  exponent : Int

/-! ## Arithmetic -/

namespace Binary

variable {f : Format}

/-- The same number with the given sign. -/
def withSign (negative : Bool) : Binary f → Binary f
  | .nan => .nan
  | .infinite _ => .infinite negative
  | .finite _ m q canonical => .finite negative m q canonical

/-- The number nearest to what `op` makes of two finite numbers, neither of them negative. -/
def rounded (op : Rat → Rat → Rat) (x y : Binary f) : Binary f :=
  match x.toRat?, y.toRat? with
  | some a, some b => ofMagnitude f false (op a b)
  | _, _ => .nan

end Binary

namespace Double

/-- The greatest power of ten among the 64-bit numbers. -/
def maxPower : Nat :=
  308

/-- The number nearest to a power of ten. -/
def powerOfTen (n : Nat) : Double :=
  .ofMagnitude .double false (10 ^ n)

/-- The number multiplied by a power of ten. -/
def scaleUp (x : Double) (n : Nat) : Double :=
  if n ≤ maxPower then .rounded (· * ·) x (powerOfTen n)
  else if x.toRat? = some 0 then x
  else .infinite false

/-- The number divided by a power of ten, by the greatest one first as long as that is too small. -/
def scaleDown (x : Double) (n : Nat) : Double :=
  if n ≤ maxPower then .rounded (· / ·) x (powerOfTen n)
  else if x.toRat? = some 0 then x
  else scaleDown (.rounded (· / ·) x (powerOfTen maxPower)) (n - maxPower)
termination_by n
decreasing_by
  simp only [maxPower] at *
  omega

/-- The number multiplied by a power of ten, or divided by one if the exponent is negative. -/
def scale (x : Double) (exponent : Int) : Double :=
  if 0 ≤ exponent then scaleUp x exponent.toNat else scaleDown x (-exponent).toNat

end Double

/-! ## Reading -/

namespace Numeral

/-- The value of the numeral. -/
def decimal (numeral : Numeral) : Decimal :=
  .ofParts numeral.negative numeral.whole numeral.fraction numeral.exponent

/-- The number nearest to the numeral. -/
def nearest (numeral : Numeral) : Double :=
  numeral.decimal.toBinary .double

/-- Appends digits to a whole number up to the first that makes it too great for 64 bits. What is
left of the digits starts with this one. -/
def gather (n : Nat) : List Char → Nat × List Char
  | [] => (n, [])
  | c :: cs =>
    let next := 10 * n + (c.toNat - '0'.toNat)
    if next ≤ 18446744073709551615 then gather next cs else (n, c :: cs)

/-- The digits as an integer of 64 bits, and the power of ten that it is scaled by. Digits that do
not fit count as zeros before the point and do not count behind it. -/
def gathered (numeral : Numeral) : Nat × Int :=
  let (n, excess) := gather 0 numeral.whole
  let (n, cut) := gather n numeral.fraction
  (n, numeral.exponent + excess.length - (numeral.fraction.length - cut.length))

/-- The number that the numeral is quickly read as. -/
def quick (numeral : Numeral) : Double :=
  let (n, exponent) := numeral.gathered
  ((Double.ofInt n).scale exponent).withSign numeral.negative

end Numeral

end Storyboard
