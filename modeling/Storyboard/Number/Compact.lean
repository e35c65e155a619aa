import Storyboard.Number.Shortest

/-!
# Whole numbers without a fraction

A 64-bit number that is whole and not too large is written as an integer.

## Main definitions

* `Binary.whole?`: the whole number that a number is, if it is below a bound.
* `numberText`: the text of a number in scripts and traces.
-/

namespace Storyboard

/-- The whole number with the same value, if there is one and it is below `bound`. -/
def Binary.whole? {f : Format} (bound : Nat) (x : Binary f) : Option Int :=
  match x.toRat? with
  | some r => if r.den = 1 ∧ r.num.natAbs < bound then some r.num else none
  | none => none

/-- Whole numbers below this bound are written as integers in scripts and traces. -/
def wholeTextBound : Nat :=
  1000000000000000

/-- The text of a number in scripts and traces: no point and no sign of zero in a whole number. -/
def numberText (x : Double) : String :=
  String.ofList <| match x.whole? wholeTextBound with
    | some n => writeInt n
    | none => plainText x

end Storyboard
