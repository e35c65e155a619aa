import Storyboard.Number.Decimal

/-!
# Shortest decimals

The decimal with the fewest digits that reads back as a given number, and of those the nearest to
it. Every candidate is tried by reading it back, so what is chosen does read back.

## Main definitions

* `Binary.shortest`: the digits and the position of the point.
* `plainText`: the positional text of a number.
-/

namespace Storyboard

/-- Which of two equally near decimals is taken. -/
inductive Tie where
  | up
  | even

namespace Binary

variable {f : Format}

/-- The position of the decimal point: `10 ^ (p - 1) ≤ r < 10 ^ p` for positive `r`. -/
def leadingDigit (r : Rat) : Int :=
  let p : Int := (digitsOf r.num.natAbs).length - (digitsOf r.den).length
  if (10 : Rat) ^ p ≤ r then p + 1 else p

/-- The nearer of the decimals `n · 10 ^ e` and `(n + 1) · 10 ^ e` around `r`. -/
def nearer (tie : Tie) (r : Rat) (n : Nat) (e : Int) : Nat :=
  let rest := r / 10 ^ e - n
  if rest < 1 / 2 then n
  else if 1 / 2 < rest then n + 1
  else match tie with
    | .up => n + 1
    | .even => if n % 2 = 0 then n else n + 1

/-- The decimal in steps of `10 ^ e` that reads back as `x`, whose magnitude is `r`. -/
def onGrid? (tie : Tie) (x : Binary f) (negative : Bool) (r : Rat) (e : Int) :
    Option Decimal :=
  let n := (r / 10 ^ e).floor.toNat
  let readsBack (k : Nat) := (Decimal.mk negative k e).toBinary f = x
  if readsBack n then
    if readsBack (n + 1) then some ⟨negative, nearer tie r n e, e⟩ else some ⟨negative, n, e⟩
  else if readsBack (n + 1) then some ⟨negative, n + 1, e⟩
  else none

/-- All the digits of `m · 2 ^ q`. -/
def exactDecimal (negative : Bool) (m : Nat) (q : Int) : Decimal :=
  if 0 ≤ q then ⟨negative, m * Nat.pow 2 q.toNat, 0⟩
  else ⟨negative, m * Nat.pow 5 (-q).toNat, q⟩

/-- The shortest decimal that reads back as the number `± m · 2 ^ q`. A mantissa never needs more
decimal digits than it has bits. -/
def shortest (tie : Tie) (negative : Bool) (m : Nat) (q : Int) (canonical : f.Canonical m q) :
    Decimal :=
  let r := (m : Rat) * 2 ^ q
  let p := leadingDigit r
  ((List.range f.precision).findSome? fun (n : Nat) =>
    onGrid? tie (.finite negative m q canonical) negative r (p - (n + 1))).getD
      (exactDecimal negative m q)

end Binary

/-! ## Laying out digits -/

/-- Digits with the position of their point: `0.d₁d₂… · 10 ^ point`. -/
structure Digits where
  digits : List Char
  point : Int

/-- The digits of a decimal without the zeros at their end; zero keeps one digit. -/
def Decimal.toDigits (d : Decimal) : Digits :=
  if d.digits = 0 then ⟨['0'], 1⟩
  else ⟨((digitsOf d.digits).reverse.dropWhile (· = '0')).reverse, d.point⟩

/-- The digits before and after the point, without a zero that stands for an empty side. -/
def Digits.split (d : Digits) : List Char × List Char :=
  if d.point ≤ 0 then ([], List.replicate (-d.point).toNat '0' ++ d.digits)
  else
    let n := d.point.toNat
    (d.digits.take n ++ List.replicate (n - d.digits.length) '0', d.digits.drop n)

/-- The sign in front of a negative number. -/
def signText (negative : Bool) : List Char :=
  if negative then ['-'] else []

/-- A positional text: no exponent, and no point in a whole number. -/
def Digits.positional (d : Digits) : List Char :=
  let (whole, fraction) := d.split
  (if whole = [] then ['0'] else whole) ++ (if fraction = [] then [] else '.' :: fraction)

/-- The plain text of a number: always positional, of two equally near decimals the upper one. -/
def plainText {f : Format} : Binary f → List Char
  | .nan => "NaN".toList
  | .infinite negative => signText negative ++ "inf".toList
  | .finite negative m q canonical =>
    signText negative ++ (Binary.shortest .up negative m q canonical).toDigits.positional

end Storyboard
