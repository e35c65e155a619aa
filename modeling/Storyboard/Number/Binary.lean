/-!
# Binary floating-point numbers

Numbers of a binary format, held exactly: a finite one is `± m · 2 ^ q` with whole `m` and `q`.
Nothing here is a machine float, so every operation is arithmetic on rationals.

## Main definitions

* `Format`: a mantissa width and a range of exponents, with `Format.single` and `Format.double`.
* `Binary f`: the numbers of the format `f`, with infinities and one value that is no number.
* `Binary.ofMagnitude`: the number of the format nearest to a rational, a half going to the even
  neighbour.
-/

namespace Storyboard

/-! ## Rounding a rational to a whole number -/

/-- The nearest whole number; a half goes to the even neighbour. -/
def roundHalfEven (r : Rat) : Int :=
  let below := r.floor
  let rest := r - below
  if rest < 1 / 2 then below
  else if 1 / 2 < rest then below + 1
  else if below % 2 = 0 then below
  else below + 1

/-- The nearest whole number; a half goes away from zero. -/
def roundHalfAway (r : Rat) : Int :=
  if r < 0 then -(-r + 1 / 2).floor else (r + 1 / 2).floor

/-! ## Formats -/

/-- A binary format: the bits of a mantissa, and the least and greatest exponent of its unit. -/
structure Format where
  precision : Nat
  minExponent : Int
  maxExponent : Int

namespace Format

/-- The 32-bit format. -/
def single : Format := ⟨24, -149, 104⟩

/-- The 64-bit format. -/
def double : Format := ⟨53, -1074, 971⟩

/-- The pair `m`, `q` is the one that the format uses for `m · 2 ^ q`: the mantissa fits, and it
fills its bits unless the exponent is the least one. -/
def Canonical (f : Format) (m : Nat) (q : Int) : Prop :=
  m < Nat.pow 2 f.precision ∧ f.minExponent ≤ q ∧ q ≤ f.maxExponent ∧
    (q = f.minExponent ∨ Nat.pow 2 (f.precision - 1) ≤ m)

instance (f : Format) (m : Nat) (q : Int) : Decidable (f.Canonical m q) :=
  inferInstanceAs (Decidable (_ ∧ _))

end Format

/-! ## Numbers of a format -/

/-- A number of the format `f`. Zero has a sign; what is no number has neither sign nor value. -/
inductive Binary (f : Format) where
  | nan
  | infinite (negative : Bool)
  | finite (negative : Bool) (mantissa : Nat) (exponent : Int)
      (canonical : f.Canonical mantissa exponent)
deriving DecidableEq

/-- The 32-bit numbers. -/
abbrev Single := Binary .single

/-- The 64-bit numbers. -/
abbrev Double := Binary .double

namespace Binary

variable {f : Format}

/-- The value of a finite number. -/
def toRat? : Binary f → Option Rat
  | .finite negative m q _ => some ((if negative then -(m : Rat) else m) * 2 ^ q)
  | _ => none

def isFinite : Binary f → Bool
  | .finite .. => true
  | _ => false

/-- The exponent of the leading binary digit: `2 ^ e ≤ r < 2 ^ (e + 1)` for positive `r`. -/
def leadingBit (r : Rat) : Int :=
  let e : Int := r.num.natAbs.log2 - r.den.log2
  if (2 : Rat) ^ e ≤ r then e else e - 1

/-- The finite number with the given pair, or an infinity where the format has no such pair. -/
def ofPair (f : Format) (negative : Bool) (m : Nat) (q : Int) : Binary f :=
  if canonical : f.Canonical m q then .finite negative m q canonical else .infinite negative

def zero (f : Format) (negative : Bool) : Binary f :=
  ofPair f negative 0 f.minExponent

/-- The number nearest to the magnitude `r`, a half going to the even mantissa. A magnitude past
the greatest finite number becomes an infinity. -/
def ofMagnitude (f : Format) (negative : Bool) (r : Rat) : Binary f :=
  if r = 0 then zero f negative
  else
    let q := max f.minExponent (leadingBit r - (f.precision - 1))
    let m := (roundHalfEven (r / 2 ^ q)).toNat
    if m = Nat.pow 2 f.precision then ofPair f negative (Nat.pow 2 (f.precision - 1)) (q + 1)
    else ofPair f negative m q

/-- The number nearest to a whole number. -/
def ofInt (f : Format) (n : Int) : Binary f :=
  ofMagnitude f (n < 0) n.natAbs

/-- The same number without the sign of a zero. -/
def dropZeroSign : Binary f → Binary f
  | .finite _ 0 q canonical => .finite false 0 q canonical
  | x => x

end Binary

/-- The 64-bit number nearest to a whole number. -/
def Double.ofInt (n : Int) : Double :=
  Binary.ofInt .double n

/-- The 32-bit integer nearest to a whole number: one that does not fit becomes the least or the
greatest. -/
def saturate32 (n : Int) : Int32 :=
  Int32.ofInt (max (-2147483648) (min n 2147483647))

/-- A number made whole by `round` and held inside the 32-bit integers; what is no number
becomes zero. -/
def Binary.toInt32 {f : Format} (round : Rat → Int) : Binary f → Int32
  | .nan => 0
  | .infinite negative => if negative then Int32.minValue else Int32.maxValue
  | x => match x.toRat? with
    | some r => saturate32 (round r)
    | none => 0

end Storyboard
