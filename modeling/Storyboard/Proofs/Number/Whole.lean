import Storyboard.Number.Compact
import Storyboard.Proofs.Number.Rounding

/-!
# Whole numbers among the binary ones

A number field holds a finite number whose zero has no sign. Such a number is determined by its
value, so a whole one is got back from its integer; and every integer of at most 53 bits is exact
as a 64-bit number.

## Main definitions

* `Binary.IsPlain`: the number is finite and not the negative zero.

## Main statements

* `Binary.ofInt_of_toRat?`: a plain number is the number of the integer with its value.
* `Double.toRat?_ofInt`, `Double.isPlain_ofInt`: the number of an integer is exact and plain.
* `numberText_dropZeroSign`: the sign of a zero is not written.
-/

namespace Storyboard

namespace Binary

variable {f : Format} {m : Nat} {q : Int}

/-- The number is finite and not the negative zero. -/
def IsPlain (x : Binary f) : Prop :=
  x.isFinite ∧ x.dropZeroSign = x

theorem isPlain_dropZeroSign {x : Binary f} (finite : x.isFinite) : x.dropZeroSign.IsPlain := by
  obtain ⟨⟩ | ⟨⟩ | ⟨negative, _ | m, q, canonical⟩ := x
  · cases finite
  · cases finite
  · exact ⟨rfl, rfl⟩
  · exact ⟨rfl, rfl⟩

theorem toRat?_dropZeroSign (x : Binary f) : x.dropZeroSign.toRat? = x.toRat? := by
  obtain ⟨⟩ | ⟨⟩ | ⟨negative, _ | m, q, canonical⟩ := x
  · rfl
  · rfl
  · simp [dropZeroSign, toRat?]
  · rfl

theorem isPlain_finite {negative : Bool} {canonical : f.Canonical m q}
    (sign : negative → m ≠ 0) : (finite negative m q canonical).IsPlain := by
  refine ⟨rfl, ?_⟩
  cases m with
  | zero =>
    cases negative with
    | false => rfl
    | true => exact absurd rfl (sign rfl)
  | succ m => rfl

/-- A plain number is determined by its value. -/
theorem ofInt_of_toRat? {x : Binary f} (plain : x.IsPlain) {n : Int}
    (value : x.toRat? = some (n : ℚ)) :
    ofInt f n = x := by
  obtain ⟨⟩ | ⟨⟩ | ⟨negative, m, q, canonical⟩ := x
  · cases value
  · cases value
  obtain ⟨sign, size⟩ : decide (n < 0) = negative ∧ (n.natAbs : ℚ) = m * 2 ^ q := by
    have unit := two_zpow_pos q
    rw [Nat.cast_natAbs, Int.cast_abs]
    simp only [toRat?, Option.some.injEq] at value
    cases negative with
    | false =>
      rw [if_neg (by simp)] at value
      have nonneg : (0 : ℚ) ≤ n := value ▸ mul_nonneg m.cast_nonneg unit.le
      exact ⟨decide_eq_false (by exact_mod_cast nonneg.not_gt), by rw [abs_of_nonneg nonneg, value]⟩
    | true =>
      rw [if_pos rfl, neg_mul] at value
      have nonzero : m ≠ 0 := by
        rintro rfl
        exact absurd plain.2 (by simp [dropZeroSign])
      have pos : (0 : ℚ) < m * 2 ^ q :=
        mul_pos (by exact_mod_cast Nat.pos_of_ne_zero nonzero) unit
      have neg : (n : ℚ) < 0 := by linarith
      exact ⟨decide_eq_true (by exact_mod_cast neg), by rw [abs_of_neg neg]; linarith⟩
  rw [ofInt, sign, size, ofMagnitude_exact canonical]

end Binary

namespace Double

open Binary

/-- Every whole number of at most 53 bits has a pair. -/
theorem exists_canonical {n : Nat} (h : n < 2 ^ 53) :
    ∃ m q, Format.double.Canonical m q ∧ (n : ℚ) = m * 2 ^ q := by
  by_cases zero : n = 0
  · exact ⟨0, -1074, by decide, by simp [zero]⟩
  -- The mantissa is shifted up until it fills its bits.
  obtain ⟨shift, split⟩ := Nat.exists_eq_add_of_le (Nat.lt_succ_iff.1 ((Nat.log2_lt zero).2 h))
  refine ⟨n * 2 ^ shift, -shift, ⟨?_, ?_, ?_, .inr ?_⟩, ?_⟩
  · calc n * 2 ^ shift < 2 ^ (n.log2 + 1) * 2 ^ shift :=
          Nat.mul_lt_mul_of_pos_right Nat.lt_log2_self (by positivity)
      _ = Nat.pow 2 53 := by rw [← pow_add]; exact congrArg (2 ^ ·) (by omega)
  · change (-1074 : Int) ≤ _
    omega
  · change _ ≤ (971 : Int)
    omega
  · calc Nat.pow 2 52 = 2 ^ n.log2 * 2 ^ shift := by rw [← pow_add]; exact congrArg (2 ^ ·) (by omega)
      _ ≤ n * 2 ^ shift := Nat.mul_le_mul_right _ (Nat.log2_self_le zero)
  · rw [Nat.cast_mul, mul_assoc, Nat.cast_pow, zpow_neg, zpow_natCast, Nat.cast_ofNat,
      mul_inv_cancel₀ (by positivity), mul_one]

theorem ofInt_eq {n : Int} (h : n.natAbs < 2 ^ 53) :
    ∃ m q, ∃ canonical : Format.double.Canonical m q,
      Double.ofInt n = .finite (n < 0) m q canonical ∧ (n.natAbs : ℚ) = m * 2 ^ q := by
  obtain ⟨m, q, canonical, size⟩ := exists_canonical h
  exact ⟨m, q, canonical, by rw [Double.ofInt, Binary.ofInt, size, ofMagnitude_exact canonical],
    size⟩

theorem toRat?_ofInt {n : Int} (h : n.natAbs < 2 ^ 53) :
    (Double.ofInt n).toRat? = some (n : ℚ) := by
  obtain ⟨m, q, canonical, eq, size⟩ := ofInt_eq h
  have size : |(n : ℚ)| = m * 2 ^ q := by rw [← size, Nat.cast_natAbs, Int.cast_abs]
  rw [eq, toRat?]
  by_cases neg : n < 0
  · rw [abs_of_neg (by exact_mod_cast neg)] at size
    rw [if_pos (by simpa using neg), neg_mul, ← size, neg_neg]
  · rw [abs_of_nonneg (by exact_mod_cast not_lt.1 neg)] at size
    rw [if_neg (by simpa using neg), size]

theorem isPlain_ofInt {n : Int} (h : n.natAbs < 2 ^ 53) : (Double.ofInt n).IsPlain := by
  obtain ⟨m, q, canonical, eq, size⟩ := ofInt_eq h
  rw [eq]
  refine isPlain_finite fun neg => ?_
  rintro rfl
  have : n.natAbs = 0 := by simpa using size
  have := of_decide_eq_true neg
  omega

end Double

/-- The sign of a zero is not written. -/
theorem numberText_dropZeroSign (x : Double) : numberText x.dropZeroSign = numberText x := by
  obtain ⟨⟩ | ⟨⟩ | ⟨negative, _ | m, q, canonical⟩ := x
  · rfl
  · rfl
  · simp [numberText, Binary.dropZeroSign, Binary.whole?, Binary.toRat?, wholeTextBound]
  · rfl

end Storyboard
