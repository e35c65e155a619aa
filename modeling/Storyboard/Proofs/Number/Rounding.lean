import Storyboard.Number.Shortest
import Storyboard.Proofs.Number.Digits

/-!
# Rounding and shortest decimals

A number of a binary format is the nearest one to its own value, so every decimal of that value is
read as the number; and the shortest decimal, which need not have its value, is read as it too.

## Main statements

* `Binary.leadingBit_eq`: the leading bit is found from a power of two around a value.
* `Binary.ofMagnitude_exact`: a value of the format is rounded to itself.
* `Decimal.toBinary_eq_of_magnitude_eq`: the reading of a decimal depends on its value only.
* `Binary.toBinary_shortest`: the shortest decimal of a number is read as the number.
-/

namespace Storyboard

theorem two_zpow_pos (q : Int) : (0 : ℚ) < 2 ^ q :=
  zpow_pos (by norm_num) q

theorem ten_zpow_pos (q : Int) : (0 : ℚ) < 10 ^ q :=
  zpow_pos (by norm_num) q

theorem natCast_pow_two (n : Nat) : ((Nat.pow 2 n : Nat) : ℚ) = 2 ^ (n : Int) := by
  rw [zpow_natCast]
  exact_mod_cast rfl

theorem roundHalfEven_natCast (n : Nat) : roundHalfEven n = n := by
  have floor : (n : ℚ).floor = n := by simpa using Rat.floor_intCast n
  simp [roundHalfEven, floor]

namespace Binary

/-! ## The leading bit -/

theorem leadingBit_bounds {r : ℚ} (pos : 0 < r) :
    2 ^ leadingBit r ≤ r ∧ r < 2 ^ (leadingBit r + 1) := by
  have numPos : r.num.natAbs ≠ 0 := by simpa using pos.ne'
  have value : r = r.num.natAbs / r.den := by
    have nonneg : (r.num.natAbs : Int) = r.num := Int.natAbs_of_nonneg (Rat.num_pos.2 pos).le
    rw [← Int.cast_natCast r.num.natAbs, nonneg, Rat.num_div_den]
  -- The logarithms of numerator and denominator give the exponent up to one.
  have numAbove : (2 : ℚ) ^ (r.num.natAbs.log2 : Int) ≤ r.num.natAbs := by
    exact_mod_cast Nat.log2_self_le numPos
  have numBelow : (r.num.natAbs : ℚ) < 2 ^ ((r.num.natAbs.log2 : Int) + 1) := by
    exact_mod_cast Nat.lt_log2_self
  have denAbove : (2 : ℚ) ^ (r.den.log2 : Int) ≤ r.den := by
    exact_mod_cast Nat.log2_self_le r.den_nz
  have denBelow : (r.den : ℚ) < 2 ^ ((r.den.log2 : Int) + 1) := by
    exact_mod_cast Nat.lt_log2_self
  have denPos : (0 : ℚ) < r.den := (two_zpow_pos _).trans_le denAbove
  have below : r < 2 ^ ((r.num.natAbs.log2 : Int) - r.den.log2 + 1) := by
    calc r = r.num.natAbs / r.den := value
      _ < 2 ^ ((r.num.natAbs.log2 : Int) + 1) / r.den := by gcongr
      _ ≤ 2 ^ ((r.num.natAbs.log2 : Int) + 1) / 2 ^ (r.den.log2 : Int) := by gcongr
      _ = 2 ^ ((r.num.natAbs.log2 : Int) - r.den.log2 + 1) := by
        rw [← zpow_sub₀ (by norm_num)]
        congr 1
        ring
  have above : 2 ^ ((r.num.natAbs.log2 : Int) - r.den.log2 - 1) ≤ r := by
    calc (2 : ℚ) ^ ((r.num.natAbs.log2 : Int) - r.den.log2 - 1)
        = 2 ^ (r.num.natAbs.log2 : Int) / 2 ^ ((r.den.log2 : Int) + 1) := by
          rw [← zpow_sub₀ (by norm_num)]
          congr 1
          ring
      _ ≤ r.num.natAbs / 2 ^ ((r.den.log2 : Int) + 1) := by gcongr
      _ ≤ r.num.natAbs / r.den := by gcongr
      _ = r := value.symm
  simp only [leadingBit]
  split
  next fits => exact ⟨fits, below⟩
  next exceeds => exact ⟨above, by simpa using exceeds⟩

theorem le_of_zpow_le_of_lt_zpow {b r : ℚ} (one : 1 < b) {d e : Int} (above : b ^ d ≤ r)
    (below : r < b ^ (e + 1)) : d ≤ e := by
  have : d < e + 1 := (zpow_lt_zpow_iff_right₀ one).1 (above.trans_lt below)
  omega

theorem leadingBit_eq {r : ℚ} {e : Int} (above : 2 ^ e ≤ r) (below : r < 2 ^ (e + 1)) :
    leadingBit r = e := by
  obtain ⟨above', below'⟩ := leadingBit_bounds ((two_zpow_pos e).trans_le above)
  exact le_antisymm (le_of_zpow_le_of_lt_zpow (by norm_num) above' below)
    (le_of_zpow_le_of_lt_zpow (by norm_num) above below')

/-! ## Values of the format -/

variable {f : Format} {negative : Bool} {m : Nat} {q : Int}

theorem ofPair_canonical (canonical : f.Canonical m q) :
    ofPair f negative m q = .finite negative m q canonical :=
  dif_pos canonical

/-- Zero has the least exponent. -/
theorem exponent_of_canonical_zero (canonical : f.Canonical 0 q) : q = f.minExponent := by
  rcases canonical.2.2.2 with least | filled
  · exact least
  · exact absurd filled (by simp)

theorem zero_eq_finite (canonical : f.Canonical 0 q) :
    zero f negative = .finite negative 0 q canonical := by
  obtain rfl := exponent_of_canonical_zero canonical
  exact ofPair_canonical canonical

theorem natCast_lt_of_canonical (canonical : f.Canonical m q) :
    (m : ℚ) < 2 ^ (f.precision : Int) := by
  rw [← natCast_pow_two]
  exact_mod_cast canonical.1

/-- The unit of the rounding of `m · 2 ^ q` is `2 ^ q` itself. -/
theorem unit_of_canonical (canonical : f.Canonical m q) (nonzero : m ≠ 0) :
    max f.minExponent (leadingBit (m * 2 ^ q) - (f.precision - 1)) = q := by
  have below : (m : ℚ) * 2 ^ q < 2 ^ (f.precision + q - 1 + 1) := by
    rw [sub_add_cancel, zpow_add₀ (by norm_num)]
    exact mul_lt_mul_of_pos_right (natCast_lt_of_canonical canonical) (two_zpow_pos q)
  rcases canonical.2.2.2 with least | filled
  · have pos : (0 : ℚ) < m * 2 ^ q :=
      mul_pos (by exact_mod_cast Nat.pos_of_ne_zero nonzero) (two_zpow_pos q)
    have bit := le_of_zpow_le_of_lt_zpow (by norm_num) (leadingBit_bounds pos).1 below
    omega
  · have room : 1 ≤ f.precision := by
      by_contra none
      have := canonical.1
      simp only [show f.precision = 0 by omega, Nat.pow_eq, pow_zero] at this
      omega
    have above : (2 : ℚ) ^ (f.precision + q - 1) ≤ m * 2 ^ q := by
      rw [show (f.precision + q - 1 : Int) = (f.precision - 1 : Nat) + q by omega,
        zpow_add₀ (by norm_num), ← natCast_pow_two]
      have : ((Nat.pow 2 (f.precision - 1) : Nat) : ℚ) ≤ m := by exact_mod_cast filled
      exact mul_le_mul_of_nonneg_right this (two_zpow_pos q).le
    have bit := leadingBit_eq above below
    have := canonical.2.1
    omega

/-- A value of the format is rounded to itself. -/
theorem ofMagnitude_exact (canonical : f.Canonical m q) :
    ofMagnitude f negative (m * 2 ^ q) = .finite negative m q canonical := by
  by_cases nonzero : m = 0
  · subst nonzero
    simpa [ofMagnitude] using zero_eq_finite canonical
  · have value : (m : ℚ) * 2 ^ q ≠ 0 :=
      mul_ne_zero (by exact_mod_cast nonzero) (two_zpow_pos q).ne'
    have mantissa : (m : ℚ) * 2 ^ q / 2 ^ q = m := mul_div_cancel_right₀ _ (two_zpow_pos q).ne'
    simp only [ofMagnitude, if_neg value, unit_of_canonical canonical nonzero, mantissa,
      roundHalfEven_natCast, Int.toNat_natCast, if_neg canonical.1.ne]
    exact ofPair_canonical canonical

end Binary

/-! ## Reading decimals -/

namespace Decimal

variable {f : Format} {d : Decimal}

theorem magnitude_eq_zero_iff : d.magnitude = 0 ↔ d.digits = 0 := by
  simp [magnitude, (ten_zpow_pos d.exponent).ne']

/-- The point stands behind the leading digit. -/
theorem magnitude_bounds (nonzero : d.digits ≠ 0) :
    10 ^ (d.point - 1) ≤ d.magnitude ∧ d.magnitude < 10 ^ d.point := by
  have above : (10 : ℚ) ^ ((digitsOf d.digits).length - 1 : Int) ≤ d.digits := by
    have : 1 ≤ (digitsOf d.digits).length :=
      List.length_pos_iff.2 (digitsOf_ne_nil d.digits)
    rw [show ((digitsOf d.digits).length - 1 : Int) = ((digitsOf d.digits).length - 1 : Nat) by
      omega, zpow_natCast]
    exact_mod_cast pow_le_of_length_digitsOf nonzero
  have below : (d.digits : ℚ) < 10 ^ ((digitsOf d.digits).length : Int) := by
    rw [zpow_natCast]
    exact_mod_cast lt_pow_length_digitsOf d.digits
  have unit := ten_zpow_pos d.exponent
  constructor
  · rw [point, add_sub_right_comm, zpow_add₀ (by norm_num)]
    exact mul_le_mul_of_nonneg_right above unit.le
  · rw [point, zpow_add₀ (by norm_num)]
    exact mul_lt_mul_of_pos_right below unit

theorem point_eq_of_magnitude_eq {e : Decimal} (nonzero : d.digits ≠ 0)
    (h : d.magnitude = e.magnitude) : d.point = e.point := by
  have nonzero' : e.digits ≠ 0 := fun zero =>
    nonzero (magnitude_eq_zero_iff.1 (h.trans (magnitude_eq_zero_iff.2 zero)))
  obtain ⟨above, below⟩ := magnitude_bounds nonzero
  obtain ⟨above', below'⟩ := magnitude_bounds nonzero'
  rw [h] at above below
  have le : d.point - 1 < e.point :=
    (zpow_lt_zpow_iff_right₀ (by norm_num)).1 (above.trans_lt below')
  have ge : e.point - 1 < d.point :=
    (zpow_lt_zpow_iff_right₀ (by norm_num)).1 (above'.trans_lt below)
  omega

/-- The reading of a decimal depends on its sign and its value only. -/
theorem toBinary_eq_of_magnitude_eq {e : Decimal} (sign : d.negative = e.negative)
    (h : d.magnitude = e.magnitude) : d.toBinary f = e.toBinary f := by
  by_cases zero : d.digits = 0
  · have zero' : e.digits = 0 :=
      magnitude_eq_zero_iff.1 (h ▸ magnitude_eq_zero_iff.2 zero)
    simp [toBinary, zero, zero', sign]
  · have zero' : e.digits ≠ 0 := fun zero' =>
      zero (magnitude_eq_zero_iff.1 (h.trans (magnitude_eq_zero_iff.2 zero')))
    simp only [toBinary, if_neg zero, if_neg zero', point_eq_of_magnitude_eq zero h, sign, h]

theorem two_zpow_three_mul_le {n : Int} (nonneg : 0 ≤ n) : (2 : ℚ) ^ (3 * n) ≤ 10 ^ n := by
  rw [zpow_mul]
  exact zpow_le_zpow_left₀ nonneg (by norm_num) (by norm_num)

theorem ten_zpow_le {n : Int} (nonpos : n ≤ 0) : (10 : ℚ) ^ n ≤ 2 ^ (3 * n) := by
  have swapped := two_zpow_three_mul_le (n := -n) (by omega)
  rw [mul_neg, zpow_neg, zpow_neg] at swapped
  exact (inv_le_inv₀ (two_zpow_pos _) (ten_zpow_pos _)).1 swapped

/-- A value of the format is below the bound for numerals that are too great. -/
theorem not_too_great {m : Nat} {q : Int} (wide : 0 ≤ f.maxExponent + f.precision)
    (canonical : f.Canonical m q) (nonzero : d.digits ≠ 0) (value : d.magnitude = m * 2 ^ q) :
    ¬ f.maxExponent + f.precision ≤ 3 * (d.point - 1) := by
  intro great
  have exponent := canonical.2.2.1
  have below : d.magnitude < 2 ^ (3 * (d.point - 1)) := by
    calc d.magnitude = m * 2 ^ q := value
      _ < 2 ^ (f.precision : Int) * 2 ^ q :=
          mul_lt_mul_of_pos_right (Binary.natCast_lt_of_canonical canonical) (two_zpow_pos q)
      _ = 2 ^ (f.precision + q) := (zpow_add₀ (by norm_num) _ _).symm
      _ ≤ 2 ^ (3 * (d.point - 1)) := zpow_le_zpow_right₀ (by norm_num) (by omega)
  exact absurd (magnitude_bounds nonzero).1
    (not_le.2 (below.trans_le (two_zpow_three_mul_le (by omega))))

/-- A value of the format other than zero is above the bound for numerals that are too small. -/
theorem not_too_small {m : Nat} {q : Int} (canonical : f.Canonical m q) (nonzero : d.digits ≠ 0)
    (value : d.magnitude = m * 2 ^ q) : ¬ (3 * d.point ≤ f.minExponent - 1 ∧ d.point ≤ 0) := by
  rintro ⟨small, nonpos⟩
  have mantissa : (1 : ℚ) ≤ m := by
    have : m ≠ 0 := by
      rintro rfl
      exact nonzero (magnitude_eq_zero_iff.1 (by simpa using value))
    exact_mod_cast Nat.one_le_iff_ne_zero.2 this
  have above : (2 : ℚ) ^ (3 * d.point) ≤ d.magnitude := by
    calc (2 : ℚ) ^ (3 * d.point) ≤ 2 ^ q :=
          zpow_le_zpow_right₀ (by norm_num) (by have := canonical.2.1; omega)
      _ ≤ m * 2 ^ q := le_mul_of_one_le_left (two_zpow_pos q).le mantissa
      _ = d.magnitude := value.symm
  exact absurd (magnitude_bounds nonzero).2 (not_lt.2 ((ten_zpow_le nonpos).trans above))

/-- Every decimal with the value of a number is read as the number. -/
theorem toBinary_of_magnitude {m : Nat} {q : Int} (wide : 0 ≤ f.maxExponent + f.precision)
    (canonical : f.Canonical m q) (value : d.magnitude = m * 2 ^ q) :
    d.toBinary f = .finite d.negative m q canonical := by
  by_cases zero : d.digits = 0
  · obtain rfl : m = 0 := by
      have := magnitude_eq_zero_iff.2 zero
      rw [value] at this
      simpa [(two_zpow_pos q).ne'] using this
    simpa [toBinary, zero] using Binary.zero_eq_finite canonical
  · rw [toBinary, if_neg zero, if_neg (not_too_great wide canonical zero value),
      if_neg (not_too_small canonical zero value), value]
    exact Binary.ofMagnitude_exact canonical

end Decimal

/-! ## Shortest decimals -/

namespace Binary

variable {f : Format} {negative : Bool} {m : Nat} {q : Int}

@[simp] theorem negative_exactDecimal : (exactDecimal negative m q).negative = negative := by
  unfold exactDecimal
  split <;> rfl

theorem magnitude_exactDecimal : (exactDecimal negative m q).magnitude = m * 2 ^ q := by
  unfold exactDecimal
  split
  next nonneg =>
    obtain ⟨n, rfl⟩ := Int.eq_ofNat_of_zero_le nonneg
    simp [Decimal.magnitude]
  next neg =>
    obtain ⟨n, rfl⟩ : ∃ n : Nat, q = -(n : Int) := ⟨(-q).toNat, by omega⟩
    simp only [Decimal.magnitude, neg_neg, Int.toNat_natCast, Nat.pow_eq, Nat.cast_mul, Nat.cast_pow,
      zpow_neg, zpow_natCast]
    rw [show ((10 : ℚ) ^ n) = 2 ^ n * 5 ^ n by rw [← mul_pow]; norm_num]
    push_cast
    field_simp

/-- A decimal of the grid is taken only if it reads back. -/
theorem toBinary_of_onGrid? {tie : Tie} {x : Binary f} {r : ℚ} {e : Int} {d : Decimal}
    (h : onGrid? tie x negative r e = some d) : d.toBinary f = x ∧ d.negative = negative := by
  simp only [onGrid?] at h
  split at h
  next lower =>
    split at h
    next upper =>
      obtain rfl := Option.some.inj h
      have either : nearer tie r (r / 10 ^ e).floor.toNat e = (r / 10 ^ e).floor.toNat ∨
          nearer tie r (r / 10 ^ e).floor.toNat e = (r / 10 ^ e).floor.toNat + 1 := by
        unfold nearer
        grind
      rcases either with either | either <;> rw [either]
      · exact ⟨lower, rfl⟩
      · exact ⟨upper, rfl⟩
    next =>
      obtain rfl := Option.some.inj h
      exact ⟨lower, rfl⟩
  next =>
    split at h
    next upper =>
      obtain rfl := Option.some.inj h
      exact ⟨upper, rfl⟩
    next => cases h

/-- The shortest decimal of a number reads back as the number, with the sign of the number. -/
theorem toBinary_shortest (tie : Tie) (negative : Bool) (wide : 0 ≤ f.maxExponent + f.precision)
    (canonical : f.Canonical m q) :
    (shortest tie negative m q canonical).toBinary f = .finite negative m q canonical ∧
      (shortest tie negative m q canonical).negative = negative := by
  simp only [shortest]
  cases found : (List.range f.precision).findSome? _ with
  | some d =>
    obtain ⟨n, -, taken⟩ := List.exists_of_findSome?_eq_some found
    exact toBinary_of_onGrid? taken
  | none =>
    have value : (exactDecimal negative m q).magnitude = m * 2 ^ q := magnitude_exactDecimal
    have exact := Decimal.toBinary_of_magnitude wide canonical value
    exact ⟨by simpa using exact, by simp⟩

end Binary

end Storyboard
