import Storyboard.Number.Numeral
import Storyboard.Proofs.Number.Whole

/-!
# Quick reading of numerals

Each step of quick reading is off by half a unit at most. So what it makes of a numeral is finite
unless the numeral is within a few units of the numbers that are too great.

## Main definitions

* `Double.unit`: the exponent of the unit that a value is rounded to.
* `Double.bound`: the values from here on are rounded to infinity.

## Main statements

* `Double.toRat?_ofMagnitude`: values below the bound are rounded to finite numbers.
* `Decimal.magnitude_le_of_toBinary`: a decimal is at most half a unit above its number.
* `Numeral.isFinite_quick`: numerals that are not too great are read as finite numbers.
-/

namespace Storyboard

/-! ## Rounding to whole numbers -/

theorem roundHalfEven_bounds (r : ℚ) :
    r - 1 / 2 ≤ roundHalfEven r ∧ roundHalfEven r ≤ r + 1 / 2 := by
  have lower : (r.floor : ℚ) ≤ r := Int.floor_le r
  have upper : r < r.floor + 1 := Int.lt_floor_add_one r
  simp only [roundHalfEven]
  split_ifs <;> push_cast <;> constructor <;> linarith

theorem le_roundHalfEven {n : Int} {r : ℚ} (h : n ≤ r) : n ≤ roundHalfEven r := by
  have above : (n : ℚ) < roundHalfEven r + 1 := by
    have := (roundHalfEven_bounds r).1
    linarith
  exact Int.lt_add_one_iff.1 (by exact_mod_cast above)

theorem roundHalfEven_le {n : Int} {r : ℚ} (h : r ≤ n) : roundHalfEven r ≤ n := by
  have below : (roundHalfEven r : ℚ) < n + 1 := by
    have := (roundHalfEven_bounds r).2
    linarith
  exact Int.lt_add_one_iff.1 (by exact_mod_cast below)

/-! ## Rounding to 64-bit numbers -/

namespace Double

open Binary

variable {r : ℚ} {negative : Bool}

/-- The exponent of the unit that a value is rounded to. -/
def unit (r : ℚ) : Int :=
  max (-1074) (leadingBit r - 52)

/-- The values from here on are rounded to infinity. -/
def bound : ℚ :=
  (2 ^ 53 - 1 / 2) * 2 ^ (971 : Int)

/-- A positive value in units lies between two powers of two, unless its unit is the least one. -/
theorem div_unit_bounds (pos : 0 < r) :
    r / 2 ^ unit r < 2 ^ 53 ∧ (unit r = -1074 ∨ 2 ^ 52 ≤ r / 2 ^ unit r) := by
  obtain ⟨above, below⟩ := leadingBit_bounds pos
  constructor
  · rw [div_lt_iff₀ (two_zpow_pos _)]
    calc r < 2 ^ (leadingBit r + 1) := below
      _ ≤ 2 ^ (53 + unit r) := zpow_le_zpow_right₀ (by norm_num) (by unfold unit; omega)
      _ = 2 ^ 53 * 2 ^ unit r := by
        rw [zpow_add₀ (by norm_num)]
        norm_num
  · rcases le_total (leadingBit r - 52) (-1074) with least | other
    · exact .inl (max_eq_left least)
    · refine .inr ?_
      rw [le_div_iff₀ (two_zpow_pos _)]
      calc (2 : ℚ) ^ 52 * 2 ^ unit r = 2 ^ (52 + unit r) := by
            rw [zpow_add₀ (by norm_num)]
            norm_num
        _ = 2 ^ leadingBit r := by rw [unit, max_eq_right other, add_sub_cancel]
        _ ≤ r := above

/-- A positive value is rounded to a number of units. If they do not fit, the unit doubles. -/
theorem exists_mantissa (pos : 0 < r) (negative : Bool) :
    ∃ k : Nat, (r - 2 ^ unit r / 2 ≤ k * 2 ^ unit r ∧ k * 2 ^ unit r ≤ r + 2 ^ unit r / 2) ∧
      k ≤ 2 ^ 53 ∧ (unit r = -1074 ∨ 2 ^ 52 ≤ k) ∧
      ofMagnitude .double negative r =
        if k = 2 ^ 53 then ofPair .double negative (2 ^ 52) (unit r + 1)
        else ofPair .double negative k (unit r) := by
  have size := two_zpow_pos (unit r)
  obtain ⟨below, above⟩ := div_unit_bounds pos
  obtain ⟨lower, upper⟩ := roundHalfEven_bounds (r / 2 ^ unit r)
  obtain ⟨k, whole⟩ : ∃ k : Nat, roundHalfEven (r / 2 ^ unit r) = k :=
    Int.eq_ofNat_of_zero_le (le_roundHalfEven (by exact_mod_cast (div_pos pos size).le))
  have value : ofMagnitude .double negative r =
      if k = 2 ^ 53 then ofPair .double negative (2 ^ 52) (unit r + 1)
      else ofPair .double negative k (unit r) := by
    have mantissa : (roundHalfEven (r / 2 ^ unit r)).toNat = k := by rw [whole, Int.toNat_natCast]
    rw [ofMagnitude, if_neg pos.ne', ← mantissa]
    rfl
  rw [whole, Int.cast_natCast] at lower upper
  refine ⟨k, ⟨?_, ?_⟩, ?_, ?_, value⟩
  · calc r - 2 ^ unit r / 2 = (r / 2 ^ unit r - 1 / 2) * 2 ^ unit r := by field_simp
      _ ≤ k * 2 ^ unit r := by gcongr
  · calc k * 2 ^ unit r ≤ (r / 2 ^ unit r + 1 / 2) * 2 ^ unit r := by gcongr
      _ = r + 2 ^ unit r / 2 := by field_simp
  · have : (k : Int) ≤ 2 ^ 53 := whole ▸ roundHalfEven_le (by exact_mod_cast below.le)
    exact_mod_cast this
  · refine above.imp_right fun above => ?_
    have : (2 ^ 52 : Int) ≤ k := whole ▸ le_roundHalfEven (by exact_mod_cast above)
    exact_mod_cast this

/-- A positive value below the bound is rounded to a finite number, which is off by half a unit at
most. -/
theorem ofMagnitude_of_lt_bound (pos : 0 < r) (below : r < bound) (negative : Bool) :
    ∃ m q, ∃ canonical : Format.double.Canonical m q,
      ofMagnitude .double negative r = .finite negative m q canonical ∧
        m * 2 ^ q ≤ r + 2 ^ unit r / 2 ∧ unit r ≤ q := by
  obtain ⟨k, ⟨lower, upper⟩, fits, filled, value⟩ := exists_mantissa pos negative
  have least : -1074 ≤ unit r := le_max_left _ _
  have next : (2 : ℚ) ^ (unit r + 1) = 2 ^ unit r * 2 := zpow_add_one₀ (by norm_num) _
  by_cases full : k = 2 ^ 53
  · subst full
    have unit : unit r < 971 := by
      by_contra beyond
      have : (2 : ℚ) ^ (971 : Int) ≤ 2 ^ unit r := zpow_le_zpow_right₀ (by norm_num) (by omega)
      push_cast at lower
      unfold bound at below
      linarith
    have canonical : Format.double.Canonical (2 ^ 52) (Double.unit r + 1) :=
      ⟨by decide, by simp only [Format.double]; omega, by simp only [Format.double]; omega,
        .inr (by decide)⟩
    refine ⟨2 ^ 52, _, canonical, ?_, ?_, by omega⟩
    · rw [value, if_pos rfl, ofPair_canonical canonical]
    · rw [next]
      push_cast at upper ⊢
      linarith
  · have unit : unit r ≤ 971 := by
      by_contra beyond
      have wide := (div_unit_bounds pos).2.resolve_left (by omega)
      rw [le_div_iff₀ (two_zpow_pos _)] at wide
      have : (2 : ℚ) ^ (972 : Int) ≤ 2 ^ Double.unit r :=
        zpow_le_zpow_right₀ (by norm_num) (by omega)
      rw [show (972 : Int) = 971 + 1 from rfl, zpow_add_one₀ (by norm_num)] at this
      have size := two_zpow_pos 971
      unfold bound at below
      generalize (2 : ℚ) ^ (971 : Int) = size at *
      linarith
    have canonical : Format.double.Canonical k (Double.unit r) :=
      ⟨lt_of_le_of_ne fits full, least, unit, filled⟩
    exact ⟨k, _, canonical, by rw [value, if_neg full, ofPair_canonical canonical], upper, le_rfl⟩

theorem eq_of_ofPair {f : Format} {s : Bool} {m k : Nat} {q p : Int} {canonical : f.Canonical m q}
    (h : ofPair f negative k p = .finite s m q canonical) : k = m ∧ p = q := by
  unfold ofPair at h
  split at h
  · cases h
    exact ⟨rfl, rfl⟩
  · cases h

/-- A value is at most half a unit above the number that it is rounded to. -/
theorem le_of_ofMagnitude {s : Bool} {m : Nat} {q : Int} {canonical : Format.double.Canonical m q}
    (pos : 0 < r) (h : ofMagnitude .double negative r = .finite s m q canonical) :
    r ≤ m * 2 ^ q + 2 ^ unit r / 2 ∧ unit r ≤ q := by
  obtain ⟨k, ⟨lower, -⟩, -, -, value⟩ := exists_mantissa pos negative
  rw [value] at h
  split at h
  next full =>
    obtain ⟨rfl, rfl⟩ := eq_of_ofPair h
    rw [zpow_add_one₀ (by norm_num)]
    rw [full] at lower
    push_cast at lower ⊢
    exact ⟨by linarith, by omega⟩
  next =>
    obtain ⟨rfl, rfl⟩ := eq_of_ofPair h
    exact ⟨by linarith, le_rfl⟩

theorem lt_bound_of_canonical {m : Nat} {q : Int} (canonical : Format.double.Canonical m q) :
    (m : ℚ) * 2 ^ q < bound := by
  have mantissa : (m : ℚ) ≤ 2 ^ 53 - 1 := by
    have : m + 1 ≤ 2 ^ 53 := canonical.1
    have : (m : ℚ) + 1 ≤ 2 ^ 53 := by exact_mod_cast this
    linarith
  calc (m : ℚ) * 2 ^ q ≤ (2 ^ 53 - 1) * 2 ^ (971 : Int) :=
        mul_le_mul mantissa (zpow_le_zpow_right₀ (by norm_num) canonical.2.2.1)
          (two_zpow_pos q).le (by norm_num)
    _ < bound := mul_lt_mul_of_pos_right (by norm_num) (two_zpow_pos 971)

theorem toRat?_ofMagnitude_zero : (ofMagnitude .double false 0).toRat? = some 0 := by
  have canonical : Format.double.Canonical 0 (-1074) := by decide
  rw [ofMagnitude, if_pos rfl, zero_eq_finite canonical]
  simp [toRat?]

/-- A value below the bound is rounded to a finite number. -/
theorem toRat?_ofMagnitude (nonneg : 0 ≤ r) (below : r < bound) :
    ∃ a, (ofMagnitude .double false r).toRat? = some a ∧ 0 ≤ a ∧ a < bound := by
  rcases nonneg.eq_or_lt with rfl | pos
  · exact ⟨0, toRat?_ofMagnitude_zero, le_rfl, below⟩
  · obtain ⟨m, q, canonical, value, -⟩ := ofMagnitude_of_lt_bound pos below false
    exact ⟨m * 2 ^ q, by rw [value]; rfl, mul_nonneg m.cast_nonneg (two_zpow_pos q).le,
      lt_bound_of_canonical canonical⟩

/-- The unit of a value from one on is small against the value. -/
theorem unit_le_of_one_le (one : 1 ≤ r) : 2 ^ unit r / 2 ≤ r / 2 ^ 53 ∧ -52 ≤ unit r := by
  have pos : 0 < r := one_pos.trans_le one
  have bit : 0 ≤ leadingBit r := le_of_zpow_le_of_lt_zpow (by norm_num : (1 : ℚ) < 2)
    (by simpa using one) (leadingBit_bounds pos).2
  have unit : -52 ≤ unit r := by
    unfold Double.unit
    omega
  have wide := (div_unit_bounds pos).2.resolve_left (by omega)
  rw [le_div_iff₀ (two_zpow_pos _)] at wide
  refine ⟨?_, unit⟩
  rw [le_div_iff₀ (by norm_num)]
  linarith

/-- A value from one on is rounded to a number from one on, which is not much greater. -/
theorem toRat?_ofMagnitude_of_one_le (one : 1 ≤ r) (below : r < bound) :
    ∃ a, (ofMagnitude .double false r).toRat? = some a ∧ 1 ≤ a ∧ a ≤ r + r / 2 ^ 53 := by
  obtain ⟨m, q, canonical, value, upper, unit⟩ :=
    ofMagnitude_of_lt_bound (one_pos.trans_le one) below false
  obtain ⟨small, least⟩ := unit_le_of_one_le one
  refine ⟨m * 2 ^ q, by rw [value]; rfl, ?_, by linarith⟩
  have filled : 2 ^ 52 ≤ m := canonical.2.2.2.resolve_left (by simp only [Format.double]; omega)
  calc (1 : ℚ) = 2 ^ 52 * 2 ^ (-52 : Int) := by norm_num
    _ ≤ m * 2 ^ q := by
      gcongr
      · exact_mod_cast filled
      · norm_num
      · omega

end Double

/-- A decimal is at most half a unit above the number that it is read as. -/
theorem Decimal.magnitude_le_of_toBinary {d : Decimal} {s : Bool} {m : Nat} {q : Int}
    {canonical : Format.double.Canonical m q}
    (h : d.toBinary .double = .finite s m q canonical) : d.magnitude ≤ (m + 1 / 2) * 2 ^ q := by
  have size := two_zpow_pos q
  have mantissa : (0 : ℚ) ≤ m := m.cast_nonneg
  by_cases zero : d.digits = 0
  · rw [magnitude_eq_zero_iff.2 zero]
    positivity
  rw [toBinary, if_neg zero] at h
  split_ifs at h with great small
  · -- The number is zero, and the decimal is below half the least unit.
    obtain ⟨low, nonpos⟩ := small
    obtain rfl : q = -1074 := by
      rw [Binary.zero, Binary.ofPair_canonical (by decide)] at h
      cases h
      rfl
    have tiny : d.magnitude < 2 ^ (-1075 : Int) :=
      calc d.magnitude < 10 ^ d.point := (magnitude_bounds zero).2
        _ ≤ 2 ^ (3 * d.point) := ten_zpow_le nonpos
        _ ≤ 2 ^ (-1075 : Int) := zpow_le_zpow_right₀ (by norm_num) low
    have half : (2 : ℚ) ^ (-1074 : Int) = 2 ^ (-1075 : Int) * 2 := zpow_add_one₀ two_ne_zero (-1075)
    rw [half]
    nlinarith
  · have pos : 0 < d.magnitude :=
      mul_pos (by exact_mod_cast Nat.pos_of_ne_zero zero) (ten_zpow_pos _)
    obtain ⟨lower, unit⟩ := Double.le_of_ofMagnitude pos h
    have : (2 : ℚ) ^ Double.unit d.magnitude ≤ 2 ^ q := zpow_le_zpow_right₀ (by norm_num) unit
    linarith

/-! ## Scaling -/

namespace Double

open Binary

variable {x : Double} {a : ℚ} {n : Nat} {e : Int}

theorem isFinite_iff_toRat? {f : Format} {x : Binary f} : x.isFinite ↔ ∃ a, x.toRat? = some a := by
  cases x <;> simp [isFinite, toRat?]

theorem bound_eq : bound = 2 ^ 1024 - 2 ^ 970 := by
  rw [bound, sub_mul, ← zpow_natCast, ← zpow_natCast, ← zpow_natCast, ← zpow_add₀ two_ne_zero,
    show (970 : Nat) = (971 - 1 : Int) from rfl, zpow_sub_one₀ two_ne_zero]
  ring_nf

theorem ten_pow_lt_bound (h : n ≤ maxPower) : (10 : ℚ) ^ n < bound := by
  have greatest : (10 ^ 308 + 2 ^ 970 : Nat) < 2 ^ 1024 := by decide +kernel
  calc (10 : ℚ) ^ n ≤ 10 ^ 308 := pow_le_pow_right₀ (by norm_num) h
    _ < bound := by
      rw [bound_eq, lt_sub_iff_add_lt]
      exact_mod_cast greatest

theorem le_maxPower (h : (10 : ℚ) ^ n < bound) : n ≤ maxPower := by
  by_contra great
  have least : (2 ^ 1024 : Nat) ≤ 10 ^ 309 := by decide +kernel
  have : bound ≤ (10 : ℚ) ^ n :=
    calc bound ≤ 2 ^ 1024 := by
          rw [bound_eq]
          exact sub_le_self _ (by positivity)
      _ ≤ 10 ^ 309 := by exact_mod_cast least
      _ ≤ 10 ^ n := pow_le_pow_right₀ (by norm_num) (not_le.1 great)
  exact absurd h (not_lt.2 this)

/-- A power of ten is rounded to a number from one on, which is not much greater. -/
theorem toRat?_powerOfTen (h : n ≤ maxPower) :
    ∃ b, (powerOfTen n).toRat? = some b ∧ 1 ≤ b ∧ b ≤ 10 ^ n + 10 ^ n / 2 ^ 53 :=
  toRat?_ofMagnitude_of_one_le (one_le_pow₀ (by norm_num)) (ten_pow_lt_bound h)

theorem isFinite_rounded (op : ℚ → ℚ → ℚ) {y : Double} {b : ℚ} (hx : x.toRat? = some a)
    (hy : y.toRat? = some b) (nonneg : 0 ≤ op a b) (below : op a b < bound) :
    ∃ c, (rounded op x y).toRat? = some c ∧ 0 ≤ c ∧ c < bound := by
  simp only [rounded, hx, hy]
  exact toRat?_ofMagnitude nonneg below

/-- A finite number divided by a power of ten is finite. -/
theorem isFinite_scaleDown (value : x.toRat? = some a) (nonneg : 0 ≤ a) (below : a < bound)
    (n : Nat) : (scaleDown x n).isFinite := by
  induction n using Nat.strongRecOn generalizing x a with
  | ind n ih =>
    have quotient {k : Nat} (h : k ≤ maxPower) :
        ∃ c, (rounded (· / ·) x (powerOfTen k)).toRat? = some c ∧ 0 ≤ c ∧ c < bound := by
      obtain ⟨b, power, one, -⟩ := toRat?_powerOfTen h
      have pos := one_pos.trans_le one
      exact isFinite_rounded (· / ·) value power (by positivity)
        ((div_le_self nonneg one).trans_lt below)
    rw [scaleDown]
    split_ifs with small zero
    · obtain ⟨c, value, -⟩ := quotient small
      exact isFinite_iff_toRat?.2 ⟨c, value⟩
    · exact isFinite_iff_toRat?.2 ⟨a, value⟩
    · obtain ⟨c, value, nonneg, below⟩ := quotient le_rfl
      simp only [maxPower] at small
      exact ih (n - maxPower) (by simp only [maxPower]; omega) value nonneg below

/-- Up to here, a few units below the bound, whole numbers stay finite when they are scaled. -/
def safe : ℚ :=
  (2 ^ 53 - 5 / 2) * 2 ^ (971 : Int)

theorem safe_lt_bound : safe < bound :=
  mul_lt_mul_of_pos_right (by norm_num) (two_zpow_pos 971)

/-- There is room for two roundings. -/
theorem safe_mul_lt_bound : safe * ((1 + 1 / 2 ^ 53) * (1 + 1 / 2 ^ 53)) < bound := by
  rw [safe, bound, mul_right_comm]
  exact mul_lt_mul_of_pos_right (by norm_num) (two_zpow_pos 971)

/-- Only the two greatest numbers are too close to the bound. -/
theorem le_safe_of_canonical {m : Nat} {q : Int} (canonical : Format.double.Canonical m q)
    (other : ¬(q = 971 ∧ 2 ^ 53 - 2 ≤ m)) : (m + 1 / 2) * 2 ^ q ≤ safe := by
  obtain ⟨fits, -, greatest, -⟩ := canonical
  rcases greatest.eq_or_lt with rfl | less
  · have mantissa : (m : ℚ) + 3 ≤ 2 ^ 53 := by
      have less : ¬2 ^ 53 - 2 ≤ m := fun least => other ⟨rfl, least⟩
      have : m + 3 ≤ 2 ^ 53 := by omega
      exact_mod_cast this
    exact mul_le_mul_of_nonneg_right (by linarith) (two_zpow_pos _).le
  · have mantissa : (m : ℚ) + 1 ≤ 2 ^ 53 := by exact_mod_cast fits
    have unit : (2 : ℚ) ^ q ≤ 2 ^ (970 : Int) :=
      zpow_le_zpow_right₀ (by norm_num) (Int.lt_add_one_iff.1 less)
    calc ((m : ℚ) + 1 / 2) * 2 ^ q ≤ 2 ^ 53 * 2 ^ (970 : Int) :=
          mul_le_mul (by linarith) unit (two_zpow_pos q).le (by norm_num)
      _ = 2 ^ 52 * 2 ^ (971 : Int) := by
        rw [show (971 : Int) = 970 + 1 from rfl, zpow_add_one₀ two_ne_zero]
        generalize (2 : ℚ) ^ (970 : Int) = unit
        ring
      _ ≤ safe := mul_le_mul_of_nonneg_right (by norm_num) (two_zpow_pos 971).le

theorem isFinite_scaleUp (value : x.toRat? = some a) (nonneg : 0 ≤ a) (zero : a = 0 ∨ n ≤ maxPower)
    (below : a * (10 ^ n + 10 ^ n / 2 ^ 53) < bound) : (scaleUp x n).isFinite := by
  rw [scaleUp]
  split_ifs with small null
  · obtain ⟨b, power, one, upper⟩ := toRat?_powerOfTen small
    obtain ⟨c, value, -⟩ := isFinite_rounded (· * ·) value power
      (mul_nonneg nonneg (zero_le_one.trans one))
      ((mul_le_mul_of_nonneg_left upper nonneg).trans_lt below)
    exact isFinite_iff_toRat?.2 ⟨c, value⟩
  · exact isFinite_iff_toRat?.2 ⟨a, value⟩
  · rw [zero.resolve_right small] at value
    exact absurd value null

/-- A whole number that is scaled stays finite if neither it nor what it is scaled to is too
great. -/
theorem isFinite_scale_ofInt (small : (n : ℚ) ≤ safe) (scaled : n * 10 ^ e ≤ safe) :
    ((Double.ofInt n).scale e).isFinite := by
  obtain ⟨a, value, nonneg, upper, zero⟩ : ∃ a, (Double.ofInt n).toRat? = some a ∧ 0 ≤ a ∧
      a ≤ n * (1 + 1 / 2 ^ 53) ∧ (a = 0 ∨ 1 ≤ n) := by
    have sign : decide ((n : Int) < 0) = false := by simp
    rw [Double.ofInt, Binary.ofInt, sign, Int.natAbs_natCast]
    rcases Nat.eq_zero_or_pos n with rfl | pos
    · exact ⟨0, toRat?_ofMagnitude_zero, le_rfl, by simp, .inl rfl⟩
    · have one : (1 : ℚ) ≤ n := by exact_mod_cast pos
      obtain ⟨a, value, lower, upper⟩ :=
        toRat?_ofMagnitude_of_one_le one (small.trans_lt safe_lt_bound)
      exact ⟨a, value, zero_le_one.trans lower, by linarith, .inr pos⟩
  rw [scale]
  split_ifs with up
  · obtain ⟨k, rfl⟩ := Int.eq_ofNat_of_zero_le up
    rw [zpow_natCast] at scaled
    refine isFinite_scaleUp value nonneg (zero.imp_right fun one => ?_) ?_
    · refine le_maxPower (lt_of_le_of_lt ?_ (scaled.trans_lt safe_lt_bound))
      exact le_mul_of_one_le_left (by positivity) (by exact_mod_cast one)
    · rw [Int.toNat_natCast]
      calc a * (10 ^ k + 10 ^ k / 2 ^ 53)
          ≤ (n : ℚ) * (1 + 1 / 2 ^ 53) * (10 ^ k + 10 ^ k / 2 ^ 53) := by gcongr
        _ = (n : ℚ) * 10 ^ k * ((1 + 1 / 2 ^ 53) * (1 + 1 / 2 ^ 53)) := by ring
        _ ≤ safe * ((1 + 1 / 2 ^ 53) * (1 + 1 / 2 ^ 53)) := by gcongr
        _ < bound := safe_mul_lt_bound
  · refine isFinite_scaleDown value nonneg ?_ _
    calc a ≤ n * (1 + 1 / 2 ^ 53) := upper
      _ ≤ safe * (1 + 1 / 2 ^ 53) := by gcongr
      _ ≤ safe * ((1 + 1 / 2 ^ 53) * (1 + 1 / 2 ^ 53)) := by
        exact mul_le_mul_of_nonneg_left (by norm_num) (n.cast_nonneg.trans small)
      _ < bound := safe_mul_lt_bound

end Double

/-! ## Digits -/

namespace Numeral

/-- A digit moves from the front of the digits to the end of the number. -/
theorem mul_pow_add_ofDigits_cons (n : Nat) (c : Char) (ds : List Char) :
    n * 10 ^ (c :: ds).length + ofDigits (c :: ds) =
      (10 * n + (c.toNat - '0'.toNat)) * 10 ^ ds.length + ofDigits ds := by
  rw [← List.singleton_append, ofDigits_append]
  simp only [ofDigits, Nat.ofDigitChars_cons, Nat.ofDigitChars_nil, List.singleton_append,
    List.length_cons, pow_succ]
  ring

/-- Digits that do not fit are cut off, and what is left is no greater than the whole. -/
theorem gather_le (n : Nat) (ds : List Char) :
    (gather n ds).1 * 10 ^ (gather n ds).2.length ≤ n * 10 ^ ds.length + ofDigits ds := by
  induction ds generalizing n with
  | nil => simp [gather]
  | cons c ds ih =>
    rw [gather]
    split_ifs
    · exact (ih _).trans (mul_pow_add_ofDigits_cons n c ds).ge
    · exact Nat.le_add_right _ _

theorem gather_fits {n : Nat} (h : n ≤ 18446744073709551615) (ds : List Char) :
    (gather n ds).1 ≤ 18446744073709551615 := by
  induction ds generalizing n with
  | nil => exact h
  | cons c ds ih =>
    rw [gather]
    split_ifs with fits
    · exact ih fits
    · exact h

/-- Digits that all fit are gathered. -/
theorem gather_eq {n : Nat} {ds : List Char}
    (h : n * 10 ^ ds.length + ofDigits ds ≤ 18446744073709551615) :
    gather n ds = (n * 10 ^ ds.length + ofDigits ds, []) := by
  induction ds generalizing n with
  | nil => simp [gather]
  | cons c ds ih =>
    rw [mul_pow_add_ofDigits_cons] at h ⊢
    have fits : 10 * n + (c.toNat - '0'.toNat) ≤ 18446744073709551615 :=
      (Nat.le_mul_of_pos_right _ (by positivity)).trans ((Nat.le_add_right _ _).trans h)
    rw [gather, if_pos fits, ih h]

/-- What is gathered is no greater than the numeral if the digits before the point fit. -/
theorem gathered_le {numeral : Numeral} (digits : ∀ c ∈ numeral.whole, c.isDigit)
    (short : numeral.whole.length ≤ 19) :
    (numeral.gathered.1 : ℚ) * 10 ^ numeral.gathered.2 ≤ numeral.decimal.magnitude := by
  obtain ⟨negative, whole, fraction, exponent⟩ := numeral
  have fits : 0 * 10 ^ whole.length + ofDigits whole ≤ 18446744073709551615 := by
    have : ofDigits whole < 10 ^ whole.length := ofDigits_lt_pow digits
    have : 10 ^ whole.length ≤ 10 ^ 19 := Nat.pow_le_pow_right (by norm_num) short
    omega
  have before : gather 0 whole = (ofDigits whole, []) := by simpa using gather_eq fits
  have behind : ((gather (ofDigits whole) fraction).1 : ℚ) *
      10 ^ (gather (ofDigits whole) fraction).2.length ≤ ofDigits (whole ++ fraction) := by
    rw [ofDigits_append]
    exact_mod_cast gather_le (ofDigits whole) fraction
  simp only [gathered, before, decimal, Decimal.ofParts, Decimal.magnitude]
  generalize gather (ofDigits whole) fraction = left at behind ⊢
  have split : exponent + (0 : Nat) - ((fraction.length : Int) - left.2.length) =
      left.2.length + (exponent - fraction.length) := by
    push_cast
    ring
  rw [List.length_nil, split, zpow_add₀ (by norm_num), zpow_natCast, ← mul_assoc]
  exact mul_le_mul_of_nonneg_right behind (ten_zpow_pos _).le

theorem isFinite_withSign {f : Format} {x : Binary f} {negative : Bool} (h : x.isFinite) :
    (x.withSign negative).isFinite := by
  cases x with
  | finite => rfl
  | nan | infinite => cases h

/-- A numeral that is not too great is quickly read as a finite number. -/
theorem isFinite_quick {numeral : Numeral} (digits : ∀ c ∈ numeral.whole, c.isDigit)
    (short : numeral.whole.length ≤ 19) (safe : numeral.decimal.magnitude ≤ Double.safe) :
    numeral.quick.isFinite := by
  refine isFinite_withSign (Double.isFinite_scale_ofInt ?_ ((gathered_le digits short).trans safe))
  have fits : numeral.gathered.1 ≤ 18446744073709551615 :=
    gather_fits (gather_fits (Nat.zero_le _) _) _
  calc (numeral.gathered.1 : ℚ) ≤ 18446744073709551615 := by exact_mod_cast fits
    _ ≤ (2 ^ 53 - 5 / 2) * 2 ^ (12 : Int) := by norm_num
    _ ≤ Double.safe := by
      unfold Double.safe
      gcongr <;> norm_num

end Numeral

end Storyboard
