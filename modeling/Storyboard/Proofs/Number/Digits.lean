import Storyboard.Number.Decimal
import Storyboard.Proofs.Text.Run

/-!
# Digits and the numbers they write

The value of a list of digits, and the reading of a whole number from its text.

## Main statements

* `ofDigits_digitsOf`: the digits of a number write that number.
* `toString_nat_injective`: different numbers are written differently.
* `pow_le_of_length_digitsOf`, `lt_pow_length_digitsOf`: how many digits a number has.
* `readInt?_writeInt`: the text of a whole number is read as that number.
-/

namespace Storyboard

@[simp] theorem ofDigits_digitsOf (n : Nat) : ofDigits (digitsOf n) = n :=
  Nat.ofDigitChars_ten_toDigits

@[simp] theorem ofDigits_nil : ofDigits [] = 0 :=
  rfl

theorem ofDigits_append (ds es : List Char) :
    ofDigits (ds ++ es) = ofDigits ds * 10 ^ es.length + ofDigits es := by
  rw [ofDigits, Nat.ofDigitChars_append, Nat.ofDigitChars_eq_ofDigitChars_zero, mul_comm]
  rfl

@[simp] theorem ofDigits_replicate_zero (k : Nat) : ofDigits (List.replicate k '0') = 0 := by
  simp [ofDigits]

theorem isDigit_digitsOf (n : Nat) : ∀ c ∈ digitsOf n, c.isDigit := by
  intro c hc
  exact Nat.isDigit_of_mem_toDigits (by decide) (by decide) hc

@[simp] theorem digitsOf_ne_nil (n : Nat) : digitsOf n ≠ [] :=
  Nat.toDigits_ne_nil

theorem toList_toString_nat (n : Nat) : (toString n).toList = digitsOf n := by
  simp [digitsOf]

theorem toString_nat_injective : Function.Injective (toString : Nat → String) := by
  intro m n h
  have digits := congrArg (fun text => ofDigits text.toList) h
  simpa only [toList_toString_nat, ofDigits_digitsOf] using digits

/-! ## Bounds -/

theorem lt_pow_length_digitsOf (n : Nat) : n < 10 ^ (digitsOf n).length :=
  (Nat.length_toDigits_le_iff (by decide) Nat.length_toDigits_pos).1 le_rfl

theorem pow_le_of_length_digitsOf {n : Nat} (h : n ≠ 0) : 10 ^ ((digitsOf n).length - 1) ≤ n := by
  by_contra lt
  rcases Nat.eq_zero_or_pos ((digitsOf n).length - 1) with zero | pos
  · simp [zero] at lt
    exact h lt
  · have short := (Nat.length_toDigits_le_iff (by decide) pos).2 (not_le.1 lt)
    change (digitsOf n).length ≤ _ at short
    omega

theorem digit_value_le {c : Char} (h : c.isDigit) : c.toNat - '0'.toNat ≤ 9 := by
  simp only [Char.isDigit, Bool.and_eq_true, decide_eq_true_eq] at h
  have : c.toNat ≤ 57 := h.2
  simp
  omega

theorem ofDigits_lt_pow {ds : List Char} (digits : ∀ c ∈ ds, c.isDigit) :
    ofDigits ds < 10 ^ ds.length := by
  induction ds using List.reverseRecOn with
  | nil => simp
  | append_singleton ds c ih =>
    have before := ih fun d hd => digits d (by simp [hd])
    have last : ofDigits [c] ≤ 9 := by
      simpa [ofDigits, Nat.ofDigitChars_cons] using digit_value_le (digits c (by simp))
    rw [ofDigits_append, List.length_append, pow_add]
    simp only [List.length_singleton, pow_one]
    omega

/-- A number other than zero has no zero in front. -/
theorem head_digitsOf_ne_zero {n : Nat} (h : n ≠ 0) : (digitsOf n).head? ≠ some '0' := by
  intro zero
  obtain ⟨tail, split⟩ : ∃ tail, digitsOf n = '0' :: tail := by
    cases ds : digitsOf n with
    | nil => simp [ds] at zero
    | cons c tail => simp [ds] at zero; exact ⟨tail, by rw [zero]⟩
  have value : n = ofDigits tail := by
    rw [← ofDigits_digitsOf n, split]
    rfl
  have below : ofDigits tail < 10 ^ tail.length :=
    ofDigits_lt_pow fun c hc => isDigit_digitsOf n c (by simp [split, hc])
  have above := pow_le_of_length_digitsOf h
  rw [split] at above
  simp only [List.length_cons, Nat.add_sub_cancel] at above
  omega

/-! ## Whole numbers as text -/

theorem takeSign_of_digits {ds : List Char} (h : ∀ c ∈ ds.head?, c.isDigit) :
    takeSign ds = (false, ds) := by
  cases ds with
  | nil => rfl
  | cons c ds =>
    have digit : c.isDigit := h c (by simp)
    have notMinus : c ≠ '-' := by rintro rfl; revert digit; decide
    have notPlus : c ≠ '+' := by rintro rfl; revert digit; decide
    simp [takeSign, notMinus, notPlus]

theorem isDigit_head_digitsOf (n : Nat) : ∀ c ∈ (digitsOf n).head?, c.isDigit :=
  fun c hc => isDigit_digitsOf n c (List.mem_of_mem_head? hc)

@[simp] theorem readInt?_writeInt (n : Int) : readInt? (writeInt n) = some n := by
  have body : digitsOf n.natAbs ≠ [] ∧ (digitsOf n.natAbs).all Char.isDigit :=
    ⟨digitsOf_ne_nil _, by simpa using isDigit_digitsOf n.natAbs⟩
  by_cases negative : n < 0
  · have value : -(n.natAbs : Int) = n := by omega
    simp only [readInt?, writeInt, if_pos negative, takeSign, if_pos body, ofDigits_digitsOf,
      if_true, value]
  · have value : (n.natAbs : Int) = n := by omega
    simp only [readInt?, writeInt, if_neg negative, takeSign_of_digits (isDigit_head_digitsOf _),
      if_pos body, ofDigits_digitsOf, Bool.false_eq_true, if_false, value]

end Storyboard
