import Storyboard.Proofs.Number.Rounding

/-!
# Numbers as text

Laying out the digits of a decimal keeps its value, so the plain text of a number is read as the
number.

## Main statements

* `Decimal.magnitude_toDigits`: the digits without the zeros at their end have the same value.
* `Digits.magnitude_split`: so have the digits around the point.
* `Binary.read?_plainText`: the plain text of a number is read as the number.
-/

namespace Storyboard

/-! ## Zeros at the ends -/

namespace Decimal

variable {negative : Bool} {whole fraction : List Char} {exponent : Int}

theorem magnitude_ofParts : (ofParts negative whole fraction exponent).magnitude =
    ofDigits (whole ++ fraction) * 10 ^ (exponent - fraction.length) :=
  rfl

theorem magnitude_ofParts_zero_whole :
    (ofParts negative ['0'] fraction exponent).magnitude =
      (ofParts negative [] fraction exponent).magnitude := by
  simp [magnitude_ofParts, ofDigits, Nat.ofDigitChars_cons]

theorem magnitude_ofParts_zero_fraction :
    (ofParts negative whole ['0'] exponent).magnitude =
      (ofParts negative whole [] exponent).magnitude := by
  have zero : ofDigits ['0'] = 0 := rfl
  simp only [magnitude_ofParts, ofDigits_append, zero, List.length_singleton, List.length_nil,
    ofDigits_nil, zpow_sub₀ (by norm_num : (10 : ℚ) ≠ 0)]
  push_cast
  field_simp
  ring

end Decimal

/-- A list of digits is its part without the zeros at the end, and those zeros. -/
theorem trimmed_append_zeros (ds : List Char) :
    ∃ k, ds = (ds.reverse.dropWhile (· = '0')).reverse ++ List.replicate k '0' := by
  refine ⟨(ds.reverse.takeWhile (· = '0')).length, ?_⟩
  have zeros : ds.reverse.takeWhile (· = '0') =
      List.replicate (ds.reverse.takeWhile (· = '0')).length '0' :=
    List.eq_replicate_of_mem fun c hc => by simpa using List.mem_takeWhile_imp hc
  calc ds = ds.reverse.reverse := ds.reverse_reverse.symm
    _ = (ds.reverse.takeWhile (· = '0') ++ ds.reverse.dropWhile (· = '0')).reverse := by
        rw [List.takeWhile_append_dropWhile]
    _ = _ := by rw [List.reverse_append, zeros, List.reverse_replicate, List.length_replicate]

namespace Decimal

variable {d : Decimal}

theorem isDigit_toDigits : ∀ c ∈ d.toDigits.digits, c.isDigit := by
  intro c hc
  unfold toDigits at hc
  split at hc
  · obtain rfl : c = '0' := by simpa using hc
    rfl
  · refine isDigit_digitsOf d.digits c ?_
    have := (List.dropWhile_sublist _).subset (List.mem_reverse.1 hc)
    exact List.mem_reverse.1 this

theorem toDigits_ne_nil : d.toDigits.digits ≠ [] := by
  unfold toDigits
  split
  · simp
  next nonzero =>
    intro none
    obtain ⟨k, split⟩ := trimmed_append_zeros (digitsOf d.digits)
    simp only at none
    rw [none, List.nil_append] at split
    have value := ofDigits_digitsOf d.digits
    rw [split, ofDigits_replicate_zero] at value
    exact nonzero value.symm

/-- The digits without the zeros at their end have the value of the decimal. -/
theorem magnitude_toDigits :
    d.magnitude =
      ofDigits d.toDigits.digits * 10 ^ (d.toDigits.point - d.toDigits.digits.length) := by
  unfold toDigits
  split
  next zero => simp [magnitude, zero, ofDigits, Nat.ofDigitChars_cons]
  next =>
    obtain ⟨k, split⟩ := trimmed_append_zeros (digitsOf d.digits)
    generalize ((digitsOf d.digits).reverse.dropWhile (· = '0')).reverse = ds at split ⊢
    have value : d.digits = ofDigits ds * 10 ^ k := by
      rw [← ofDigits_digitsOf d.digits, split, ofDigits_append]
      simp
    have length : d.point = ds.length + k + d.exponent := by
      simp [point, split]
    simp only [magnitude, length]
    rw [value, show (ds.length + k + d.exponent - ds.length : Int) = k + d.exponent by ring,
      zpow_add₀ (by norm_num), zpow_natCast]
    push_cast
    ring

theorem head_toDigits_ne_zero (nonzero : d.digits ≠ 0) : d.toDigits.digits.head? ≠ some '0' := by
  have front := head_digitsOf_ne_zero nonzero
  have some := toDigits_ne_nil (d := d)
  unfold toDigits at some ⊢
  rw [if_neg nonzero] at some ⊢
  obtain ⟨k, split⟩ := trimmed_append_zeros (digitsOf d.digits)
  generalize ((digitsOf d.digits).reverse.dropWhile (· = '0')).reverse = ds at *
  rwa [split, List.head?_append_of_ne_nil _ some] at front

end Decimal

/-! ## Around the point -/

namespace Digits

variable {d : Digits}

theorem isDigit_split (digits : ∀ c ∈ d.digits, c.isDigit) :
    (∀ c ∈ d.split.1, c.isDigit) ∧ ∀ c ∈ d.split.2, c.isDigit := by
  have zero : '0'.isDigit := rfl
  unfold split
  split
  · refine ⟨by simp, fun c hc => ?_⟩
    rcases List.mem_append.1 hc with hc | hc
    · rwa [List.eq_of_mem_replicate hc]
    · exact digits c hc
  · refine ⟨fun c hc => ?_, fun c hc => digits c (List.mem_of_mem_drop hc)⟩
    rcases List.mem_append.1 hc with hc | hc
    · exact digits c (List.mem_of_mem_take hc)
    · rwa [List.eq_of_mem_replicate hc]

/-- The digits around the point have the value of the digits with their point. -/
theorem magnitude_split (negative : Bool) :
    (Decimal.ofParts negative d.split.1 d.split.2 0).magnitude =
      ofDigits d.digits * 10 ^ (d.point - d.digits.length) := by
  rw [Decimal.magnitude_ofParts]
  unfold split
  split
  next small =>
    obtain ⟨n, point⟩ : ∃ n : Nat, d.point = -(n : Int) := ⟨(-d.point).toNat, by omega⟩
    simp only [point, neg_neg, Int.toNat_natCast, List.nil_append, ofDigits_append,
      ofDigits_replicate_zero, zero_mul, zero_add, List.length_append, List.length_replicate]
    congr 2
    push_cast
    ring
  next great =>
    obtain ⟨n, point⟩ : ∃ n : Nat, d.point = n := ⟨d.point.toNat, by omega⟩
    simp only [point, Int.toNat_natCast]
    rcases le_or_gt d.digits.length n with short | long
    · rw [List.take_of_length_le short, List.drop_eq_nil_of_le short, List.append_nil,
        ofDigits_append, ofDigits_replicate_zero, List.length_replicate,
        show (n - d.digits.length : Int) = (n - d.digits.length : Nat) by omega, zpow_natCast]
      simp
    · rw [Nat.sub_eq_zero_of_le long.le, List.replicate_zero, List.append_nil,
        List.take_append_drop, List.length_drop]
      congr 2
      omega

end Digits

/-! ## Reading plain text -/

theorem Decimal.read?_plain {negative : Bool} {whole fraction : List Char} (some : whole ≠ [])
    (digits : (∀ c ∈ whole, c.isDigit) ∧ ∀ c ∈ fraction, c.isDigit) :
    Decimal.read? negative (whole ++ if fraction = [] then [] else '.' :: fraction) =
      .some (.ofParts negative whole fraction 0) := by
  have noDigit : Stops Char.isDigit (if fraction = [] then [] else '.' :: fraction) := by
    split <;> simp
  simp only [Decimal.read?, takeWhile_run digits.1 noDigit, dropWhile_run digits.1 noDigit]
  by_cases none : fraction = []
  · simp [none, some]
  · have run : fraction.takeWhile Char.isDigit = fraction := by
      simpa using takeWhile_run digits.2 stops_nil
    have rest : fraction.dropWhile Char.isDigit = [] := by
      simpa using dropWhile_run digits.2 stops_nil
    simp [none, some, run, rest]

theorem toLower_digit {c : Char} (digit : c.isDigit) : c.toLower = c := by
  simp only [Char.isDigit, Bool.and_eq_true, decide_eq_true_eq] at digit
  refine dif_neg fun upper => ?_
  have above : 65 ≤ c.val.toNat := upper.1
  have below : c.val.toNat ≤ 57 := digit.2
  omega

/-- A text that starts with a digit is no word for what is not finite. -/
theorem lower_ne_word {cs : List Char} (digit : ∀ c ∈ cs.head?, c.isDigit) {word : String}
    (letter : ∃ c ∈ word.toList.head?, c.isDigit = false) :
    String.ofList (cs.map Char.toLower) ≠ word := by
  rintro rfl
  obtain ⟨c, front, noDigit⟩ := letter
  cases cs with
  | nil => simp at front
  | cons d cs =>
    have front : d.toLower = c := by simpa using front
    have digit : d.isDigit := digit d (by simp)
    rw [toLower_digit digit] at front
    simp [front ▸ digit] at noDigit

theorem writeInt_eq (n : Int) : writeInt n = signText (n < 0) ++ digitsOf n.natAbs := by
  by_cases negative : n < 0 <;> simp [writeInt, signText, negative]

namespace Binary

variable {f : Format}

/-- The text of a finite number without its sign starts with a digit. -/
theorem isDigit_head_positional (d : Decimal) :
    ∀ c ∈ d.toDigits.positional.head?, c.isDigit := by
  obtain ⟨whole, -⟩ := Digits.isDigit_split (d := d.toDigits) Decimal.isDigit_toDigits
  intro c hc
  simp only [Digits.positional] at hc
  split at hc
  · obtain rfl : '0' = c := by simpa using hc
    rfl
  next some =>
    rw [List.head?_append_of_ne_nil _ some] at hc
    exact whole c (List.mem_of_mem_head? hc)

theorem takeSign_signText {body : List Char} (negative : Bool)
    (digit : ∀ c ∈ body.head?, c.isDigit) :
    takeSign (signText negative ++ body) = (negative, body) := by
  cases negative with
  | false => exact takeSign_of_digits digit
  | true => rfl

/-- The positional text of a decimal is read as the decimal's value. -/
theorem read?_positional (d : Decimal) :
    ∃ e, Decimal.read? d.negative d.toDigits.positional = some e ∧ e.negative = d.negative ∧
      e.magnitude = d.magnitude := by
  have digits := Digits.isDigit_split (d := d.toDigits) Decimal.isDigit_toDigits
  have value := Digits.magnitude_split (d := d.toDigits) d.negative
  rw [← Decimal.magnitude_toDigits] at value
  simp only [Digits.positional]
  by_cases none : d.toDigits.split.1 = []
  · simp only [none, if_true]
    refine ⟨_, Decimal.read?_plain (by simp) ⟨by simp, digits.2⟩, rfl, ?_⟩
    rw [Decimal.magnitude_ofParts_zero_whole, ← none, value]
  · simp only [none, if_false]
    exact ⟨_, Decimal.read?_plain none digits, rfl, value⟩

/-- The plain text of a number is read as the number. -/
theorem read?_plainText (wide : 0 ≤ f.maxExponent + f.precision) (x : Binary f) :
    Binary.read? f (plainText x) = some x := by
  cases x with
  | nan => rfl
  | infinite negative => cases negative <;> rfl
  | finite negative m q canonical =>
    obtain ⟨back, sign⟩ := toBinary_shortest .up negative wide canonical
    obtain ⟨e, read, sign', value⟩ := read?_positional (shortest .up negative m q canonical)
    rw [sign] at read
    have digit := isDigit_head_positional (shortest .up negative m q canonical)
    simp only [plainText, Binary.read?, takeSign_signText negative digit]
    rw [if_neg, if_neg, read, Option.map_some, Decimal.toBinary_eq_of_magnitude_eq sign' value, back]
    · exact lower_ne_word digit ⟨'n', rfl, rfl⟩
    · rintro (inf | infinity)
      · exact lower_ne_word digit ⟨'i', rfl, rfl⟩ inf
      · exact lower_ne_word digit ⟨'i', rfl, rfl⟩ infinity

end Binary

end Storyboard
