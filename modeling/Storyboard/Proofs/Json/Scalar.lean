import Storyboard.Json.Parser
import Storyboard.Json.Printer
import Storyboard.Proofs.Number.Quick
import Storyboard.Proofs.Number.Text

/-!
# Strings and numbers of JSON

The reader undoes the writer on strings and on integers, whatever follows them in the text. Of other
numbers it reads the numeral that was written, and what it makes of the numeral is finite.

## Main definitions

* `Json.IsMarked`: the numerals that are read as such.

## Main statements

* `Json.readString_escape`: an escaped string is read as the string.
* `Json.readNumber_int`: the text of an integer is read as the integer.
* `Json.readNumber_numeralChars`: the text of a numeral is read as the numeral.
* `Json.nearest_floatNumeral`: the nearest number to the numeral of a number is the number.
* `Json.isFinite_quick_floatNumeral`: a finite number is quickly read as a finite number.
-/

namespace Storyboard.Json

/-! ## Strings -/

theorem hexDigit?_digitChar : ∀ d < 16, hexDigit? (Nat.digitChar d) = some d := by
  decide

theorem isLowUnit_small {n : Nat} (small : n < 0x20) : isLowUnit n = false := by
  simp [isLowUnit]
  omega

theorem isHighUnit_small {n : Nat} (small : n < 0x20) : isHighUnit n = false := by
  simp [isHighUnit]
  omega

theorem hexUnit?_control {n : Nat} (small : n < 0x20) :
    hexUnit? '0' '0' (Nat.digitChar (n / 16)) (Nat.digitChar (n % 16)) = some n := by
  have zero : hexDigit? '0' = some 0 := rfl
  simp only [hexUnit?, zero, hexDigit?_digitChar _ (show n / 16 < 16 by omega),
    hexDigit?_digitChar _ (show n % 16 < 16 by omega)]
  change some _ = some _
  congr 1
  omega

/-- The escape of a character is read as the character. -/
theorem readString_escapeChar (c : Char) (rest : List Char) :
    readString (escapeChar c ++ rest) =
      (readString rest).map fun (cs, rest) => (c :: cs, rest) := by
  unfold escapeChar
  split
  next mark => rcases mark with rfl | rfl <;> rfl
  next noMark =>
    iterate 5
      split
      next h => subst h; rfl
    split
    next small =>
      simp only [List.cons_append, List.nil_append, readString, hexUnit?_control small,
        isLowUnit_small small, isHighUnit_small small, Bool.false_eq_true, if_false,
        Char.ofNat_toNat]
    next large =>
      rw [not_or] at noMark
      simp only [List.cons_append, List.nil_append]
      rw [readString.eq_def]
      split <;> simp_all

theorem readString_escape (cs rest : List Char) :
    readString (cs.flatMap escapeChar ++ '"' :: rest) = some (cs, rest) := by
  induction cs with
  | nil => rfl
  | cons c cs ih =>
    rw [List.flatMap_cons, List.append_assoc, readString_escapeChar, ih]
    rfl

/-! ## Numbers -/

/-- A character that may stand in a number after its first digit. -/
def continuesNumber (c : Char) : Bool :=
  c.isDigit || c = '.' || c = 'e' || c = 'E'

variable {round : Rounding} {negative : Bool} {whole fraction tail mid rest : List Char}
  {exponent : Option Int}

theorem isDigit_of_continuesNumber : ∀ c, Char.isDigit c → continuesNumber c := by
  simp +contextual [continuesNumber]

theorem readFraction_stop (stop : Stops (fun c => c = '.') rest) :
    readFraction rest = some ([], rest) := by
  cases rest with
  | nil => rfl
  | cons c rest =>
    have : c ≠ '.' := by simpa using stop c rfl
    simp [readFraction, this]

theorem readFraction_digits (some : fraction ≠ []) (digits : ∀ c ∈ fraction, c.isDigit)
    (stop : Stops Char.isDigit rest) :
    readFraction ('.' :: (fraction ++ rest)) = .some (fraction, rest) := by
  simp [readFraction, takeWhile_run digits stop, dropWhile_run digits stop, some]

theorem readExponent_stop (stop : Stops continuesNumber rest) :
    readExponent rest = some (none, rest) := by
  cases rest with
  | nil => rfl
  | cons c rest =>
    have : ¬ (c = 'e' ∨ c = 'E') := by
      rintro (rfl | rfl) <;> simp [continuesNumber] at stop
    simp [readExponent, this]

/-- The text of an exponent, which always has a sign. -/
def exponentText (n : Int) : List Char :=
  'e' :: ((if n < 0 then [] else ['+']) ++ writeInt n)

theorem readExponent_exponentText (n : Int) (stop : Stops Char.isDigit rest) :
    readExponent (exponentText n ++ rest) = some (some n, rest) := by
  have digits := isDigit_digitsOf n.natAbs
  have run := takeWhile_run digits stop
  have left := dropWhile_run digits stop
  by_cases neg : n < 0
  · have value : -(n.natAbs : Int) = n := by omega
    simp only [readExponent, exponentText, writeInt, if_pos neg, List.cons_append, List.nil_append,
      true_or, if_true, takeSign, run, left, digitsOf_ne_nil, if_false, ofDigits_digitsOf, value]
  · have value : (n.natAbs : Int) = n := by omega
    simp only [readExponent, exponentText, writeInt, if_neg neg, List.cons_append, List.nil_append,
      true_or, if_true, takeSign, run, left, digitsOf_ne_nil, if_false, Bool.false_eq_true,
      ofDigits_digitsOf, value]

/-- The sign of a number is taken off in front of its digits. -/
theorem readNumber_sign (some : whole ≠ []) (digits : ∀ c ∈ whole, c.isDigit) :
    readNumber round (signText negative ++ (whole ++ tail)) =
      readUnsigned round negative (whole ++ tail) := by
  cases negative with
  | true => rfl
  | false =>
    cases whole with
    | nil => exact absurd rfl some
    | cons c whole =>
      have : c ≠ '-' := by
        rintro rfl
        simpa using digits '-' (by simp)
      simp [signText, readNumber, this]

/-- What follows the whole part of a number decides its kind. -/
theorem readUnsigned_parts (some : whole ≠ []) (digits : ∀ c ∈ whole, c.isDigit)
    (front : whole.head? = .some '0' → whole = ['0']) (stop : Stops Char.isDigit tail)
    (hf : readFraction tail = .some (fraction, mid))
    (he : readExponent mid = .some (exponent, rest)) :
    readUnsigned round negative (whole ++ tail) =
      let inexact := ofNumeral? round ⟨negative, whole, fraction, exponent.getD 0⟩
      (if fraction = [] ∧ exponent = none then
        (ofWhole negative (ofDigits whole)).or inexact else inexact).map (·, rest) := by
  have good : ¬ (whole = [] ∨ (whole.head? = .some '0' ∧ whole ≠ ['0'])) := by
    rintro (none | ⟨zero, long⟩)
    · exact some none
    · exact long (front zero)
  simp only [readUnsigned, takeWhile_run digits stop, dropWhile_run digits stop, if_neg good, hf,
    Option.bind_eq_bind, Option.bind_some, he, Option.pure_def]
  split <;> simp [Option.map_eq_bind]

/-- An integer that 64 bits hold, with or without a sign, is read as itself. -/
theorem readNumber_int {n : Int} (low : -9223372036854775808 ≤ n) (high : n ≤ 18446744073709551615)
    (stop : Stops continuesNumber rest) :
    readNumber round (writeInt n ++ rest) = some (.int n, rest) := by
  have front : (digitsOf n.natAbs).head? = some '0' → digitsOf n.natAbs = ['0'] := by
    intro zero
    by_cases none : n.natAbs = 0
    · rw [none]
      rfl
    · exact absurd zero (head_digitsOf_ne_zero none)
  have point : Stops (fun c => c = '.') rest := stop.imp (by simp +contextual [continuesNumber])
  rw [writeInt_eq, List.append_assoc,
    readNumber_sign (digitsOf_ne_nil _) (isDigit_digitsOf _),
    readUnsigned_parts (digitsOf_ne_nil _) (isDigit_digitsOf _) front
      (stop.imp isDigit_of_continuesNumber) (readFraction_stop point) (readExponent_stop stop)]
  have whole : ofWhole (n < 0) n.natAbs = some (.int n) := by
    by_cases negative : n < 0
    · have value : -(n.natAbs : Int) = n := by omega
      have fits : n.natAbs ≠ 0 ∧ n.natAbs ≤ 9223372036854775808 := by omega
      simp only [ofWhole, negative, decide_true, if_true, if_pos fits, value]
    · have value : (n.natAbs : Int) = n := by omega
      have fits : n.natAbs ≤ 18446744073709551615 := by omega
      simp only [ofWhole, negative, decide_false, Bool.false_eq_true, if_false, if_pos fits, value]
  simp [whole]

/-! ## Numerals -/

/-- The numeral can be read: it has digits before the point, no zero in front of others, and a
fraction or an exponent. -/
structure IsMarked (numeral : Numeral) : Prop where
  some : numeral.whole ≠ []
  whole : ∀ c ∈ numeral.whole, c.isDigit
  front : numeral.whole.head? = .some '0' → numeral.whole = ['0']
  fraction : ∀ c ∈ numeral.fraction, c.isDigit
  marked : numeral.fraction = [] → numeral.exponent ≠ 0

/-- What follows the digits of a numeral: an exponent, unless it is zero. -/
def endText (n : Int) : List Char :=
  if n = 0 then [] else exponentText n

theorem stops_endText {p : Char → Bool} (n : Int) (mark : p 'e' = false) (stop : Stops p rest) :
    Stops p (endText n ++ rest) := by
  unfold endText
  split
  · exact stop
  · exact stops_cons.2 mark

theorem readExponent_endText (n : Int) (stop : Stops continuesNumber rest) :
    ∃ exponent, readExponent (endText n ++ rest) = some (exponent, rest) ∧ exponent.getD 0 = n ∧
      (exponent = none → n = 0) := by
  unfold endText
  split
  next zero => exact ⟨none, readExponent_stop stop, zero.symm, fun _ => zero⟩
  next =>
    exact ⟨some n, readExponent_exponentText n (stop.imp isDigit_of_continuesNumber), rfl, by simp⟩

/-- The text of a numeral is read as the numeral, and then as the rounding has it. -/
theorem readNumber_numeralChars {numeral : Numeral} (h : IsMarked numeral)
    (stop : Stops continuesNumber rest) :
    readNumber round (numeralChars numeral ++ rest) = (ofNumeral? round numeral).map (·, rest) := by
  obtain ⟨negative, whole, fraction, n⟩ := numeral
  obtain ⟨some, digits, front, behind, marked⟩ := h
  have noDigit := stops_endText n (by decide) (stop.imp isDigit_of_continuesNumber)
  have noPoint : Stops (fun c => c = '.') (endText n ++ rest) :=
    stops_endText n (by decide) (stop.imp (by simp +contextual [continuesNumber]))
  obtain ⟨exponent, he, value, absent⟩ := readExponent_endText n stop
  obtain ⟨tail, text, hf, ends⟩ : ∃ tail,
      numeralChars ⟨negative, whole, fraction, n⟩ ++ rest = signText negative ++ (whole ++ tail) ∧
        readFraction tail = .some (fraction, endText n ++ rest) ∧ Stops Char.isDigit tail := by
    by_cases none : fraction = []
    · subst none
      exact ⟨endText n ++ rest, by simp [numeralChars, endText, exponentText],
        readFraction_stop noPoint, noDigit⟩
    · exact ⟨'.' :: (fraction ++ (endText n ++ rest)),
        by simp [numeralChars, endText, exponentText, none],
        readFraction_digits none behind noDigit, stops_cons.2 rfl⟩
  have inexact : ¬ (fraction = [] ∧ exponent = none) := fun h => marked h.1 (absent h.2)
  rw [text, readNumber_sign some digits, readUnsigned_parts some digits front ends hf he]
  simp only [if_neg inexact, value]

/-! ## Layout of decimals -/

theorem side_ne_nil (ds : List Char) : side ds ≠ [] := by
  unfold side
  split
  · simp
  · assumption

theorem isDigit_side {ds : List Char} (digits : ∀ c ∈ ds, c.isDigit) :
    ∀ c ∈ side ds, c.isDigit := by
  unfold side
  split
  · simp
  · exact digits

/-- Only the number zero has a zero in front of its point. -/
theorem front_split (d : Decimal) :
    d.toDigits.split.1.head? = some '0' → d.toDigits.split.1 = ['0'] := by
  intro zero
  by_cases none : d.digits = 0
  · simp only [Decimal.toDigits, if_pos none]
    rfl
  · have front := Decimal.head_toDigits_ne_zero none
    have some := Decimal.toDigits_ne_nil (d := d)
    generalize d.toDigits = D at *
    unfold Digits.split at zero ⊢
    split at zero
    · simp at zero
    next great =>
      obtain ⟨c, ds, digits⟩ := List.exists_cons_of_ne_nil some
      obtain ⟨n, point⟩ : ∃ n : Nat, D.point.toNat = n + 1 := ⟨D.point.toNat - 1, by omega⟩
      simp [digits, point] at zero front
      exact absurd zero front

theorem front_side {ds : List Char} (front : ds.head? = some '0' → ds = ['0']) :
    (side ds).head? = some '0' → side ds = ['0'] := by
  unfold side
  split
  · simp
  · exact front

theorem length_split_le {d : Digits} {n : Nat} (h : d.point ≤ n) : d.split.1.length ≤ n := by
  unfold Digits.split
  split
  · exact Nat.zero_le _
  · simp only [List.length_append, List.length_take, List.length_replicate]
    omega

/-- The numeral of a decimal has its value. -/
theorem magnitude_numeralOf (d : Decimal) : (numeralOf d).decimal.magnitude = d.magnitude := by
  simp only [Numeral.decimal, numeralOf]
  split
  · have value := Digits.magnitude_split (d := d.toDigits) d.negative
    rw [← Decimal.magnitude_toDigits] at value
    rw [← value]
    generalize d.toDigits.split.1 = whole
    generalize d.toDigits.split.2 = fraction
    by_cases noWhole : whole = [] <;> by_cases noFraction : fraction = [] <;>
      simp only [side, noWhole, noFraction, if_true, if_false,
        Decimal.magnitude_ofParts_zero_whole, Decimal.magnitude_ofParts_zero_fraction]
  · obtain ⟨c, ds, cons⟩ := List.exists_cons_of_ne_nil (Decimal.toDigits_ne_nil (d := d))
    have value := Decimal.magnitude_toDigits (d := d)
    rw [cons] at value
    rw [value, Decimal.magnitude_ofParts, cons]
    simp only [List.take_succ_cons, List.take_zero, List.drop_succ_cons, List.drop_zero,
      List.length_cons, List.singleton_append]
    congr 2
    push_cast
    ring

theorem negative_numeralOf (d : Decimal) : (numeralOf d).negative = d.negative := by
  simp only [numeralOf]
  split <;> rfl

/-- The numeral of a decimal can be read, and has few digits before its point. -/
theorem isMarked_numeralOf (d : Decimal) :
    IsMarked (numeralOf d) ∧ (numeralOf d).whole.length ≤ 19 := by
  obtain ⟨wholeDigits, fractionDigits⟩ :=
    Digits.isDigit_split (d := d.toDigits) Decimal.isDigit_toDigits
  simp only [numeralOf]
  split
  next range =>
    refine ⟨⟨side_ne_nil _, isDigit_side wholeDigits, front_side (front_split d),
      isDigit_side fractionDigits, fun none => absurd none (side_ne_nil _)⟩, ?_⟩
    have few : d.toDigits.split.1.length ≤ 16 := length_split_le (by omega)
    simp only [side]
    split
    · simp
    · omega
  next beyond =>
    obtain ⟨c, ds, cons⟩ := List.exists_cons_of_ne_nil (Decimal.toDigits_ne_nil (d := d))
    have digits := Decimal.isDigit_toDigits (d := d)
    rw [cons] at digits ⊢
    have exponent : d.toDigits.point - 1 ≠ 0 := by omega
    refine ⟨⟨by simp, by simpa using digits c (by simp), by simp, ?_, fun _ => exponent⟩, by simp⟩
    intro e mem
    exact digits e (List.mem_cons_of_mem c (by simpa using mem))

/-! ## Numbers that are no integers -/

section Float

variable {m : Nat} {q : Int} (canonical : Format.double.Canonical m q)

/-- Rounding to the nearest gives back every number. -/
theorem nearest_floatNumeral :
    (floatNumeral negative m q canonical).nearest = .finite negative m q canonical := by
  obtain ⟨back, sign⟩ :=
    Binary.toBinary_shortest (f := .double) .even negative (by decide) canonical
  rw [Numeral.nearest, floatNumeral, Decimal.toBinary_eq_of_magnitude_eq _ (magnitude_numeralOf _),
    back]
  exact negative_numeralOf _

/-- What is written for the two greatest numbers is not too great. -/
theorem isFinite_quick_greatest (negative : Bool) :
    (∀ canonical, (floatNumeral negative (2 ^ 53 - 1) 971 canonical).quick.isFinite) ∧
      ∀ canonical, (floatNumeral negative (2 ^ 53 - 2) 971 canonical).quick.isFinite := by
  cases negative <;> exact ⟨by decide +kernel, by decide +kernel⟩

/-- Quick reading gives a finite number for every finite number. -/
theorem isFinite_quick_floatNumeral :
    (floatNumeral negative m q canonical).quick.isFinite := by
  obtain ⟨back, sign⟩ :=
    Binary.toBinary_shortest (f := .double) .even negative (by decide) canonical
  obtain ⟨marked, short⟩ := isMarked_numeralOf (Binary.shortest .even negative m q canonical)
  have upper := Decimal.magnitude_le_of_toBinary back
  by_cases great : q = 971 ∧ 2 ^ 53 - 2 ≤ m
  · obtain ⟨rfl, least⟩ := great
    have greatest : m < 2 ^ 53 := canonical.1
    obtain rfl | rfl : m = 2 ^ 53 - 1 ∨ m = 2 ^ 53 - 2 := by omega
    · exact (isFinite_quick_greatest negative).1 canonical
    · exact (isFinite_quick_greatest negative).2 canonical
  · refine Numeral.isFinite_quick marked.whole short
      ((magnitude_numeralOf _).le.trans (upper.trans ?_))
    exact Double.le_safe_of_canonical canonical great

end Float

end Storyboard.Json
