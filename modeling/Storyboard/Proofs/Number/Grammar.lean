import Mathlib.Data.Nat.Digits.Defs
import Storyboard.Proofs.Number.Text

/-!
# The grammar of numbers

Which texts are numbers, said without a reader.

## Main definitions

* `WritesInt`: the whole number of a text.
* `IsNumeral`: digits with an optional point and an optional exponent.
* `IsNumberText`: numerals and the words for what is not finite, behind an optional sign.

## Main statements

* `readInt?_eq_some_iff`: what whole numbers are read from.
* `Binary.isSome_read?_iff`: what numbers are read from.
-/

namespace Storyboard

/-! ## Grammar -/

/-- One sign, or none. -/
def IsSign (text : List Char) : Prop :=
  text = [] ∨ text = ['+'] ∨ text = ['-']

/-- At least one digit, and nothing else. -/
def IsDigits (ds : List Char) : Prop :=
  ds ≠ [] ∧ ∀ c ∈ ds, c.isDigit

/-- The number that digits write, each in its place. -/
def placeValue (ds : List Char) : Nat :=
  Nat.ofDigits 10 (ds.reverse.map fun c => c.toNat - '0'.toNat)

/-- The whole number of a text. -/
inductive WritesInt : List Char → Int → Prop
  | plain {ds : List Char} (digits : IsDigits ds) : WritesInt ds (placeValue ds)
  | plus {ds : List Char} (digits : IsDigits ds) : WritesInt ('+' :: ds) (placeValue ds)
  | minus {ds : List Char} (digits : IsDigits ds) : WritesInt ('-' :: ds) (-(placeValue ds : Int))

/-- Digits, which may have a point in front, in between or behind. -/
inductive IsMantissa : List Char → Prop
  | whole {ds : List Char} (digits : IsDigits ds) : IsMantissa ds
  | point {ds es : List Char} (digits : IsDigits (ds ++ es)) : IsMantissa (ds ++ '.' :: es)

/-- A whole number behind an `e`, or nothing. -/
inductive IsExponent : List Char → Prop
  | none : IsExponent []
  | some {e : Char} {text : List Char} {n : Int} (letter : e = 'e' ∨ e = 'E')
      (writes : WritesInt text n) : IsExponent (e :: text)

/-- A number in decimal, without a sign. -/
inductive IsNumeral : List Char → Prop
  | mk {mantissa exponent : List Char} (first : IsMantissa mantissa)
      (second : IsExponent exponent) : IsNumeral (mantissa ++ exponent)

/-- A number, or a word for what is not finite, in either case of letters. -/
inductive IsNumberText : List Char → Prop
  | numeral {sign body : List Char} (is : IsSign sign) (number : IsNumeral body) :
      IsNumberText (sign ++ body)
  | word {sign body : List Char} (is : IsSign sign)
      (named : String.ofList (body.map Char.toLower) ∈ ["inf", "infinity", "nan"]) :
      IsNumberText (sign ++ body)

/-! ## Whole numbers -/

theorem ofDigits_eq_placeValue (ds : List Char) : ofDigits ds = placeValue ds := by
  induction ds using List.reverseRecOn with
  | nil => rfl
  | append_singleton ds c ih =>
    have last : ofDigits [c] = c.toNat - '0'.toNat := by simp [ofDigits, Nat.ofDigitChars_cons]
    rw [ofDigits_append, last, ih]
    simp only [placeValue, List.reverse_append, List.reverse_singleton, List.singleton_append,
      List.map_cons, Nat.ofDigits_cons, List.length_singleton, pow_one]
    omega

/-- A sign is taken off where there is one. -/
theorem takeSign_cases (text : List Char) :
    (∃ body, text = '-' :: body ∧ takeSign text = (true, body)) ∨
      (∃ body, text = '+' :: body ∧ takeSign text = (false, body)) ∨
      takeSign text = (false, text) := by
  unfold takeSign
  split
  · exact .inl ⟨_, rfl, rfl⟩
  · exact .inr (.inl ⟨_, rfl, rfl⟩)
  · exact .inr (.inr rfl)

theorem readInt?_of_takeSign {text ds : List Char} {negative : Bool} {n : Int}
    (taken : takeSign text = (negative, ds)) :
    readInt? text = some n ↔
      IsDigits ds ∧ (if negative then -(placeValue ds : Int) else placeValue ds) = n := by
  simp [readInt?, taken, IsDigits, ofDigits_eq_placeValue]

theorem readInt?_eq_some_iff {text : List Char} {n : Int} :
    readInt? text = some n ↔ WritesInt text n := by
  constructor
  · intro read
    obtain ⟨body, rfl, taken⟩ | ⟨body, rfl, taken⟩ | taken := takeSign_cases text
    · obtain ⟨digits, rfl⟩ := (readInt?_of_takeSign taken).1 read
      exact .minus digits
    · obtain ⟨digits, rfl⟩ := (readInt?_of_takeSign taken).1 read
      exact .plus digits
    · obtain ⟨digits, rfl⟩ := (readInt?_of_takeSign taken).1 read
      exact .plain digits
  · intro writes
    cases writes with
    | plain digits =>
      have unsigned : takeSign text = (false, text) :=
        takeSign_of_digits fun c front => digits.2 c (List.mem_of_mem_head? front)
      exact (readInt?_of_takeSign unsigned).2 ⟨digits, rfl⟩
    | plus digits => exact (readInt?_of_takeSign rfl).2 ⟨digits, rfl⟩
    | minus digits => exact (readInt?_of_takeSign rfl).2 ⟨digits, rfl⟩

theorem readWithin?_eq_some_iff {least greatest n : Int} {text : List Char} :
    readWithin? least greatest text = some n ↔
      readInt? text = some n ∧ least ≤ n ∧ n ≤ greatest := by
  simp [readWithin?, Option.filter_eq_some_iff]

/-! ## Numerals -/

/-- A digit or a point. -/
def isNumeralChar (c : Char) : Bool :=
  c.isDigit || c = '.'

theorem IsExponent.stops {rest : List Char} (h : IsExponent rest) : Stops isNumeralChar rest := by
  cases h with
  | none => simp
  | some letter writes => rcases letter with rfl | rfl <;> rw [stops_cons] <;> decide

theorem stops_isDigit {rest : List Char} (stop : Stops isNumeralChar rest) :
    Stops Char.isDigit rest :=
  stop.imp fun c digit => by simp [isNumeralChar, digit]

theorem IsNumeral.exists_front {text : List Char} (h : IsNumeral text) :
    ∃ c rest, text = c :: rest ∧ isNumeralChar c := by
  obtain @⟨ds, rest, first, second⟩ := h
  cases first with
  | whole digits =>
    obtain ⟨some, digits⟩ := digits
    cases ds with
    | nil => exact absurd rfl some
    | cons c ds => exact ⟨c, _, rfl, by simp [isNumeralChar, digits c]⟩
  | @point ds es digits =>
    obtain ⟨-, digits⟩ := digits
    cases ds with
    | nil => exact ⟨'.', _, rfl, by decide⟩
    | cons c ds => exact ⟨c, _, rfl, by simp [isNumeralChar, digits c]⟩

namespace Decimal

variable {negative : Bool} {ds es rest text : List Char}

/-- The exponent that follows the digits of a numeral; without one it is zero. -/
def exponent? : List Char → Option Int
  | [] => some 0
  | e :: rest => if e = 'e' ∨ e = 'E' then readInt? rest else none

theorem isSome_exponent?_iff : (exponent? rest).isSome ↔ IsExponent rest := by
  constructor
  · intro read
    obtain ⟨n, read⟩ := Option.isSome_iff_exists.1 read
    cases rest with
    | nil => exact .none
    | cons e rest =>
      obtain ⟨letter, read⟩ := Option.ite_none_right_eq_some.1 read
      exact .some letter (readInt?_eq_some_iff.1 read)
  · intro is
    cases is with
    | none => rfl
    | some letter writes => simp [exponent?, letter, readInt?_eq_some_iff.2 writes]

/-- A numeral without a point. -/
theorem read?_whole (digits : ∀ c ∈ ds, c.isDigit) (stop : Stops isNumeralChar rest) :
    Decimal.read? negative (ds ++ rest) =
      if ds = [] then none else (exponent? rest).map (ofParts negative ds []) := by
  have noDigit := stops_isDigit stop
  simp only [Decimal.read?, takeWhile_run digits noDigit, dropWhile_run digits noDigit]
  cases rest with
  | nil => simp [exponent?]
  | cons c rest =>
    obtain ⟨-, noPoint⟩ : c.isDigit = false ∧ c ≠ '.' := by simpa [isNumeralChar] using stop
    simp [noPoint, exponent?, apply_ite (Option.map _)]

/-- A numeral with a point. -/
theorem read?_point (first : ∀ c ∈ ds, c.isDigit) (second : ∀ c ∈ es, c.isDigit)
    (stop : Stops Char.isDigit rest) :
    Decimal.read? negative (ds ++ '.' :: (es ++ rest)) =
      if ds = [] ∧ es = [] then none else (exponent? rest).map (ofParts negative ds es) := by
  have point : Stops Char.isDigit ('.' :: (es ++ rest)) := by simp
  simp only [Decimal.read?, takeWhile_run first point, dropWhile_run first point,
    takeWhile_run second stop, dropWhile_run second stop]
  cases rest with
  | nil => simp [exponent?]
  | cons c rest => simp [exponent?, apply_ite (Option.map _)]

theorem isSome_read?_iff : (Decimal.read? negative text).isSome ↔ IsNumeral text := by
  constructor
  · intro read
    obtain ⟨ds, rest, rfl, first, stop⟩ := exists_run Char.isDigit text
    by_cases point : ∃ more, rest = '.' :: more
    · obtain ⟨more, rfl⟩ := point
      obtain ⟨es, rest, rfl, second, stop⟩ := exists_run Char.isDigit more
      rw [read?_point first second stop] at read
      split at read
      next => cases read
      next some =>
        have digits : IsDigits (ds ++ es) :=
          ⟨by simpa using some, List.forall_mem_append.2 ⟨first, second⟩⟩
        have exponent : IsExponent rest := isSome_exponent?_iff.1 (by simpa using read)
        simpa using IsNumeral.mk (.point digits) exponent
    · have stop : Stops isNumeralChar rest := by
        intro c front
        have noPoint : c ≠ '.' := by
          rintro rfl
          exact point ⟨_, List.eq_cons_of_mem_head? front⟩
        simp [isNumeralChar, stop c front, noPoint]
      rw [read?_whole first stop] at read
      split at read
      next => cases read
      next some =>
        exact .mk (.whole ⟨some, first⟩) (isSome_exponent?_iff.1 (by simpa using read))
  · rintro ⟨first, second⟩
    have exponent := isSome_exponent?_iff.2 second
    cases first with
    | whole digits =>
      rw [read?_whole digits.2 second.stops, if_neg digits.1]
      simpa using exponent
    | @point ds es digits =>
      obtain ⟨some, digits⟩ := digits
      obtain ⟨before, behind⟩ := List.forall_mem_append.1 digits
      rw [List.append_assoc, List.cons_append,
        read?_point before behind (stops_isDigit second.stops), if_neg (by simpa using some)]
      simpa using exponent

end Decimal

/-! ## Numbers with signs -/

/-- The text does not start with a sign. -/
def Unsigned (text : List Char) : Prop :=
  ∀ c ∈ text.head?, c ≠ '+' ∧ c ≠ '-'

theorem unsigned_of_isNumeralChar {c : Char} {rest : List Char} (front : isNumeralChar c) :
    Unsigned (c :: rest) := by
  have other (sign : Char) (no : isNumeralChar sign = false) : c ≠ sign := by
    rintro rfl
    simp [no] at front
  simpa [Unsigned] using ⟨other '+' (by decide), other '-' (by decide)⟩

theorem unsigned_of_word {body : List Char}
    (named : String.ofList (body.map Char.toLower) ∈ ["inf", "infinity", "nan"]) :
    Unsigned body := by
  cases body with
  | nil => simp [Unsigned]
  | cons c body =>
    have front : c.toLower = 'i' ∨ c.toLower = 'n' := by
      have heads := List.mem_map_of_mem (f := fun word => word.toList.head?) named
      simpa [eq_comm] using heads
    have other (sign : Char) (no : sign.toLower ≠ 'i' ∧ sign.toLower ≠ 'n') : c ≠ sign := by
      rintro rfl
      exact front.elim no.1 no.2
    simpa [Unsigned] using ⟨other '+' (by decide), other '-' (by decide)⟩

/-- An optional sign is what is taken off in front of a text without a sign. -/
theorem takeSign_append {sign body : List Char} (is : IsSign sign) (unsigned : Unsigned body) :
    ∃ negative, takeSign (sign ++ body) = (negative, body) := by
  rcases is with rfl | rfl | rfl
  · obtain ⟨more, rfl, -⟩ | ⟨more, rfl, -⟩ | taken := takeSign_cases body
    · exact absurd rfl (unsigned '-' rfl).2
    · exact absurd rfl (unsigned '+' rfl).1
    · exact ⟨false, taken⟩
  · exact ⟨false, rfl⟩
  · exact ⟨true, rfl⟩

theorem exists_takeSign (text : List Char) :
    ∃ sign negative body, IsSign sign ∧ text = sign ++ body ∧ takeSign text = (negative, body) := by
  obtain ⟨body, rfl, taken⟩ | ⟨body, rfl, taken⟩ | taken := takeSign_cases text
  · exact ⟨['-'], true, body, .inr (.inr rfl), rfl, taken⟩
  · exact ⟨['+'], false, body, .inr (.inl rfl), rfl, taken⟩
  · exact ⟨[], false, text, .inl rfl, rfl, taken⟩

namespace Binary

variable {f : Format} {text body : List Char} {negative : Bool}

theorem isSome_read?_of_takeSign (taken : takeSign text = (negative, body)) :
    (Binary.read? f text).isSome ↔
      String.ofList (body.map Char.toLower) ∈ ["inf", "infinity", "nan"] ∨ IsNumeral body := by
  rw [← @Decimal.isSome_read?_iff negative]
  simp only [Binary.read?, taken]
  split
  next infinite => rcases infinite with word | word <;> simp [word]
  next =>
    split
    next word => simp [word]
    next => simp_all

/-- The reader of numbers takes the texts of the grammar. -/
theorem isSome_read?_iff : (Binary.read? f text).isSome ↔ IsNumberText text := by
  constructor
  · intro read
    obtain ⟨sign, negative, body, is, rfl, taken⟩ := exists_takeSign text
    rcases (isSome_read?_of_takeSign taken).1 read with word | number
    · exact .word is word
    · exact .numeral is number
  · rintro (⟨is, number⟩ | ⟨is, word⟩)
    · obtain ⟨c, rest, rfl, front⟩ := number.exists_front
      obtain ⟨negative, taken⟩ := takeSign_append is (unsigned_of_isNumeralChar front)
      exact (isSome_read?_of_takeSign taken).2 (.inr number)
    · obtain ⟨negative, taken⟩ := takeSign_append is (unsigned_of_word word)
      exact (isSome_read?_of_takeSign taken).2 (.inl word)

end Binary

end Storyboard
