import Storyboard.Proofs.Number.Grammar
import Storyboard.Scene.Structure

/-!
# What references mean

A reference is a place in the pool, a number that is no place, or a name. The readers of whole
numbers and of numbers decide together which of them it is.

## Main definitions

* `Structure.StartsNumber`: a digit or a point comes first, behind an optional sign.
* `Structure.named`: the structure with a name.
* `Structure.Means`: what a reference means, said without a reader.

## Main statements

* `trim_trim`: blanks are cut once.
* `Structure.isNumeric_iff`: which references are numbers.
* `Structure.all_isDigit_iff`: which numbers are whole, however wide.
* `Structure.resolve_means`: a reference is resolved to what it means.
-/

namespace Storyboard

/-! ## Blanks around a text -/

theorem stops_trimChars (cs : List Char) : Stops isBlank (trimChars cs) := by
  intro c front
  refine stops_dropWhile isBlank cs c ?_
  have part : trimChars cs <+: cs.dropWhile isBlank := by
    rw [← List.reverse_suffix, trimChars, List.reverse_reverse]
    exact List.dropWhile_suffix _
  obtain ⟨rest, whole⟩ := part
  rw [← whole]
  simp [Option.mem_def.1 front]

theorem trimChars_trimChars (cs : List Char) : trimChars (trimChars cs) = trimChars cs := by
  have behind : ((trimChars cs).reverse.dropWhile isBlank) = (trimChars cs).reverse := by
    rw [trimChars, List.reverse_reverse]
    exact dropWhile_of_stops (stops_dropWhile _ _)
  rw [trimChars, dropWhile_of_stops (stops_trimChars cs), behind, List.reverse_reverse]

@[simp] theorem trim_trim (s : String) : trim (trim s) = trim s := by
  rw [trim, trim, String.toList_ofList, trimChars_trimChars]

namespace Structure

variable {pool : List String} {reference text name : String} {n : Int} {k : Nat}

/-! ## Numbers -/

/-- Behind an optional sign, the text starts with a digit or a point. -/
def StartsNumber (text : List Char) : Prop :=
  ∃ sign c rest, IsSign sign ∧ text = sign ++ c :: rest ∧ (c.isDigit ∨ c = '.')

theorem dropWhile_isSign {sign body : List Char} (is : IsSign sign) (unsigned : Unsigned body) :
    (sign ++ body).dropWhile isSign = body := by
  refine dropWhile_run ?_ ?_
  · rcases is with rfl | rfl | rfl <;> simp [isSign]
  · intro c front
    simpa [isSign] using unsigned c front

theorem exists_unsigned {text : List Char} (h : IsNumberText text) :
    ∃ sign body, IsSign sign ∧ Unsigned body ∧ text = sign ++ body := by
  cases h with
  | numeral is number =>
    obtain ⟨c, rest, rfl, front⟩ := number.exists_front
    exact ⟨_, _, is, unsigned_of_isNumeralChar front, rfl⟩
  | word is named => exact ⟨_, _, is, unsigned_of_word named, rfl⟩

/-- A reference with more than one sign may go on like a number, but no number is read from it. -/
theorem isNumeric_iff {text : List Char} :
    isNumeric text ↔ IsNumberText text ∧ StartsNumber text := by
  unfold isNumeric
  rw [Bool.and_eq_true, Binary.isSome_read?_iff, and_comm]
  refine and_congr_right fun number => ?_
  constructor
  · intro starts
    obtain ⟨sign, body, is, unsigned, rfl⟩ := exists_unsigned number
    rw [dropWhile_isSign is unsigned] at starts
    cases body with
    | nil => cases starts
    | cons c rest => exact ⟨sign, c, rest, is, rfl, by simpa using starts⟩
  · rintro ⟨sign, c, rest, is, rfl, front⟩
    have front : isNumeralChar c := by simpa [isNumeralChar] using front
    rw [dropWhile_isSign is (unsigned_of_isNumeralChar front)]
    exact front

/-- A whole number is made up of digits behind an optional sign. -/
theorem exists_digits_of_writes {text : List Char} (writes : WritesInt text n) :
    ∃ sign c rest, IsSign sign ∧ IsDigits (c :: rest) ∧ isNumeralChar c ∧
      text = sign ++ c :: rest := by
  obtain ⟨sign, ds, is, digits, rfl⟩ :
      ∃ sign ds, IsSign sign ∧ IsDigits ds ∧ text = sign ++ ds := by
    cases writes with
    | plain digits => exact ⟨[], _, .inl rfl, digits, rfl⟩
    | plus digits => exact ⟨['+'], _, .inr (.inl rfl), digits, rfl⟩
    | minus digits => exact ⟨['-'], _, .inr (.inr rfl), digits, rfl⟩
  obtain ⟨c, rest, rfl⟩ := List.exists_cons_of_ne_nil digits.1
  exact ⟨sign, c, rest, is, digits, by simp [isNumeralChar, digits.2 c], rfl⟩

theorem startsNumber_of_writes {text : List Char} (writes : WritesInt text n) :
    IsNumberText text ∧ StartsNumber text := by
  obtain ⟨sign, c, rest, is, digits, front, rfl⟩ := exists_digits_of_writes writes
  have number : IsNumeral (c :: rest) := by simpa using IsNumeral.mk (.whole digits) .none
  exact ⟨.numeral is number, sign, c, rest, is, rfl, by simpa [isNumeralChar] using front⟩

/-- A number is a whole one exactly if there are only digits behind its sign, however many. -/
theorem all_isDigit_iff {text : List Char} (starts : StartsNumber text) :
    (text.dropWhile isSign).all Char.isDigit ↔ ∃ n, WritesInt text n := by
  constructor
  · obtain ⟨sign, c, rest, is, rfl, front⟩ := starts
    have front : isNumeralChar c := by simpa [isNumeralChar] using front
    rw [dropWhile_isSign is (unsigned_of_isNumeralChar front), List.all_eq_true]
    intro all
    have digits : IsDigits (c :: rest) := ⟨List.cons_ne_nil _ _, all⟩
    rcases is with rfl | rfl | rfl
    · exact ⟨_, .plain digits⟩
    · exact ⟨_, .plus digits⟩
    · exact ⟨_, .minus digits⟩
  · rintro ⟨n, writes⟩
    obtain ⟨sign, c, rest, is, digits, front, rfl⟩ := exists_digits_of_writes writes
    rw [dropWhile_isSign is (unsigned_of_isNumeralChar front), List.all_eq_true]
    exact digits.2

/-! ## Places -/

/-- An index is a whole number of 64 bits. -/
theorem index?_eq_some_iff {text : List Char} :
    index? text = some n ↔ WritesInt text n ∧ -2 ^ 63 ≤ n ∧ n < 2 ^ 63 := by
  rw [index?, readWithin?_eq_some_iff, readInt?_eq_some_iff]
  refine and_congr_right fun _ => ?_
  omega

theorem index?_of_writes {text : List Char} (writes : WritesInt text n) :
    index? text = if -2 ^ 63 ≤ n ∧ n < 2 ^ 63 then some n else none := by
  split
  next narrow => exact index?_eq_some_iff.2 ⟨writes, narrow⟩
  next wide =>
    rw [Option.eq_none_iff_forall_ne_some]
    intro m read
    obtain ⟨writes', narrow⟩ := index?_eq_some_iff.1 read
    have same := (readInt?_eq_some_iff.2 writes').symm.trans (readInt?_eq_some_iff.2 writes)
    exact wide (Option.some.inj same ▸ narrow)

/-- A place is one of the pool. -/
theorem slot?_lt {size : Nat} (h : slot? size n = some k) : k < size := by
  unfold slot? at h
  split at h
  · cases h
    omega
  · split at h
    · cases h
      omega
    · cases h

section Place

variable (writes : WritesInt text.toList n)
include writes

theorem ofNumber_of_slot (held : pool.length < 2 ^ 63) (slot : slot? pool.length n = some k)
    (at_ : pool[k]? = some name) : ofNumber pool text = ofName name := by
  have narrow : -2 ^ 63 ≤ n ∧ n < 2 ^ 63 := by grind [slot?]
  rw [ofNumber, index?_of_writes writes, if_pos narrow]
  simp only [slot, Option.bind_some, at_]

/-- A whole number that is too wide for an index is outside every pool. -/
theorem ofNumber_of_wide (wide : ¬(-2 ^ 63 ≤ n ∧ n < 2 ^ 63)) :
    ofNumber pool text = .error (.outOfRange text pool.length) := by
  have digits : (text.toList.dropWhile isSign).all Char.isDigit :=
    (all_isDigit_iff (startsNumber_of_writes writes).2).2 ⟨n, writes⟩
  rw [ofNumber, index?_of_writes writes, if_neg wide]
  exact if_pos digits

theorem ofNumber_of_no_slot (slot : slot? pool.length n = none) :
    ofNumber pool text = .error (.outOfRange text pool.length) := by
  by_cases narrow : -2 ^ 63 ≤ n ∧ n < 2 ^ 63
  · rw [ofNumber, index?_of_writes writes, if_pos narrow]
    simp only [slot, Option.bind_none]
  · exact ofNumber_of_wide writes narrow

end Place

theorem ofNumber_of_not_whole (starts : StartsNumber text.toList)
    (other : ∀ n, ¬WritesInt text.toList n) : ofNumber pool text = .error (.badIndex text) := by
  have unread : index? text.toList = none := by
    rw [Option.eq_none_iff_forall_ne_some]
    exact fun n read => other n (index?_eq_some_iff.1 read).1
  have mixed : ¬(text.toList.dropWhile isSign).all Char.isDigit :=
    fun all => (not_exists.2 other) ((all_isDigit_iff starts).1 all)
  simp only [ofNumber, unread, if_neg mixed]

/-! ## Names -/

/-- The structure with a name. Without a separator, the name is a path in the namespace `kubejs`. -/
def named (name : String) : Except Error Identifier :=
  (if ':' ∈ name.toList then Identifier.parse name
    else Identifier.make "kubejs" name).mapError (.badName name)

theorem ofName_trim (some : trim name ≠ "") : ofName (trim name) = named (trim name) := by
  have parsed : Identifier.parseIn defaultSpace (trim name) =
      if ':' ∈ (trim name).toList then Identifier.parse (trim name)
      else Identifier.make "kubejs" (trim name) := by
    simp [Identifier.parseIn, defaultSpace]
  rw [named, ← parsed]
  simp only [ofName, trim_trim, some, if_false]
  cases Identifier.parseIn defaultSpace (trim name) <;> rfl

/-! ## References -/

/-- What a reference means, given its text without blanks around it. -/
inductive Means (pool : List String) (text : String) : Except Error Identifier → Prop
  | empty (none : text = "") : Means pool text (.error .empty)
  | place {n : Int} {name : String} (writes : WritesInt text.toList n)
      (least : 1 ≤ n) (greatest : n ≤ pool.length) (at_ : pool[(n - 1).toNat]? = some name) :
      Means pool text (ofName name)
  | first {name : String} (writes : WritesInt text.toList 0) (at_ : pool[0]? = some name) :
      Means pool text (ofName name)
  | outside {n : Int} (writes : WritesInt text.toList n) (place : ¬(1 ≤ n ∧ n ≤ pool.length))
      (first : ¬(n = 0 ∧ pool ≠ [])) : Means pool text (.error (.outOfRange text pool.length))
  | fraction (number : IsNumberText text.toList) (starts : StartsNumber text.toList)
      (other : ∀ n, ¬WritesInt text.toList n) : Means pool text (.error (.badIndex text))
  | name (some : text ≠ "") (other : ¬(IsNumberText text.toList ∧ StartsNumber text.toList)) :
      Means pool text (named text)

theorem resolve_of_startsNumber (number : IsNumberText (trim reference).toList)
    (starts : StartsNumber (trim reference).toList) :
    resolve pool reference = ofNumber pool (trim reference) := by
  have some : trim reference ≠ "" := by
    intro none
    obtain ⟨sign, c, rest, -, text, -⟩ := starts
    simp [none] at text
  simp [resolve, some, isNumeric_iff.2 ⟨number, starts⟩]

theorem resolve_of_writes (writes : WritesInt (trim reference).toList n) :
    resolve pool reference = ofNumber pool (trim reference) :=
  resolve_of_startsNumber (startsNumber_of_writes writes).1 (startsNumber_of_writes writes).2

/-- A reference is resolved to what it means. -/
theorem Means.resolve_eq {result : Except Error Identifier} (held : pool.length < 2 ^ 63)
    (h : Means pool (trim reference) result) : resolve pool reference = result := by
  cases h with
  | empty none => simp [resolve, none]
  | @place n name writes least greatest at_ =>
    have slot : slot? pool.length n = some (n - 1).toNat := if_pos ⟨least, greatest⟩
    rw [resolve_of_writes writes, ofNumber_of_slot writes held slot at_]
  | first writes at_ =>
    have some : 0 < pool.length := (List.getElem?_eq_some_iff.1 at_).1
    have slot : slot? pool.length 0 = .some 0 := by simp [slot?, some]
    rw [resolve_of_writes writes, ofNumber_of_slot writes held slot at_]
  | @outside n writes place first =>
    have slot : slot? pool.length n = none := by
      have some := List.length_pos_iff (l := pool)
      grind [slot?]
    rw [resolve_of_writes writes, ofNumber_of_no_slot writes slot]
  | fraction number starts other =>
    rw [resolve_of_startsNumber number starts, ofNumber_of_not_whole starts other]
  | name some other =>
    have noNumber : ¬isNumeric (trim reference).toList := mt isNumeric_iff.1 other
    simp [resolve, some, noNumber, ofName_trim some]

/-- Every text means something. -/
theorem exists_means (pool : List String) (text : String) : ∃ result, Means pool text result := by
  by_cases none : text = ""
  · exact ⟨_, .empty none⟩
  by_cases whole : ∃ n, WritesInt text.toList n
  · obtain ⟨n, writes⟩ := whole
    by_cases place : 1 ≤ n ∧ n ≤ pool.length
    · have lt : (n - 1).toNat < pool.length := by omega
      exact ⟨_, .place writes place.1 place.2 (List.getElem?_eq_getElem lt)⟩
    by_cases first : n = 0 ∧ pool ≠ []
    · obtain ⟨rfl, some⟩ := first
      exact ⟨_, .first writes (List.getElem?_eq_getElem (List.length_pos_iff.2 some))⟩
    · exact ⟨_, .outside writes place first⟩
  · have other : ∀ n, ¬WritesInt text.toList n := fun n writes => whole ⟨n, writes⟩
    by_cases number : IsNumberText text.toList ∧ StartsNumber text.toList
    · exact ⟨_, .fraction number.1 number.2 other⟩
    · exact ⟨_, .name none number⟩

/-- A reference is resolved to what its text without blanks around it means, and to nothing else. A
whole number, however wide, means a place in the pool, counted from one or else from zero, or is
outside the pool; another decimal number means nothing; all else is a name. Indices have 64 bits,
and so have the lengths of pools; a whole number that is too wide for an index is outside every
pool. Each place that is looked up is one of the pool. -/
theorem resolve_means (pool : List String) (reference : String) :
    (pool.length < 2 ^ 63 →
      ∀ result, resolve pool reference = result ↔ Means pool (trim reference) result) ∧
    (∀ n, WritesInt (trim reference).toList n → ¬(-2 ^ 63 ≤ n ∧ n < 2 ^ 63) →
      resolve pool reference = .error (.outOfRange (trim reference) pool.length)) ∧
    ∀ n k, slot? pool.length n = some k → k < pool.length := by
  refine ⟨fun held result => ⟨?_, Means.resolve_eq held⟩, fun n writes wide => ?_,
    fun n k => slot?_lt⟩
  · rintro rfl
    obtain ⟨result, means⟩ := exists_means pool (trim reference)
    rwa [means.resolve_eq held]
  · rw [resolve_of_writes writes, ofNumber_of_wide writes wide]

/-- A place with a sign and zeros in front, and a number that is too wide for an index. -/
theorem resolve_means_wide :
    resolve ["a", "b", "c"] " +003 " = .ok ⟨"kubejs", "c"⟩ ∧
      resolve ["a", "b", "c"] "99999999999999999999" =
        .error (.outOfRange "99999999999999999999" 3) := by
  have held : ["a", "b", "c"].length < 2 ^ 63 := by decide
  have third : WritesInt (trim " +003 ").toList 3 := readInt?_eq_some_iff.1 (by decide)
  have wide : WritesInt (trim "99999999999999999999").toList 99999999999999999999 :=
    readInt?_eq_some_iff.1 (by decide)
  constructor
  · rw [((resolve_means _ _).1 held _).2 (.place third (by decide) (by decide) rfl)]
    decide
  · rw [(resolve_means _ _).2.1 _ wide (by decide)]
    decide

example :
    [" +003 ", "-0", "99999999999999999999", "1.", "1e3", "--1", "inf", "demo:2"].map
        (resolve ["a", "b", "c"]) =
      [.ok ⟨"kubejs", "c"⟩, .ok ⟨"kubejs", "a"⟩, .error (.outOfRange "99999999999999999999" 3),
        .error (.badIndex "1."), .error (.badIndex "1e3"), .ok ⟨"kubejs", "--1"⟩,
        .ok ⟨"kubejs", "inf"⟩, .ok ⟨"demo", "2"⟩] := by
  decide

end Structure

end Storyboard
