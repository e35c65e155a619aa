import Storyboard.Proofs.Tag.RoundTrip

/-!
# Whole numbers in data patches

A whole number is read as the number that is written, in the width that is written, or not as a
number at all.

## Main definitions

* `Tag.Width`: the widths of whole numbers.
* `Tag.WritesWhole`, `Tag.WritesTruth`, `Tag.IsFloatWord`: the words that are numbers.

## Main statements

* `Tag.ofWord_of_writesWhole`: a number out of range is a text.
* `Tag.whole?_ofWord_iff`, `Tag.isFloat_ofWord_iff`: what a word for a number is.
-/

namespace Storyboard.Tag

/-! ## Words -/

/-- The widths of whole numbers. -/
inductive Width where
  | byte
  | short
  | int
  | long
deriving DecidableEq

namespace Width

def bits : Width → Nat
  | .byte => 8
  | .short => 16
  | .int => 32
  | .long => 64

/-- The number is in the range of the width, with its sign. -/
def Holds (width : Width) (n : Int) : Prop :=
  -2 ^ (width.bits - 1) ≤ n ∧ n < 2 ^ (width.bits - 1)

instance (width : Width) (n : Int) : Decidable (width.Holds n) :=
  inferInstanceAs (Decidable (_ ∧ _))

/-- What stands behind a number of the width: a letter of either case, or nothing. -/
def endings : Width → List (List Char)
  | .byte => [['b'], ['B']]
  | .short => [['s'], ['S']]
  | .int => [[]]
  | .long => [['l'], ['L']]

/-- The tree of a number. -/
def tag : Width → Int → Tag
  | .byte, n => .byte (.ofInt n)
  | .short, n => .short (.ofInt n)
  | .int, n => .int (.ofInt n)
  | .long, n => .long (.ofInt n)

end Width

/-- The word writes a number in a width. -/
inductive WritesWhole (width : Width) : String → Int → Prop
  | mk {body ending : List Char} {n : Int} (number : WritesInt body n)
      (letter : ending ∈ width.endings) : WritesWhole width (String.ofList (body ++ ending)) n

/-- The word is a truth value, which is a byte. -/
inductive WritesTruth : String → Int → Prop
  | true : WritesTruth "true" 1
  | false : WritesTruth "false" 0

/-- The word is a number with a letter for numbers that are not whole, or with a point or an
exponent. -/
inductive IsFloatWord : String → Prop
  | suffixed {body : List Char} {suffix : Char} (number : IsNumberText body)
      (letter : suffix ∈ ['f', 'F', 'd', 'D']) : IsFloatWord (String.ofList (body ++ [suffix]))
  | marked {sign body : List Char} (is : IsSign sign) (number : IsNumeral body)
      (mark : ∃ c ∈ body, c = '.' ∨ c = 'e' ∨ c = 'E') : IsFloatWord (String.ofList (sign ++ body))

/-- The width and the value of a whole number. -/
def whole? : Tag → Option (Width × Int)
  | .byte n => some (.byte, n.toInt)
  | .short n => some (.short, n.toInt)
  | .int n => some (.int, n.toInt)
  | .long n => some (.long, n.toInt)
  | _ => none

/-- The tree is a number that need not be whole. -/
def isFloat : Tag → Bool
  | .float _ | .double _ => true
  | _ => false

variable {width : Width} {word : String} {body ending : List Char} {n : Int} {v : Tag}

theorem whole?_tag (fits : width.Holds n) : (width.tag n).whole? = some (width, n) := by
  obtain ⟨lower, upper⟩ := fits
  cases width with
  | byte => simp [Width.tag, whole?, Int8.toInt_ofInt_of_le lower upper]
  | short => simp [Width.tag, whole?, Int16.toInt_ofInt_of_le lower upper]
  | int => simp [Width.tag, whole?, Int32.toInt_ofInt_of_le lower upper]
  | long => simp [Width.tag, whole?, Int64.toInt_ofInt_of_le lower upper]

/-! ## Numbers of one width -/

/-- The number of a width that a text writes. -/
def Width.read? (width : Width) (body : List Char) : Option Tag :=
  ((readInt? body).filter fun n => width.Holds n).map width.tag

theorem Width.read?_eq_map (width : Width) (body : List Char) :
    width.read? body = match width with
      | .byte => (readInt8? body).map .byte
      | .short => (readInt16? body).map .short
      | .int => (readInt32? body).map .int
      | .long => (readInt64? body).map .long := by
  have range (width : Width) (n : Int) : decide (width.Holds n) =
      (decide (-2 ^ (width.bits - 1) ≤ n) && decide (n ≤ 2 ^ (width.bits - 1) - 1)) := by
    rw [Bool.eq_iff_iff, decide_eq_true_iff]
    simp [Width.Holds]
  cases width <;>
    simp only [Width.read?, range, readInt8?, readInt16?, readInt32?, readInt64?, readWithin?,
      Option.map_map] <;> rfl

theorem Width.read?_eq_some_iff :
    width.read? body = some v ↔ ∃ n, WritesInt body n ∧ width.Holds n ∧ width.tag n = v := by
  simp [Width.read?, Option.filter_eq_some_iff, readInt?_eq_some_iff, and_assoc]

theorem Width.read?_of_writesInt (number : WritesInt body n) :
    width.read? body = if width.Holds n then some (width.tag n) else none := by
  rw [Width.read?, readInt?_eq_some_iff.2 number]
  by_cases fits : width.Holds n <;> simp [Option.filter, fits]

/-- A number with the ending of its width is read in this width. -/
theorem numberOfWord?_whole (number : WritesInt body n) (letter : ending ∈ width.endings) :
    numberOfWord? (body ++ ending) = width.read? body ∧
      (body ++ ending).getLast? ≠ some 'e' := by
  rw [Width.read?_eq_map]
  cases width with
  | int =>
    obtain rfl : ending = [] := by simpa [Width.endings] using letter
    rw [List.append_nil]
    exact numberOfWord?_of_readInt? (readInt?_eq_some_iff.2 number)
  | byte | short | long =>
    simp only [Width.endings, List.mem_cons, List.not_mem_nil, or_false] at letter
    rcases letter with rfl | rfl <;>
      exact ⟨numberOfWord?_suffix (by decide), by simp⟩

/-- A number out of the range of its width is a text. -/
theorem ofWord_of_writesWhole (h : WritesWhole width word n) :
    ofWord word = if width.Holds n then width.tag n else .string word := by
  obtain ⟨number, letter⟩ := h
  obtain ⟨read, last⟩ := numberOfWord?_whole number letter
  rw [ofWord_of_getLast? last, read, Width.read?_of_writesInt number]
  split <;> rfl

theorem ofWord_of_writesTruth (h : WritesTruth word n) : ofWord word = Width.byte.tag n := by
  cases h <;> rfl

/-! ## Last letters -/

theorem eq_or_of_toLower {c small : Char} (h : c.toLower = small) :
    c = small ∨ c = small.toUpper := by
  by_cases upper : c.isUpper
  · have lower : ¬c.isLower := by
      simp only [Char.isUpper, Char.isLower, Bool.and_eq_true, decide_eq_true_eq, ge_iff_le,
        UInt32.le_iff_toNat_le] at upper ⊢
      change 65 ≤ c.toNat ∧ c.toNat ≤ 90 at upper
      change ¬(97 ≤ c.toNat ∧ c.toNat ≤ 122)
      omega
    rw [← h, Char.toUpper_toLower_eq_toUpper, Char.toUpper_eq_of_not_isLower lower]
    exact .inr rfl
  · rw [Char.toLower_eq_of_not_isUpper upper] at h
    exact .inl h

/-- Digits and points are no letters. -/
theorem isAlpha_of_isNumeralChar {c : Char} (h : isNumeralChar c) : c.isAlpha = false := by
  rcases Bool.or_eq_true_iff.1 h with digit | point
  · exact isAlpha_of_isDigit digit
  · rw [of_decide_eq_true point]
    rfl

/-- A numeral ends in a digit or in a point. -/
theorem exists_last_of_isNumeral {text : List Char} (h : IsNumeral text) :
    ∃ c, text.getLast? = some c ∧ isNumeralChar c := by
  have digit {ds : List Char} (digits : IsDigits ds) :
      ∃ c, ds.getLast? = some c ∧ isNumeralChar c := by
    obtain ⟨c, found⟩ := Option.isSome_iff_exists.1 (List.getLast?_isSome.2 digits.1)
    exact ⟨c, found, by simp [isNumeralChar, digits.2 c (List.mem_of_getLast? found)]⟩
  obtain @⟨mantissa, exponent, first, second⟩ := h
  cases second with
  | none =>
    rw [List.append_nil]
    cases first with
    | whole digits => exact digit digits
    | @point ds es digits =>
      cases es with
      | nil => exact ⟨'.', by simp, by decide⟩
      | cons e es =>
        have behind : IsDigits (e :: es) :=
          ⟨by simp, fun c mem => digits.2 c (List.mem_append_right _ mem)⟩
        simpa using digit behind
  | @some e text n letter writes =>
    have behind (sign : List Char) {ds : List Char} (digits : IsDigits ds) :
        ∃ c, (mantissa ++ e :: (sign ++ ds)).getLast? = some c ∧ isNumeralChar c := by
      rw [← List.cons_append, ← List.append_assoc, List.getLast?_append_of_ne_nil _ digits.1]
      exact digit digits
    cases writes with
    | plain digits => exact behind [] digits
    | plus digits => exact behind ['+'] digits
    | minus digits => exact behind ['-'] digits

/-- The words for what is not finite end in a letter. -/
theorem exists_last_of_named
    (named : String.ofList (body.map Char.toLower) ∈ ["inf", "infinity", "nan"]) :
    ∃ c, body.getLast? = some c ∧ c.isAlpha := by
  have lasts := List.mem_map_of_mem (f := fun word => word.toList.getLast?) named
  rw [String.toList_ofList, List.getLast?_map] at lasts
  cases found : body.getLast? with
  | none =>
    rw [found] at lasts
    revert lasts
    decide
  | some c =>
    rw [found, Option.map_some] at lasts
    have letters : ∀ last ∈ ["inf", "infinity", "nan"].map (·.toList.getLast?),
        ∀ c ∈ last, c.isAlpha := by
      simp
    refine ⟨c, rfl, ?_⟩
    rw [← Char.isAlpha_toLower_eq_isAlpha]
    exact letters _ lasts _ rfl

/-! ## Numbers of all kinds -/

/-- What a word for a number is: a whole number in the range of its width, or one that need not be
whole. -/
inductive IsNumberOf (word : List Char) (v : Tag) : Prop
  | whole {width : Width} {n : Int} (writes : WritesWhole width (String.ofList word) n)
      (fits : width.Holds n) (is : width.tag n = v)
  | float (writes : IsFloatWord (String.ofList word)) (is : v.isFloat)

theorem isNumberOf_of_read? (width : Width) (letter : ending ∈ width.endings)
    (read : width.read? body = some v) : IsNumberOf (body ++ ending) v := by
  obtain ⟨n, number, fits, is⟩ := Width.read?_eq_some_iff.1 read
  exact .whole ⟨number, letter⟩ fits is

theorem isNumberOf_of_ofSuffixed? {suffix : Char} (h : ofSuffixed? body suffix = some v) :
    IsNumberOf (body ++ [suffix]) v := by
  have float {f : Format} (letter : suffix ∈ ['f', 'F', 'd', 'D']) {x : Binary f}
      (read : Binary.read? f body = some x) : IsFloatWord (String.ofList (body ++ [suffix])) :=
    .suffixed (Binary.isSome_read?_iff.1 (Option.isSome_of_mem read)) letter
  unfold ofSuffixed? at h
  split at h
  next small =>
    refine isNumberOf_of_read? .byte ?_ ((Width.read?_eq_map _ body).trans h)
    rcases eq_or_of_toLower small with rfl | rfl <;> decide
  next small =>
    refine isNumberOf_of_read? .short ?_ ((Width.read?_eq_map _ body).trans h)
    rcases eq_or_of_toLower small with rfl | rfl <;> decide
  next small =>
    refine isNumberOf_of_read? .long ?_ ((Width.read?_eq_map _ body).trans h)
    rcases eq_or_of_toLower small with rfl | rfl <;> decide
  next small =>
    obtain ⟨x, read, rfl⟩ := Option.map_eq_some_iff.1 h
    refine .float (float ?_ read) rfl
    rcases eq_or_of_toLower small with rfl | rfl <;> decide
  next small =>
    obtain ⟨x, read, rfl⟩ := Option.map_eq_some_iff.1 h
    refine .float (float ?_ read) rfl
    rcases eq_or_of_toLower small with rfl | rfl <;> decide
  next => cases h

theorem isNumberOf_of_ofPlain? (h : ofPlain? body = some v)
    (last : ∀ c ∈ body.getLast?, c.isAlpha = false) : IsNumberOf body v := by
  unfold ofPlain? at h
  split at h
  next mark =>
    obtain ⟨x, read, rfl⟩ := Option.map_eq_some_iff.1 h
    refine .float ?_ rfl
    have number := Binary.isSome_read?_iff.1 (Option.isSome_of_mem read)
    cases number with
    | @numeral sign body is number =>
      obtain ⟨c, mem, marks⟩ := List.any_eq_true.1 mark
      simp only [Bool.or_eq_true, decide_eq_true_eq, or_assoc] at marks
      refine .marked is number ⟨c, (List.mem_append.1 mem).resolve_left fun front => ?_, marks⟩
      -- A sign is none of the three marks.
      have sign : c = '+' ∨ c = '-' := by
        obtain rfl | rfl | rfl := is
        · cases front
        · exact .inl (List.mem_singleton.1 front)
        · exact .inr (List.mem_singleton.1 front)
      rcases sign with rfl | rfl <;> revert marks <;> decide
    | @word sign body is named =>
      obtain ⟨c, found, letter⟩ := exists_last_of_named named
      have some : body ≠ [] := by
        rintro rfl
        cases found
      rw [← List.getLast?_append_of_ne_nil sign some] at found
      rw [last c found] at letter
      cases letter
  next =>
    have letter : [] ∈ Width.int.endings := by decide
    have read := isNumberOf_of_read? .int letter ((Width.read?_eq_map _ body).trans h)
    rwa [List.append_nil] at read

/-- A word that is read as a number is one. -/
theorem isNumberOf_of_numberOfWord? (h : numberOfWord? body = some v) : IsNumberOf body v := by
  unfold numberOfWord? at h
  split at h
  next last found =>
    split at h
    next letter =>
      obtain ⟨body, rfl⟩ := List.getLast?_eq_some_iff.1 found
      rw [List.dropLast_concat] at h
      exact isNumberOf_of_ofSuffixed? h
    next other => exact isNumberOf_of_ofPlain? h (by simpa [found] using other)
  next none => exact isNumberOf_of_ofPlain? h (by simp [none])

theorem numberOfWord?_of_last {c : Char} (found : body.getLast? = some c)
    (other : c.isAlpha = false) : numberOfWord? body = ofPlain? body := by
  rw [numberOfWord?, found]
  simp [other]

/-- A word with a point, an exponent or a letter for numbers that need not be whole. -/
theorem isFloat_of_isFloatWord (h : IsFloatWord word) : (ofWord word).isFloat := by
  obtain @⟨body, suffix, number, letter⟩ | @⟨sign, body, is, number, mark⟩ := h
  · have read (f : Format) : ∃ x, Binary.read? f body = some x :=
      Option.isSome_iff_exists.1 (Binary.isSome_read?_iff.2 number)
    obtain ⟨x, single⟩ := read .single
    obtain ⟨y, double⟩ := read .double
    obtain ⟨v, suffixed, float, alpha, other⟩ : ∃ v, ofSuffixed? body suffix = some v ∧
        v.isFloat ∧ suffix.isAlpha ∧ suffix ≠ 'e' := by
      simp only [List.mem_cons, List.not_mem_nil, or_false] at letter
      rcases letter with rfl | rfl | rfl | rfl
      · exact ⟨.float x, congrArg (Option.map Tag.float) single, rfl, rfl, by decide⟩
      · exact ⟨.float x, congrArg (Option.map Tag.float) single, rfl, rfl, by decide⟩
      · exact ⟨.double y, congrArg (Option.map Tag.double) double, rfl, rfl, by decide⟩
      · exact ⟨.double y, congrArg (Option.map Tag.double) double, rfl, rfl, by decide⟩
    rwa [ofWord_suffix alpha other suffixed]
  · obtain ⟨x, read⟩ : ∃ x, Binary.read? .double (sign ++ body) = some x :=
      Option.isSome_iff_exists.1 (Binary.isSome_read?_iff.2 (.numeral is number))
    obtain ⟨c, found, last⟩ := exists_last_of_isNumeral number
    have some : body ≠ [] := by
      rintro rfl
      cases found
    rw [← List.getLast?_append_of_ne_nil sign some] at found
    have marked : (sign ++ body).any (fun c => c = '.' || c = 'e' || c = 'E') := by
      obtain ⟨c, mem, mark⟩ := mark
      exact List.any_eq_true.2 ⟨c, List.mem_append_right _ mem, by simpa [or_assoc] using mark⟩
    have plain : numberOfWord? (sign ++ body) = .some (.double x) := by
      rw [numberOfWord?_of_last found (isAlpha_of_isNumeralChar last), ofPlain?, if_pos marked,
        read, Option.map_some]
    have other : (sign ++ body).getLast? ≠ .some 'e' := by
      rw [found]
      rintro ⟨⟩
      cases last
    rw [ofWord_of_numberOfWord? plain other]
    rfl

/-! ## What words are -/

/-- A word is a number or a truth value of the grammar, or its own text. -/
theorem ofWord_eq_or (word : String) :
    IsNumberOf word.toList (ofWord word) ∨ (∃ n, WritesTruth word n) ∨
      ofWord word = .string word := by
  unfold ofWord
  split
  next is =>
    subst is
    exact .inr (.inl ⟨1, .true⟩)
  next =>
    split
    next is =>
      subst is
      exact .inr (.inl ⟨0, .false⟩)
    next =>
      cases found : numberOfWord? word.toList with
      | none => exact .inr (.inr rfl)
      | some v => exact .inl (isNumberOf_of_numberOfWord? found)

/-- A word is a whole number exactly when it writes this number in a width that has room for it, or
is a truth value. -/
theorem whole?_ofWord_iff :
    (ofWord word).whole? = some (width, n) ↔
      width.Holds n ∧ WritesWhole width word n ∨ width = .byte ∧ WritesTruth word n := by
  constructor
  · intro is
    obtain (⟨writes, fits, same⟩ | ⟨-, float⟩) | ⟨m, truth⟩ | text := ofWord_eq_or word
    · rw [← same, whole?_tag fits] at is
      cases is
      rw [String.ofList_toList] at writes
      exact .inl ⟨fits, writes⟩
    · cases v : ofWord word <;> simp_all [isFloat, whole?]
    · rw [ofWord_of_writesTruth truth] at is
      cases truth <;> cases is <;> exact .inr ⟨rfl, by constructor⟩
    · rw [text] at is
      cases is
  · rintro (⟨fits, writes⟩ | ⟨rfl, truth⟩)
    · rw [ofWord_of_writesWhole writes, if_pos fits, whole?_tag fits]
    · rw [ofWord_of_writesTruth truth]
      cases truth <;> rfl

theorem isFloat_ofWord_iff : (ofWord word).isFloat ↔ IsFloatWord word := by
  refine ⟨fun is => ?_, isFloat_of_isFloatWord⟩
  obtain (⟨-, -, same⟩ | ⟨float, -⟩) | ⟨m, truth⟩ | text := ofWord_eq_or word
  · rename_i width n
    rw [← same] at is
    cases width <;> cases is
  · rwa [String.ofList_toList] at float
  · rw [ofWord_of_writesTruth truth] at is
    cases is
  · rw [text] at is
    cases is

end Storyboard.Tag
