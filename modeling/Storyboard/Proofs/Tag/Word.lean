import Mathlib
import Storyboard.Proofs.Number.Grammar
import Storyboard.Tag.Basic

/-!
# Words of data patches

The pieces that a tree is printed with are found again by the scanner, and the words among them
stand for the numbers and texts that were printed.

## Main definitions

* `Token.IsWord`: the characters make up one word.
* `Token.escape`: a text as it stands between quotes.

## Main statements

* `Token.scanChars_symbol`, `Token.scanChars_word`, `Token.scanChars_between`: the first piece of a
  text.
* `Tag.ofWord_byte` and the like: what the text of a number stands for.
* `Tag.ofWord_of_isBare`: a text without quotes stands for itself.
-/

namespace Storyboard

namespace Token

variable {c : Char} {token : Token} {word rest : List Char}

/-! ## Scanning -/

/-- The characters make up one word. -/
def IsWord (word : List Char) : Prop :=
  word ≠ [] ∧ ∀ c ∈ word, isWordChar c

/-- A letter or digit of ASCII or one of four marks. -/
def WordChar (c : Char) : Prop :=
  ('A' ≤ c ∧ c ≤ 'Z') ∨ ('a' ≤ c ∧ c ≤ 'z') ∨ ('0' ≤ c ∧ c ≤ '9') ∨
    c = '_' ∨ c = '.' ∨ c = '+' ∨ c = '-'

theorem isWordChar_iff : isWordChar c ↔ WordChar c := by
  simp only [isWordChar, WordChar, Char.isAlphanum, Char.isAlpha, Char.isUpper, Char.isLower,
    Char.isDigit, Bool.or_eq_true, Bool.and_eq_true, decide_eq_true_eq, ge_iff_le, Char.le_def,
    or_assoc]

theorem symbol?_eq_some (h : symbol? c = some token) :
    c ∈ ['\x7b', '\x7d', '[', ']', ':', ',', ';'] := by
  unfold symbol? at h
  split at h <;> simp_all

theorem isBlank_of_symbol? (h : symbol? c = some token) : isBlank c = false := by
  have mem := symbol?_eq_some h
  simp only [List.mem_cons, List.not_mem_nil, or_false] at mem
  rcases mem with rfl | rfl | rfl | rfl | rfl | rfl | rfl <;> decide

theorem isWordChar_of_symbol? (h : symbol? c = some token) : isWordChar c = false := by
  have mem := symbol?_eq_some h
  simp only [List.mem_cons, List.not_mem_nil, or_false] at mem
  rcases mem with rfl | rfl | rfl | rfl | rfl | rfl | rfl <;> decide

theorem toNat_of_isWordChar (h : isWordChar c) : 43 ≤ c.toNat ∧ c.toNat ≤ 122 := by
  simp only [isWordChar, Char.isAlphanum, Char.isAlpha, Char.isUpper, Char.isLower, Char.isDigit,
    Bool.or_eq_true, Bool.and_eq_true, decide_eq_true_eq, ge_iff_le, UInt32.le_iff_toNat_le] at h
  rcases h with (((letter | rfl) | rfl) | rfl) | rfl
  · change ((65 ≤ c.toNat ∧ c.toNat ≤ 90) ∨ (97 ≤ c.toNat ∧ c.toNat ≤ 122)) ∨
      (48 ≤ c.toNat ∧ c.toNat ≤ 57) at letter
    omega
  all_goals decide

theorem isBlank_of_isWordChar (h : isWordChar c) : isBlank c = false := by
  obtain ⟨above, below⟩ := toNat_of_isWordChar h
  simp [isBlank, CodeRanges.contains, blankRanges]
  omega

theorem scanChars_nil : scanChars [] = [.ok .endOfText] := by
  rw [scanChars]
  rfl

/-- The first piece of a text that does not start with a blank. -/
theorem scanChars_cons (h : isBlank c = false) (rest : List Char) :
    scanChars (c :: rest) = (readPiece c rest).1 :: scanChars (readPiece c rest).2 := by
  have front : (c :: rest).dropWhile isBlank = c :: rest := by simp [h]
  rw [scanChars]
  split
  next empty => cases front.symm.trans empty
  next d tail split =>
    cases front.symm.trans split
    rfl

/-- A symbol is a piece of its own. -/
theorem scanChars_symbol (h : symbol? c = some token) (rest : List Char) :
    scanChars (c :: rest) = .ok token :: scanChars rest := by
  rw [scanChars_cons (isBlank_of_symbol? h)]
  simp only [readPiece, h]

/-- A word ends before the first character that is not its own. -/
theorem scanChars_word (h : IsWord word) (stop : Stops isWordChar rest) :
    scanChars (word ++ rest) = .ok (.word (String.ofList word)) :: scanChars rest := by
  obtain ⟨some, all⟩ := h
  cases word with
  | nil => exact absurd rfl some
  | cons c cs =>
    obtain ⟨first, run⟩ := List.forall_mem_cons.1 all
    have noSymbol : symbol? c = none := by
      cases found : symbol? c with
      | none => rfl
      | some token => simp [isWordChar_of_symbol? found] at first
    have noQuote : ¬(c = '"' ∨ c = '\'') := by
      rintro (rfl | rfl) <;> revert first <;> decide
    rw [List.cons_append, scanChars_cons (isBlank_of_isWordChar first)]
    simp only [readPiece, noSymbol, if_neg noQuote, if_pos first, takeWhile_run run stop,
      dropWhile_run run stop]

/-! ## Quoted texts -/

/-- The characters that texts are quoted with. -/
def IsQuote (c : Char) : Prop :=
  c = '"' ∨ c = '\''

/-- A backslash goes before each `quote` and each backslash. -/
def escape (quote : Char) (text : List Char) : List Char :=
  text.flatMap fun c => if c = quote ∨ c = '\\' then ['\\', c] else [c]

variable {quote : Char}

theorem escape_cons (quote c : Char) (text : List Char) :
    escape quote (c :: text) =
      (if c = quote ∨ c = '\\' then ['\\', c] else [c]) ++ escape quote text :=
  rfl

theorem escapeQuotes_eq (cs : List Char) : escapeQuotes cs = escape '"' cs := by
  induction cs with
  | nil => rfl
  | cons c cs ih =>
    rw [escapeQuotes, escape_cons, ih]
    split <;> rfl

/-- Reading stops at the first quote that is not escaped, and takes the backslashes off. -/
theorem readQuoted_escape (is : IsQuote quote) (cs rest : List Char) :
    readQuoted quote (escape quote cs ++ quote :: rest) = some (cs, rest) := by
  induction cs with
  | nil => rcases is with rfl | rfl <;> simp [escape, readQuoted]
  | cons c cs ih =>
    rw [escape_cons]
    split
    next => simp [readQuoted, ih]
    next plain =>
      rw [not_or] at plain
      simp [readQuoted, plain.1, plain.2, ih]

theorem readQuoted_escapeQuotes (cs rest : List Char) :
    readQuoted '"' (escapeQuotes cs ++ '"' :: rest) = some (cs, rest) := by
  rw [escapeQuotes_eq, readQuoted_escape (.inl rfl)]

/-- A text between quotes of one kind is one piece. -/
theorem scanChars_between (is : IsQuote quote) (cs rest : List Char) :
    scanChars (quote :: (escape quote cs ++ quote :: rest)) =
      .ok (.quoted (String.ofList cs)) :: scanChars rest := by
  have blank : isBlank quote = false := by rcases is with rfl | rfl <;> decide
  have noSymbol : symbol? quote = none := by rcases is with rfl | rfl <;> rfl
  have opens : quote = '"' ∨ quote = '\'' := is
  rw [scanChars_cons blank]
  simp only [readPiece, noSymbol, if_pos opens, readQuoted_escape is]

/-- A text between quotes is one piece. -/
theorem scanChars_quoted (cs rest : List Char) :
    scanChars (quotedChars cs ++ rest) = .ok (.quoted (String.ofList cs)) :: scanChars rest := by
  have text : quotedChars cs ++ rest = '"' :: (escape '"' cs ++ '"' :: rest) := by
    simp [quotedChars, escapeQuotes_eq]
  rw [text, scanChars_between (.inl rfl)]

/-! ## Numbers as words -/

theorem isWordChar_of_isDigit (h : c.isDigit) : isWordChar c := by
  simp [isWordChar, Char.isAlphanum, h]

theorem isWordChar_signText (negative : Bool) : ∀ c ∈ signText negative, isWordChar c := by
  cases negative <;> exact List.all_eq_true.1 (by decide)

theorem isWord_writeInt (n : Int) : IsWord (writeInt n) := by
  rw [writeInt_eq]
  refine ⟨by simp, fun c hc => ?_⟩
  rcases List.mem_append.1 hc with sign | digit
  · exact isWordChar_signText _ c sign
  · exact isWordChar_of_isDigit (isDigit_digitsOf _ c digit)

theorem isWord_plainText {f : Format} (x : Binary f) : IsWord (plainText x) := by
  cases x with
  | nan =>
    simp only [plainText]
    exact ⟨by decide, List.all_eq_true.1 (by decide)⟩
  | infinite negative =>
    simp only [plainText]
    cases negative <;> exact ⟨by decide, List.all_eq_true.1 (by decide)⟩
  | finite negative m q canonical =>
    simp only [plainText]
    generalize Binary.shortest .up negative m q canonical = d
    obtain ⟨whole, fraction⟩ := Digits.isDigit_split (d := d.toDigits) Decimal.isDigit_toDigits
    simp only [Digits.positional]
    refine ⟨by split <;> simp [*], fun c hc => ?_⟩
    simp only [List.mem_append] at hc
    rcases hc with sign | whole' | fraction'
    · exact isWordChar_signText _ c sign
    · split at whole'
      · obtain rfl : c = '0' := by simpa using whole'
        rfl
      · exact isWordChar_of_isDigit (whole c whole')
    · split at fraction'
      · cases fraction'
      · rcases List.mem_cons.1 fraction' with rfl | digit
        · rfl
        · exact isWordChar_of_isDigit (fraction c digit)

theorem IsWord.concat {c : Char} (h : IsWord word) (last : isWordChar c) :
    IsWord (word ++ [c]) := by
  refine ⟨by simp, ?_⟩
  simpa [or_imp, forall_and] using ⟨h.2, last⟩

end Token

namespace Tag

variable {word body : List Char} {suffix : Char} {tag : Tag}

theorem numberOfWord?_suffix (letter : suffix.isAlpha) :
    numberOfWord? (body ++ [suffix]) = ofSuffixed? body suffix := by
  simp [numberOfWord?, letter]

/-- Words for truth values end in an `e`; any other word is a number or its own text. -/
theorem ofWord_of_getLast? (last : word.getLast? ≠ some 'e') :
    ofWord (String.ofList word) = (numberOfWord? word).getD (.string (String.ofList word)) := by
  have other (truth : String) (e : truth.toList.getLast? = some 'e') :
      String.ofList word ≠ truth := by
    rintro rfl
    rw [String.toList_ofList] at e
    exact last e
  rw [ofWord, if_neg (other "true" rfl), if_neg (other "false" rfl), String.toList_ofList]

theorem ofWord_of_numberOfWord? (h : numberOfWord? word = some tag)
    (last : word.getLast? ≠ some 'e') : ofWord (String.ofList word) = tag := by
  rw [ofWord_of_getLast? last, h, Option.getD_some]

theorem readWithin?_writeInt {least greatest n : Int} (h : least ≤ n ∧ n ≤ greatest) :
    readWithin? least greatest (writeInt n) = some n := by
  simp [readWithin?, Option.filter, h]

theorem readInt8?_writeInt (n : Int8) : readInt8? (writeInt n.toInt) = some n := by
  have lower := n.le_toInt
  have upper := n.toInt_lt
  rw [readInt8?, readWithin?_writeInt (by omega), Option.map_some, Int8.ofInt_toInt]

theorem readInt16?_writeInt (n : Int16) : readInt16? (writeInt n.toInt) = some n := by
  have lower := n.le_toInt
  have upper := n.toInt_lt
  rw [readInt16?, readWithin?_writeInt (by omega), Option.map_some, Int16.ofInt_toInt]

theorem readInt64?_writeInt (n : Int64) : readInt64? (writeInt n.toInt) = some n := by
  have lower := n.le_toInt
  have upper := n.toInt_lt
  rw [readInt64?, readWithin?_writeInt (by omega), Option.map_some, Int64.ofInt_toInt]

theorem isAlpha_of_isDigit {c : Char} (h : c.isDigit) : c.isAlpha = false := by
  by_contra letter
  simp only [Char.isDigit, Char.isAlpha, Char.isUpper, Char.isLower, Bool.not_eq_false,
    Bool.or_eq_true, Bool.and_eq_true, decide_eq_true_eq, ge_iff_le,
    UInt32.le_iff_toNat_le] at h letter
  change 48 ≤ c.toNat ∧ c.toNat ≤ 57 at h
  change (65 ≤ c.toNat ∧ c.toNat ≤ 90) ∨ (97 ≤ c.toNat ∧ c.toNat ≤ 122) at letter
  omega

theorem readInt8?_eq_some_iff {n : Int8} :
    readInt8? word = some n ↔ readInt? word = some n.toInt := by
  simp only [readInt8?, Option.map_eq_some_iff, readWithin?_eq_some_iff]
  constructor
  · rintro ⟨m, ⟨read, lower, upper⟩, rfl⟩
    rw [read, Int8.toInt_ofInt_of_le (by omega) (by omega)]
  · intro read
    have lower := n.le_toInt
    have upper := n.toInt_lt
    exact ⟨n.toInt, ⟨read, by omega, by omega⟩, n.ofInt_toInt⟩

theorem readInt32?_eq_some_iff {n : Int32} :
    readInt32? word = some n ↔ readInt? word = some n.toInt := by
  simp only [readInt32?, Option.map_eq_some_iff, readWithin?_eq_some_iff]
  constructor
  · rintro ⟨m, ⟨read, lower, upper⟩, rfl⟩
    rw [read, Int32.toInt_ofInt_of_le (by omega) (by omega)]
  · intro read
    have lower := n.le_toInt
    have upper := n.toInt_lt
    exact ⟨n.toInt, ⟨read, by omega, by omega⟩, n.ofInt_toInt⟩

/-- Whole numbers are digits behind an optional sign. -/
theorem exists_digits_of_readInt? {n : Int} (h : readInt? word = some n) :
    ∃ sign body, word = sign ++ body ∧ (∀ c ∈ sign, c = '-' ∨ c = '+') ∧ body ≠ [] ∧
      ∀ c ∈ body, c.isDigit := by
  cases readInt?_eq_some_iff.1 h with
  | plain digits => exact ⟨[], _, rfl, by simp, digits⟩
  | plus digits => exact ⟨['+'], _, rfl, by simp, digits⟩
  | minus digits => exact ⟨['-'], _, rfl, by simp, digits⟩

/-- A whole number ends in a digit, and has neither a point nor an exponent. -/
theorem numberOfWord?_of_readInt? {n : Int} (h : readInt? word = some n) :
    numberOfWord? word = (readInt32? word).map .int ∧ word.getLast? ≠ some 'e' := by
  obtain ⟨sign, body, rfl, signs, some, digits⟩ := exists_digits_of_readInt? h
  have whole : (sign ++ body).any (fun c => c = '.' || c = 'e' || c = 'E') = false := by
    simp only [List.any_eq_false, List.mem_append]
    intro c mem
    rcases mem with sign | digit
    · rcases signs c sign with rfl | rfl <;> decide
    · have digit := digits c digit
      simp only [Bool.or_eq_true, decide_eq_true_eq]
      rintro ((rfl | rfl) | rfl) <;> revert digit <;> decide
  have plain : ofPlain? (sign ++ body) = (readInt32? (sign ++ body)).map .int := by
    rw [ofPlain?, whole, if_neg (by simp)]
  have last {c : Char} (found : (sign ++ body).getLast? = .some c) : c.isDigit := by
    rw [List.getLast?_append_of_ne_nil _ some] at found
    exact digits c (List.mem_of_getLast? found)
  refine ⟨?_, fun found => absurd (last found) (by decide)⟩
  rw [numberOfWord?]
  split
  next c found => rw [isAlpha_of_isDigit (last found), if_neg (by simp), plain]
  next => exact plain

/-- A word is a whole number without a letter if and only if all of it reads as one. -/
theorem ofWord_eq_int_iff {s : String} {n : Int32} :
    ofWord s = .int n ↔ readInt? s.toList = some n.toInt := by
  constructor
  · intro is
    have number : numberOfWord? s.toList = some (.int n) := by
      unfold ofWord at is
      split at is
      · cases is
      · split at is
        · cases is
        · cases found : numberOfWord? s.toList with
          | none => simp [found] at is
          | some tag => rw [← is, found, Option.getD_some]
    have plain (h : ofPlain? s.toList = some (.int n)) : readInt32? s.toList = some n := by
      unfold ofPlain? at h
      split at h
      · simp at h
      · simpa using h
    rw [← readInt32?_eq_some_iff]
    unfold numberOfWord? at number
    split at number
    · split at number
      · unfold ofSuffixed? at number
        split at number <;> simp at number
      · exact plain number
    · exact plain number
  · intro read
    obtain ⟨number, last⟩ := numberOfWord?_of_readInt? read
    rw [readInt32?_eq_some_iff.2 read] at number
    simpa using ofWord_of_numberOfWord? number last

/-! ## What printed words stand for -/

/-- A number in front of a letter for its width. -/
theorem ofWord_suffix (letter : suffix.isAlpha) (other : suffix ≠ 'e')
    (h : ofSuffixed? body suffix = some tag) : ofWord (String.ofList (body ++ [suffix])) = tag :=
  ofWord_of_numberOfWord? (by rw [numberOfWord?_suffix letter, h]) (by simpa using other)

theorem ofWord_byte (n : Int8) : ofWord (String.ofList (byteChars n)) = .byte n :=
  ofWord_suffix rfl (by decide) (congrArg (Option.map Tag.byte) (readInt8?_writeInt n))

theorem ofWord_short (n : Int16) : ofWord (String.ofList (writeInt n.toInt ++ ['s'])) = .short n :=
  ofWord_suffix rfl (by decide) (congrArg (Option.map Tag.short) (readInt16?_writeInt n))

theorem ofWord_long (n : Int64) : ofWord (String.ofList (longChars n)) = .long n :=
  ofWord_suffix rfl (by decide) (congrArg (Option.map Tag.long) (readInt64?_writeInt n))

theorem ofWord_float (x : Single) : ofWord (String.ofList (plainText x ++ ['f'])) = .float x :=
  ofWord_suffix rfl (by decide)
    (congrArg (Option.map Tag.float) (Binary.read?_plainText (by decide) x))

theorem ofWord_double (x : Double) : ofWord (String.ofList (plainText x ++ ['d'])) = .double x :=
  ofWord_suffix rfl (by decide)
    (congrArg (Option.map Tag.double) (Binary.read?_plainText (by decide) x))

theorem ofWord_int (n : Int32) : ofWord (String.ofList (writeInt n.toInt)) = .int n :=
  ofWord_eq_int_iff.2 (by simp)

/-- The tree is one number. -/
def isNumber : Tag → Bool
  | .byte _ | .short _ | .int _ | .long _ | .float _ | .double _ => true
  | _ => false

/-- A number is printed as one word, which stands for it. -/
theorem ofWord_chars (h : tag.isNumber) :
    Token.IsWord tag.chars ∧ ofWord (String.ofList tag.chars) = tag := by
  cases tag with
  | byte n =>
    rw [chars]
    exact ⟨(Token.isWord_writeInt _).concat rfl, ofWord_byte n⟩
  | short n =>
    rw [chars]
    exact ⟨(Token.isWord_writeInt _).concat rfl, ofWord_short n⟩
  | int n =>
    rw [chars]
    exact ⟨Token.isWord_writeInt _, ofWord_int n⟩
  | long n =>
    rw [chars]
    exact ⟨(Token.isWord_writeInt _).concat rfl, ofWord_long n⟩
  | float x =>
    rw [chars]
    exact ⟨(Token.isWord_plainText x).concat rfl, ofWord_float x⟩
  | double x =>
    rw [chars]
    exact ⟨(Token.isWord_plainText x).concat rfl, ofWord_double x⟩
  | _ => cases h

theorem isNumber_of_numberOfWord? (h : numberOfWord? word = some tag) : tag.isNumber := by
  have suffixed {suffix : Char} (h : ofSuffixed? word.dropLast suffix = some tag) :
      tag.isNumber := by
    unfold ofSuffixed? at h
    split at h
    any_goals
      obtain ⟨_, -, rfl⟩ := Option.map_eq_some_iff.1 h
      rfl
    cases h
  have plain (h : ofPlain? word = some tag) : tag.isNumber := by
    unfold ofPlain? at h
    split at h <;> obtain ⟨_, -, rfl⟩ := Option.map_eq_some_iff.1 h <;> rfl
  unfold numberOfWord? at h
  split at h
  · split at h
    · exact suffixed h
    · exact plain h
  · exact plain h

/-- A word stands for a number or for itself. -/
theorem ofWord_cases (s : String) : (ofWord s).isNumber ∨ ofWord s = .string s := by
  unfold ofWord
  split
  · exact .inl rfl
  · split
    · exact .inl rfl
    · cases found : numberOfWord? s.toList with
      | none => exact .inr rfl
      | some tag => exact .inl (isNumber_of_numberOfWord? found)

/-- A text that stands without quotes is a word for itself. -/
theorem ofWord_of_isBare {s : String} (h : isBare s) :
    Token.IsWord s.toList ∧ ofWord s = .string s := by
  simp only [isBare, Bool.and_eq_true, bne_iff_ne, ne_eq, List.all_eq_true] at h
  obtain ⟨⟨some, all⟩, text⟩ := h
  refine ⟨⟨by simpa using some, all⟩, (ofWord_cases s).resolve_left fun number => ?_⟩
  cases word : ofWord s <;> simp_all [isString, isNumber]

end Tag

end Storyboard
