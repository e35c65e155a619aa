import Storyboard.Proofs.Tag.Integer

/-!
# Arrays in data patches

The elements of an array are the numbers that are written, and one that the array has no room for
is reported.

## Main definitions

* `Tag.WritesElement`: the number that a word writes in an array.
* `Token.arrays`: the arrays that tokens write, from left to right.
* `Tag.arrays`: the arrays in a tree, from left to right.

## Main statements

* `Tag.readArray_closed`: what a closed array of words is read as.
* `Tag.elements_eq_error_iff`: the first word that is no element is reported.
* `Tag.forall₂_arrays`: the arrays of a tree are those that its tokens write.
* `Tag.whole_numbers_exact`: whole numbers are read as they are written, in words and in arrays.
-/

namespace Storyboard.Tag

open Token (Lexeme)

variable {kind : ArrayKind} {word : String} {words : List String} {n : Int} {ns : List Int}
  {v : Tag} {e : Error} {tokens : List Token}

/-! ## Elements -/

/-- The number that a word writes in an array. A number without a letter may stand in each of them,
but an array of long numbers has no room for a number without a letter that is too great for its
own width. -/
inductive WritesElement : ArrayKind → String → Int → Prop
  | truth {word : String} {n : Int} (is : WritesTruth word n) : WritesElement .bytes word n
  | byte {word : String} {n : Int} (writes : WritesWhole .byte word n)
      (fits : Width.byte.Holds n) : WritesElement .bytes word n
  | bareByte {word : String} {n : Int} (writes : WritesWhole .int word n)
      (fits : Width.byte.Holds n) : WritesElement .bytes word n
  | int {word : String} {n : Int} (writes : WritesWhole .int word n)
      (fits : Width.int.Holds n) : WritesElement .ints word n
  | long {word : String} {n : Int} (writes : WritesWhole .long word n)
      (fits : Width.long.Holds n) : WritesElement .longs word n
  | bareLong {word : String} {n : Int} (writes : WritesWhole .int word n)
      (fits : Width.int.Holds n) : WritesElement .longs word n

/-- The width of the elements of an array. -/
def ArrayKind.width : ArrayKind → Width
  | .bytes => .byte
  | .ints => .int
  | .longs => .long

theorem whole?_eq_byte_iff :
    v.whole? = some (.byte, n) ↔ ∃ m : Int8, v = .byte m ∧ m.toInt = n := by
  cases v <;> simp [whole?]

theorem whole?_eq_int_iff :
    v.whole? = some (.int, n) ↔ ∃ m : Int32, v = .int m ∧ m.toInt = n := by
  cases v <;> simp [whole?]

theorem whole?_eq_long_iff :
    v.whole? = some (.long, n) ↔ ∃ m : Int64, v = .long m ∧ m.toInt = n := by
  cases v <;> simp [whole?]

theorem element_bytes_iff :
    Element .bytes word n ↔ (ofWord word).whole? = some (.byte, n) ∨
      (ofWord word).whole? = some (.int, n) ∧ Width.byte.Holds n := by
  simp only [whole?_eq_byte_iff, whole?_eq_int_iff]
  constructor
  · intro is
    cases is with
    | byte is => exact .inl ⟨_, is, rfl⟩
    | smallInt is lower upper => exact .inr ⟨⟨_, is, rfl⟩, lower, Int.lt_add_one_of_le upper⟩
  · rintro (⟨m, is, rfl⟩ | ⟨⟨m, is, rfl⟩, lower, upper⟩)
    · exact .byte is
    · exact .smallInt is lower (Int.le_of_lt_add_one upper)

theorem element_ints_iff : Element .ints word n ↔ (ofWord word).whole? = some (.int, n) := by
  rw [whole?_eq_int_iff]
  constructor
  · intro is
    cases is with
    | int is => exact ⟨_, is, rfl⟩
  · rintro ⟨m, is, rfl⟩
    exact .int is

theorem element_longs_iff :
    Element .longs word n ↔
      (ofWord word).whole? = some (.long, n) ∨ (ofWord word).whole? = some (.int, n) := by
  simp only [whole?_eq_long_iff, whole?_eq_int_iff]
  constructor
  · intro is
    cases is with
    | long is => exact .inl ⟨_, is, rfl⟩
    | intAsLong is => exact .inr ⟨_, is, rfl⟩
  · rintro (⟨m, is, rfl⟩ | ⟨m, is, rfl⟩)
    · exact .long is
    · exact .intAsLong is

/-- The words that are read as elements are those that write them. -/
theorem element_iff : Element kind word n ↔ WritesElement kind word n := by
  constructor
  · intro is
    cases kind with
    | bytes =>
      rw [element_bytes_iff, whole?_ofWord_iff, whole?_ofWord_iff] at is
      obtain (⟨fits, writes⟩ | ⟨-, truth⟩) | ⟨⟨-, writes⟩ | ⟨other, -⟩, fits⟩ := is
      · exact .byte writes fits
      · exact .truth truth
      · exact .bareByte writes fits
      · cases other
    | ints =>
      rw [element_ints_iff, whole?_ofWord_iff] at is
      obtain ⟨fits, writes⟩ | ⟨other, -⟩ := is
      · exact .int writes fits
      · cases other
    | longs =>
      rw [element_longs_iff, whole?_ofWord_iff, whole?_ofWord_iff] at is
      obtain (⟨fits, writes⟩ | ⟨other, -⟩) | (⟨fits, writes⟩ | ⟨other, -⟩) := is
      · exact .long writes fits
      · cases other
      · exact .bareLong writes fits
      · cases other
  · intro is
    cases is with
    | truth is => exact element_bytes_iff.2 (.inl (whole?_ofWord_iff.2 (.inr ⟨rfl, is⟩)))
    | byte writes fits =>
      exact element_bytes_iff.2 (.inl (whole?_ofWord_iff.2 (.inl ⟨fits, writes⟩)))
    | bareByte writes fits =>
      have wide : Width.int.Holds n := by
        simp only [Width.Holds, Width.bits] at fits ⊢
        omega
      exact element_bytes_iff.2 (.inr ⟨whole?_ofWord_iff.2 (.inl ⟨wide, writes⟩), fits⟩)
    | int writes fits => exact element_ints_iff.2 (whole?_ofWord_iff.2 (.inl ⟨fits, writes⟩))
    | long writes fits =>
      exact element_longs_iff.2 (.inl (whole?_ofWord_iff.2 (.inl ⟨fits, writes⟩)))
    | bareLong writes fits =>
      exact element_longs_iff.2 (.inr (whole?_ofWord_iff.2 (.inl ⟨fits, writes⟩)))

/-- An element has room in its array. -/
theorem WritesElement.holds (h : WritesElement kind word n) : kind.width.Holds n := by
  cases h with
  | truth is => cases is <;> decide
  | bareLong writes fits =>
    simp only [ArrayKind.width, Width.Holds, Width.bits] at fits ⊢
    omega
  | byte _ fits | bareByte _ fits | int _ fits | long _ fits => exact fits

theorem holds_of_forall₂ (h : List.Forall₂ (WritesElement kind) words ns) :
    ∀ n ∈ ns, kind.width.Holds n := by
  induction h with
  | nil => simp
  | cons is _ ih => exact List.forall_mem_cons.2 ⟨is.holds, ih⟩

theorem arrayParts?_ofElements (fits : ∀ n ∈ ns, kind.width.Holds n) :
    (ofElements kind ns).arrayParts? = some (kind, ns) := by
  have same {f : Int → Int} (back : ∀ n, kind.width.Holds n → f n = n) : ns.map f = ns :=
    (List.map_congr_left fun n mem => back n (fits n mem)).trans (List.map_id' ns)
  cases kind with
  | bytes =>
    have back : ns.map ((·.toInt) ∘ Int8.ofInt) = ns :=
      same fun n fits => Int8.toInt_ofInt_of_le fits.1 fits.2
    rw [ofElements, arrayParts?, List.map_map, back]
  | ints =>
    have back : ns.map ((·.toInt) ∘ Int32.ofInt) = ns :=
      same fun n fits => Int32.toInt_ofInt_of_le fits.1 fits.2
    rw [ofElements, arrayParts?, List.map_map, back]
  | longs =>
    have back : ns.map ((·.toInt) ∘ Int64.ofInt) = ns :=
      same fun n fits => Int64.toInt_ofInt_of_le fits.1 fits.2
    rw [ofElements, arrayParts?, List.map_map, back]

/-! ## Closed arrays -/

theorem ofElement?_eq_none_iff :
    ofElement? kind word = none ↔ ∀ n, ¬WritesElement kind word n := by
  simp only [Option.eq_none_iff_forall_ne_some, ne_eq, ofElement?_eq_some_iff, element_iff]

/-- The first word that is no element is reported. -/
theorem elements_eq_error_iff :
    elements kind words = .error e ↔
      ∃ before word after, words = before ++ word :: after ∧
        (∀ w ∈ before, ∃ n, WritesElement kind w n) ∧ (∀ n, ¬WritesElement kind word n) ∧
        e = .badElement word kind := by
  rw [elements, mapM_eq_error_iff]
  refine exists_congr fun before => exists_congr fun word => exists_congr fun after =>
    and_congr_right fun _ => and_congr ?_ ?_
  · refine forall₂_congr fun w _ => exists_congr fun n => ?_
    rw [← element_iff, ← ofElement?_eq_some_iff]
    cases ofElement? kind w <;> simp
  · rw [← ofElement?_eq_none_iff]
    cases ofElement? kind word <;> simp [eq_comm]

/-- What a closed array of words is read as. -/
theorem readArray_closed (h : Sequence OneWord tokens words) (rest : List Lexeme) :
    readArray kind (tokens.map .ok ++ .ok .closeBracket :: rest) =
      (elements kind words).map fun ns => (ofElements kind ns, rest) := by
  have parts : readSequence readWord .closeBracket .number .commaOrBracket
      (tokens.map .ok ++ .ok .closeBracket :: rest) = .ok (words, rest) :=
    (recognises_words _ _ _).2 ⟨tokens ++ [.closeBracket], ⟨tokens, h, rfl⟩, by simp⟩
  rw [readArray_eq, convert, parts]
  simp only [bind, Except.bind]
  cases elements kind words <;> rfl

end Storyboard.Tag

/-! ## Arrays in texts -/

namespace Storyboard.Token

/-- The words among tokens. -/
def words : List Token → List String
  | .word text :: rest => text :: words rest
  | _ :: rest => words rest
  | [] => []

/-- The arrays that tokens write, from left to right. Behind an opening bracket, the letter of a
kind and a semicolon are the words up to the next closing bracket. -/
def arrays : List Token → List (Tag.ArrayKind × List String)
  | .openBracket :: .word name :: .semicolon :: rest =>
    ((Tag.ArrayKind.ofName? name).map fun kind =>
      (kind, words (rest.takeWhile (· ≠ .closeBracket)))).toList ++ arrays rest
  | _ :: rest => arrays rest
  | [] => []

variable {token : Token} {rest : List Token}

theorem arrays_cons (other : token ≠ .openBracket) : arrays (token :: rest) = arrays rest := by
  rw [arrays]
  rintro name more rfl
  exact absurd rfl other

theorem arrays_openBracket (other : ∀ name more, rest ≠ .word name :: .semicolon :: more) :
    arrays (.openBracket :: rest) = arrays rest := by
  rw [arrays]
  rintro name more - rfl
  exact other name more rfl

theorem arrays_append_of_free {tokens : List Token} (free : ∀ t ∈ tokens, t ≠ .openBracket) :
    arrays (tokens ++ rest) = arrays rest := by
  induction tokens with
  | nil => rfl
  | cons token tokens ih =>
    obtain ⟨first, more⟩ := List.forall_mem_cons.1 free
    rw [List.cons_append, arrays_cons first, ih more]

end Storyboard.Token

namespace Storyboard.Tag

variable {kind : ArrayKind} {tokens more : List Token} {words : List String} {ns : List Int}
  {as bs : List (ArrayKind × List Int)} {v : Tag}

mutual

/-- The arrays in a tree, from left to right. -/
def arrays : Tag → List (ArrayKind × List Int)
  | .list items => itemsArrays items
  | .compound entries => entriesArrays entries
  | v => v.arrayParts?.toList

/-- The arrays in items. -/
def itemsArrays : List Tag → List (ArrayKind × List Int)
  | [] => []
  | item :: items => arrays item ++ itemsArrays items

/-- The arrays in entries. -/
def entriesArrays : List (String × Tag) → List (ArrayKind × List Int)
  | [] => []
  | (_, value) :: entries => arrays value ++ entriesArrays entries

end

/-- The words write the elements of an array. -/
structure WritesArray (written : ArrayKind × List String) (array : ArrayKind × List Int) :
    Prop where
  kind : written.1 = array.1
  elements : List.Forall₂ (WritesElement array.1) written.2 array.2

/-- The tokens write arrays in front of those that follow, whatever follows. -/
def WritesArrays (tokens : List Token) (as : List (ArrayKind × List Int)) : Prop :=
  ∀ rest, ∃ written, Token.arrays (tokens ++ rest) = written ++ Token.arrays rest ∧
    List.Forall₂ WritesArray written as

theorem writesArrays_of_free (free : ∀ t ∈ tokens, t ≠ .openBracket) : WritesArrays tokens [] :=
  fun _ => ⟨[], Token.arrays_append_of_free free, .nil⟩

theorem WritesArrays.append (first : WritesArrays tokens as) (second : WritesArrays more bs) :
    WritesArrays (tokens ++ more) (as ++ bs) := by
  intro rest
  obtain ⟨written, here, same⟩ := first (more ++ rest)
  obtain ⟨written', there, same'⟩ := second rest
  refine ⟨written ++ written', ?_, List.rel_append same same'⟩
  rw [List.append_assoc, here, there, List.append_assoc]

/-- Brackets of a list add no array. -/
theorem WritesArrays.brackets (inside : WritesArrays tokens as)
    (other : ∀ after name rest,
      tokens ++ .closeBracket :: after ≠ .word name :: .semicolon :: rest) :
    WritesArrays (.openBracket :: (tokens ++ [.closeBracket])) as := by
  intro rest
  obtain ⟨written, here, same⟩ := inside (.closeBracket :: rest)
  refine ⟨written, ?_, same⟩
  rw [List.cons_append, List.append_assoc, List.singleton_append,
    Token.arrays_openBracket (other rest), here, Token.arrays_cons (by decide)]

theorem words_of_sequence (h : Sequence OneWord tokens words) :
    Token.words tokens = words ∧ (∀ t ∈ tokens, t ≠ .openBracket) ∧
      ∀ t ∈ tokens, t ≠ .closeBracket := by
  cases h with
  | nothing => simp [Token.words]
  | series h =>
    induction h with
    | single is =>
      obtain ⟨word⟩ := is
      simp [Token.words]
    | cons is _ ih =>
      obtain ⟨word⟩ := is
      simpa [Token.words] using ih

/-- An array is written by its words. -/
theorem writesArrays_array (inside : Sequence OneWord tokens words)
    (values : List.Forall₂ (WritesElement kind) words ns) :
    WritesArrays (.openBracket :: .word kind.letter :: .semicolon :: (tokens ++ [.closeBracket]))
      [(kind, ns)] := by
  intro rest
  obtain ⟨same, noOpen, noClose⟩ := words_of_sequence inside
  refine ⟨[(kind, words)], ?_, .cons ⟨rfl, values⟩ .nil⟩
  have body : (tokens ++ .closeBracket :: rest).takeWhile (· ≠ .closeBracket) = tokens := by
    rw [List.takeWhile_append_of_pos (by simpa using noClose)]
    simp
  simp only [List.cons_append, List.append_assoc, List.nil_append, Token.arrays,
    ArrayKind.ofName?_eq_some_iff.2 (rfl : kind.letter = kind.letter), body, same]
  rw [Token.arrays_append_of_free noOpen, Token.arrays_cons (by decide)]
  rfl

theorem arrays_of_arrayParts? {part : ArrayKind × List Int} (h : v.arrayParts? = some part) :
    v.arrays = [part] := by
  cases v with
  | list | compound => cases h
  | _ => simp [arrays, h]

theorem arrays_ofWord (word : String) : (ofWord word).arrays = [] := by
  rcases ofWord_cases word with number | text
  · cases v : ofWord word <;> simp_all [isNumber, arrays, arrayParts?]
  · rw [text]
    simp [arrays, arrayParts?]

/-! ### Parts of trees -/

section Parts

variable {α : Type} {P : List Token → α → Prop} {parts : List α}

/-- A word that starts the tokens is all of them. -/
def LoneWord (tokens : List Token) : Prop :=
  tokens ≠ [] ∧ ∀ name more, tokens = .word name :: more → more = []

/-- Tokens of a part and what follows it are not the type of an array. -/
theorem LoneWord.append_ne (h : LoneWord tokens) {token : Token} (other : token ≠ .semicolon)
    (after : List Token) (name : String) (rest : List Token) :
    tokens ++ token :: after ≠ .word name :: .semicolon :: rest := by
  obtain ⟨nonempty, lone⟩ := h
  obtain ⟨first, more, rfl⟩ := List.exists_cons_of_ne_nil nonempty
  intro same
  rw [List.cons_append, List.cons.injEq] at same
  obtain ⟨rfl, same⟩ := same
  obtain rfl := lone name more rfl
  exact other (List.cons.inj same).1

theorem Sequence.append_ne (front : ∀ tokens a, P tokens a → LoneWord tokens)
    (h : Sequence P tokens parts) (after : List Token) (name : String) (rest : List Token) :
    tokens ++ .closeBracket :: after ≠ .word name :: .semicolon :: rest := by
  cases h with
  | nothing => simp
  | series h =>
    cases h with
    | single is => exact (front _ _ is).append_ne (by decide) after name rest
    | cons is _ =>
      rw [List.append_assoc, List.cons_append]
      exact (front _ _ is).append_ne (by decide) _ name rest

/-- Parts with commas between them write the arrays of all parts, in their order. -/
theorem Sequence.writesArrays {f : α → List (ArrayKind × List Int)}
    {g : List α → List (ArrayKind × List Int)} (nil : g [] = [])
    (cons : ∀ a as, g (a :: as) = f a ++ g as)
    (part : ∀ tokens a, P tokens a → WritesArrays tokens (f a)) (h : Sequence P tokens parts) :
    WritesArrays tokens (g parts) := by
  cases h with
  | nothing =>
    rw [nil]
    exact writesArrays_of_free (by simp)
  | series h =>
    induction h with
    | single is =>
      rw [cons, nil, List.append_nil]
      exact part _ _ is
    | cons is _ ih =>
      have comma : WritesArrays [.comma] [] := writesArrays_of_free (by simp)
      rw [cons]
      exact (part _ _ is).append (comma.append ih)

end Parts

/-- The arrays of a tree are those that its tokens write. -/
theorem Derives.writesArrays (h : Derives tokens v) : WritesArrays tokens v.arrays := by
  -- That a word is alone keeps the brackets of a list apart from those of an array.
  suffices both : WritesArrays tokens v.arrays ∧ LoneWord tokens from both.1
  refine Derives.induction (P := fun tokens v => WritesArrays tokens v.arrays ∧ LoneWord tokens)
    ?quoted ?word ?compound ?list ?array h
  case quoted =>
    intro text
    refine ⟨?_, by simp [LoneWord]⟩
    have none : (Tag.string text).arrays = [] := by simp [arrays, arrayParts?]
    rw [none]
    exact writesArrays_of_free (by simp)
  case word =>
    intro word
    refine ⟨?_, by simp [LoneWord]⟩
    rw [arrays_ofWord]
    exact writesArrays_of_free (by simp)
  case compound =>
    intro tokens entries inside
    refine ⟨?_, by simp [LoneWord]⟩
    have entry : ∀ tokens (e : String × Tag),
        Entry (fun tokens v => WritesArrays tokens v.arrays ∧ LoneWord tokens) tokens e →
          WritesArrays tokens e.2.arrays := by
      intro tokens e is
      cases is with
      | word key value =>
        have name : WritesArrays [.word key, .colon] [] := writesArrays_of_free (by simp)
        exact name.append value.1
      | quoted key value =>
        have name : WritesArrays [.quoted key, .colon] [] := writesArrays_of_free (by simp)
        exact name.append value.1
    have front : WritesArrays [.openBrace] [] := writesArrays_of_free (by simp)
    have back : WritesArrays [.closeBrace] [] := writesArrays_of_free (by simp)
    have all := inside.writesArrays (g := entriesArrays) rfl (fun _ _ => rfl) entry
    rw [arrays, ← List.append_nil (entriesArrays entries)]
    exact front.append (all.append back)
  case list =>
    intro tokens items inside
    refine ⟨?_, by simp [LoneWord]⟩
    rw [arrays]
    refine (inside.writesArrays rfl (fun _ _ => rfl) fun _ _ item => item.1).brackets ?_
    exact inside.append_ne fun _ _ item => item.2
  case array =>
    intro tokens words ns kind inside values
    refine ⟨?_, by simp [LoneWord]⟩
    have written : List.Forall₂ (WritesElement kind) words ns :=
      values.imp fun _ _ => element_iff.1
    rw [arrays_of_arrayParts? (arrayParts?_ofElements (holds_of_forall₂ written))]
    exact writesArrays_array inside written

/-- The arrays of a tree that a text is read as are those that the text writes. -/
theorem forall₂_arrays {s : String} (h : parse s = .ok v) :
    ∃ tokens, Token.scan s = tokens.map .ok ++ [.ok .endOfText] ∧
      List.Forall₂ WritesArray (Token.arrays tokens) v.arrays := by
  obtain ⟨-, rest, after, read, found⟩ := parse_eq_ok_iff.1 h
  obtain ⟨tokens, ⟨is, -⟩, whole⟩ := (recognises_readValue _ _ _ _).1 read
  rw [is.eq_end whole found] at whole
  obtain ⟨written, split, same⟩ := is.writesArrays []
  rw [List.append_nil, Token.arrays, List.append_nil] at split
  exact ⟨tokens, whole, split ▸ same⟩

/-! ## Whole numbers -/

theorem ofWord_of_not_holds {word : String} {width : Width} {n : Int}
    (h : WritesWhole width word n) (wide : ¬width.Holds n) : ofWord word = .string word := by
  rw [ofWord_of_writesWhole h, if_neg wide]

theorem ofWord_of_other {word : String} (float : ¬IsFloatWord word)
    (whole : ∀ width n, ¬WritesWhole width word n) (truth : ∀ n, ¬WritesTruth word n) :
    ofWord word = .string word := by
  obtain (⟨writes, -, -⟩ | ⟨is, -⟩) | ⟨n, is⟩ | text := ofWord_eq_or word
  · rw [String.ofList_toList] at writes
    exact absurd writes (whole _ _)
  · rw [String.ofList_toList] at is
    exact absurd is float
  · exact absurd is (truth n)
  · exact text

section Closed

variable {item : Reader Tag} (inside : Sequence OneWord tokens words) (rest : List Token.Lexeme)
include inside

theorem readList_array (kind : ArrayKind) :
    readList item (.ok (.word kind.letter) :: .ok .semicolon ::
        (tokens.map .ok ++ .ok .closeBracket :: rest)) =
      (elements kind words).map fun ns => (ofElements kind ns, rest) := by
  simp only [readList, ArrayKind.ofName?_eq_some_iff.2 (rfl : kind.letter = kind.letter)]
  exact readArray_closed inside rest

theorem readList_of_forall₂ (values : List.Forall₂ (WritesElement kind) words ns) :
    ∃ v, readList item (.ok (.word kind.letter) :: .ok .semicolon ::
        (tokens.map .ok ++ .ok .closeBracket :: rest)) = .ok (v, rest) ∧
      v.arrayParts? = some (kind, ns) := by
  have read : elements kind words = .ok ns :=
    elements_eq_ok_iff.2 (values.imp fun _ _ => element_iff.2)
  refine ⟨ofElements kind ns, ?_, arrayParts?_ofElements (holds_of_forall₂ values)⟩
  rw [readList_array inside, read]
  rfl

theorem readList_of_other {before after : List String} {word : String}
    (split : words = before ++ word :: after) (fine : ∀ w ∈ before, ∃ n, WritesElement kind w n)
    (other : ∀ n, ¬WritesElement kind word n) :
    readList item (.ok (.word kind.letter) :: .ok .semicolon ::
        (tokens.map .ok ++ .ok .closeBracket :: rest)) = .error (.badElement word kind) := by
  rw [readList_array inside, elements_eq_error_iff.2 ⟨before, word, after, split, fine, other, rfl⟩]
  rfl

end Closed

/-- Whole numbers are read as they are written or not at all. A word is a whole number of a width
exactly when it writes this number with the letter of the width and the width has room for it, or
when it is a truth value, which is a byte. A number that the width has no room for is a text, and so
is each other word, the ones for numbers that need not be whole apart. A closed array of words has
the numbers that they write as its elements, if all of them are elements of its kind, and otherwise
the first that is none is reported. The arrays of a tree that is read are those of the text. -/
theorem whole_numbers_exact :
    (∀ word width n, (ofWord word).whole? = some (width, n) ↔
      width.Holds n ∧ WritesWhole width word n ∨ width = .byte ∧ WritesTruth word n) ∧
    (∀ word width n, WritesWhole width word n → ¬width.Holds n → ofWord word = .string word) ∧
    (∀ word, (ofWord word).isFloat ↔ IsFloatWord word) ∧
    (∀ word, ¬IsFloatWord word → (∀ width n, ¬WritesWhole width word n) →
      (∀ n, ¬WritesTruth word n) → ofWord word = .string word) ∧
    (∀ (item : Reader Tag) (kind : ArrayKind) tokens words rest, Sequence OneWord tokens words →
      let array := .ok (.word kind.letter) :: .ok .semicolon ::
        (tokens.map .ok ++ .ok .closeBracket :: rest)
      (∀ ns, List.Forall₂ (WritesElement kind) words ns →
        ∃ v, readList item array = .ok (v, rest) ∧ v.arrayParts? = some (kind, ns)) ∧
      ∀ before word after, words = before ++ word :: after →
        (∀ w ∈ before, ∃ n, WritesElement kind w n) → (∀ n, ¬WritesElement kind word n) →
          readList item array = .error (.badElement word kind)) ∧
    ∀ s v, parse s = .ok v → ∃ tokens, Token.scan s = tokens.map .ok ++ [.ok .endOfText] ∧
      List.Forall₂ WritesArray (Token.arrays tokens) v.arrays := by
  refine ⟨fun _ _ _ => whole?_ofWord_iff, fun _ _ _ => ofWord_of_not_holds,
    fun _ => isFloat_ofWord_iff, fun _ => ofWord_of_other, ?_, fun _ _ => forall₂_arrays⟩
  intro item kind tokens words rest inside
  exact ⟨fun _ => readList_of_forall₂ inside rest, fun _ _ _ => readList_of_other inside rest⟩

/-- A number with a letter inside is none. -/
theorem not_writesWhole_hexadecimal (width : Width) (n : Int) : ¬WritesWhole width "0x10" n := by
  generalize same : "0x10" = word
  rintro ⟨number, letter⟩
  rename_i body ending
  have lists : ['0', 'x', '1', '0'] = body ++ ending := by simpa using congrArg String.toList same
  have ends : ending = [] ∨ ∃ c, ending = [c] ∧ c ≠ '0' := by
    cases width <;> grind [Width.endings]
  rcases ends with rfl | ⟨c, rfl, other⟩
  · rw [List.append_nil] at lists
    rw [← lists, ← readInt?_eq_some_iff] at number
    cases number
  · have last := congrArg List.getLast? lists
    rw [List.getLast?_concat] at last
    exact other (Option.some.inj last).symm

set_option maxRecDepth 20000 in
theorem whole_numbers_exact_limits :
    ofWord "300b" = .string "300b" ∧ ofWord "0x10" = .string "0x10" ∧
    readList (readValue 0) [.ok (.word "I"), .ok .semicolon, .ok (.word "-7"), .ok .comma,
      .ok (.word "8b"), .ok .closeBracket] = .error (.badElement "8b" .ints) ∧
    (∃ v, readList (readValue 0) [.ok (.word "L"), .ok .semicolon, .ok (.word "-7"),
      .ok .closeBracket] = .ok (v, []) ∧ v.arrayParts? = some (.longs, [-7])) ∧
    ∃ tokens, Token.scan "\x7b 'a b' : [I; 1, -2], n: TRUE, x: 3B \x7d" =
        tokens.map .ok ++ [.ok .endOfText] ∧
      List.Forall₂ WritesArray (Token.arrays tokens) spaced.arrays := by
  obtain ⟨-, wide, float, other, array, text⟩ := whole_numbers_exact
  have large : WritesWhole .byte "300b" 300 :=
    .mk (readInt?_eq_some_iff.1 (by cbv : readInt? ['3', '0', '0'] = some 300))
      (by decide : ['b'] ∈ Width.byte.endings)
  have hexadecimal : ¬IsFloatWord "0x10" := mt (float "0x10").2 (by cbv; simp)
  have seven : (ofWord "-7").whole? = some (.int, -7) := by cbv
  have eight : (ofWord "8b").whole? = some (.byte, 8) := by cbv
  have bad : ∀ n, ¬WritesElement .ints "8b" n := by
    intro n is
    rw [← element_iff, element_ints_iff, eight] at is
    cases is
  refine ⟨wide _ _ _ large (by decide), other _ hexadecimal not_writesWhole_hexadecimal ?_, ?_, ?_,
    text _ _ (by cbv)⟩
  · generalize same : "0x10" = word
    rintro _ ⟨⟩ <;> revert same <;> decide
  · have two : Sequence OneWord [.word "-7", .comma, .word "8b"] ["-7", "8b"] :=
      .series (.cons (OneWord.mk _) (.single (OneWord.mk _)))
    refine (array (readValue 0) .ints _ _ [] two).2 ["-7"] "8b" [] rfl ?_ bad
    simp only [List.mem_singleton, forall_eq]
    exact ⟨_, element_iff.1 (element_ints_iff.2 seven)⟩
  · have one : Sequence OneWord [.word "-7"] ["-7"] := .series (.single (.mk _))
    exact (array (readValue 0) .longs _ _ [] one).1 [-7]
      (.cons (element_iff.1 (element_longs_iff.2 (.inr seven))) .nil)

end Storyboard.Tag
