import Storyboard.Proofs.Tag.Grammar

/-!
# Readers of data patches recognise the grammar

The texts that can be read are those of the grammar, and what is read is the tree that the grammar
gives them.

## Main definitions

* `Tag.Recognises`: a reader takes exactly what a grammar allows.
* `Tag.readSequence`: the loop that all three kinds of brackets share.

## Main statements

* `Tag.recognises_readSequence`: the loop takes parts with commas between them.
* `Tag.recognises_readValue`: trees are read by the grammar, down to the depth that is left.
* `Tag.parse_eq_ok_iff_derives`: a text is read if and only if it is in the grammar.
-/

namespace Storyboard

namespace Tag

open Token (Lexeme)

variable {α : Type} {P Q : List Token → α → Prop} {tokens : List Token} {as : List α}

/-! ## Readers and grammars -/

/-- The reader takes what the grammar allows off the front of the tokens, and nothing else. -/
def Recognises (reader : Reader α) (P : List Token → α → Prop) : Prop :=
  ∀ pieces a rest, reader pieces = .ok (a, rest) ↔
    ∃ tokens, P tokens a ∧ pieces = tokens.map .ok ++ rest

theorem next_eq_ok_iff {token : Token} (h : token ≠ .endOfText) {pieces rest : List Lexeme} :
    next pieces = .ok (token, rest) ↔ pieces = .ok token :: rest := by
  rcases pieces with _ | ⟨_ | found, more⟩
  · simp [next, h.symm]
  · simp [next]
  · simp [next]

/-- The loop of all kinds of brackets: parts up to the closing one, at least one. -/
def readSeries (part : Reader α) (close : Token) (missing expected : Expected) :
    Nat → Reader (List α)
  | 0, _ => .error (.unexpected missing .endOfText)
  | fuel + 1, pieces => do
    let (first, rest) ← part pieces
    let (token, rest) ← next rest
    match token with
    | .comma =>
      let (more, rest) ← readSeries part close missing expected fuel rest
      return (first :: more, rest)
    | token => if token = close then return ([first], rest) else .error (.unexpected expected token)

/-- The parts between brackets, after the opening one. -/
def readSequence (part : Reader α) (close : Token) (missing expected : Expected) :
    Reader (List α) :=
  fun pieces =>
    if pieces.head? = some (.ok close) then .ok ([], pieces.tail)
    else readSeries part close missing expected (pieces.length + 1) pieces

theorem Series.length_le (h : Series P tokens as) : as.length ≤ tokens.length + 1 := by
  induction h with
  | single => simp
  | cons _ _ ih =>
    simp only [List.length_cons, List.length_append]
    omega

section Loop

variable {part : Reader α} {close : Token} {missing expected : Expected} {fuel : Nat}
  {pieces rest : List Lexeme}

/-- One round of the loop. -/
theorem readSeries_succ_eq_ok_iff (stop : close ≠ .comma) :
    readSeries part close missing expected (fuel + 1) pieces = .ok (as, rest) ↔
      ∃ first after, part pieces = .ok (first, after) ∧
        (next after = .ok (close, rest) ∧ as = [first] ∨
          ∃ later more, next after = .ok (.comma, later) ∧
            readSeries part close missing expected fuel later = .ok (more, rest) ∧
            as = first :: more) := by
  simp only [readSeries, bind_eq_ok_iff, Prod.exists]
  refine exists_congr fun first => exists_congr fun after => and_congr_right fun _ => ?_
  constructor
  · rintro ⟨token, later, found, done⟩
    split at done
    · obtain ⟨more, _, looped, done⟩ := by simpa only [bind_eq_ok_iff, Prod.exists] using done
      cases done
      exact .inr ⟨later, more, found, looped, rfl⟩
    · split at done
      next is =>
        cases done
        rw [is] at found
        exact .inl ⟨found, rfl⟩
      next => cases done
  · rintro (⟨found, rfl⟩ | ⟨later, more, found, looped, rfl⟩)
    · refine ⟨close, rest, found, ?_⟩
      split
      next => exact absurd rfl stop
      next => rw [if_pos rfl]; rfl
    · refine ⟨.comma, later, found, ?_⟩
      simp only [looped]
      rfl

theorem readSeries_eq_ok_iff (h : Recognises part P) (stop : close ≠ .comma)
    (text : close ≠ .endOfText) :
    readSeries part close missing expected fuel pieces = .ok (as, rest) ↔
      as.length ≤ fuel ∧ ∃ tokens, Series P tokens as ∧
        pieces = tokens.map .ok ++ .ok close :: rest := by
  induction fuel generalizing pieces as with
  | zero =>
    constructor
    · intro read
      cases read
    · rintro ⟨short, tokens, series, -⟩
      cases series <;> simp at short
  | succ fuel ih =>
    have comma : Token.comma ≠ .endOfText := by decide
    rw [readSeries_succ_eq_ok_iff stop]
    simp only [h _ _ _, next_eq_ok_iff text, next_eq_ok_iff comma, ih]
    constructor
    · rintro ⟨first, after, ⟨tokens, is, rfl⟩, ⟨rfl, rfl⟩ |
        ⟨later, more, rfl, ⟨short, others, series, rfl⟩, rfl⟩⟩
      · exact ⟨by simp, tokens, .single is, rfl⟩
      · refine ⟨by simpa using short, _, .cons is series, by simp⟩
    · rintro ⟨short, tokens, series, rfl⟩
      cases series with
      | single is => exact ⟨_, _, ⟨_, is, rfl⟩, .inl ⟨rfl, rfl⟩⟩
      | cons is series =>
        refine ⟨_, _, ⟨_, is, ?_⟩, .inr ⟨_, _, rfl, ⟨by simpa using short, _, series, rfl⟩, rfl⟩⟩
        simp

/-- Between brackets a reader takes parts with commas between them, if no part starts with the
closing one. -/
theorem recognises_readSequence (missing expected : Expected) (h : Recognises part P)
    (stop : close ≠ .comma) (text : close ≠ .endOfText)
    (front : ∀ tokens a, P tokens a → StartsOther close tokens) :
    Recognises (readSequence part close missing expected) fun tokens as =>
      ∃ inside, Sequence P inside as ∧ tokens = inside ++ [close] := by
  intro pieces as rest
  rw [readSequence]
  by_cases closed : pieces.head? = some (.ok close)
  · obtain ⟨tail, rfl⟩ := List.head?_eq_some_iff.1 closed
    rw [if_pos closed]
    constructor
    · intro read
      cases read
      exact ⟨[close], ⟨[], .nothing, rfl⟩, rfl⟩
    · rintro ⟨_, ⟨inside, parts, rfl⟩, split⟩
      cases parts with
      | nothing =>
        cases split
        rfl
      | series parts =>
        obtain ⟨first, more, rfl, other⟩ := parts.startsOther front
        simp only [List.cons_append, List.map_cons, List.cons.injEq, Except.ok.injEq] at split
        exact absurd split.1.symm other
  · rw [if_neg closed, readSeries_eq_ok_iff h stop text]
    constructor
    · rintro ⟨-, tokens, parts, rfl⟩
      exact ⟨_, ⟨tokens, .series parts, rfl⟩, by simp⟩
    · rintro ⟨_, ⟨inside, parts, rfl⟩, rfl⟩
      cases parts with
      | nothing => simp at closed
      | series parts =>
        refine ⟨?_, inside, parts, by simp⟩
        have := parts.length_le
        simp only [List.length_append, List.length_map, List.length_cons]
        omega

end Loop

/-! ## Parts -/

section Parts

variable {part : Reader α} {β : Type} {item : Reader Tag} {R : List Token → Tag → Prop}

theorem Recognises.congr (h : Recognises part P) (same : ∀ tokens a, P tokens a ↔ Q tokens a) :
    Recognises part Q := by
  intro pieces a rest
  simp only [h pieces a rest, same]

/-- Goes on with what a reader gives, away from the tokens. -/
def convert (part : Reader α) (f : α → Except Error β) : Reader β :=
  fun pieces => do
    let (a, rest) ← part pieces
    let b ← f a
    return (b, rest)

theorem Recognises.convert (h : Recognises part P) (f : α → Except Error β) :
    Recognises (convert part f) fun tokens b => ∃ a, P tokens a ∧ f a = .ok b := by
  intro pieces b rest
  simp only [Tag.convert, bind_eq_ok_iff, Prod.exists, h _ _ _]
  constructor
  · rintro ⟨a, after, ⟨tokens, is, rfl⟩, b, done, last⟩
    cases last
    exact ⟨tokens, ⟨a, is, done⟩, rfl⟩
  · rintro ⟨tokens, ⟨a, is, done⟩, rfl⟩
    exact ⟨a, rest, ⟨tokens, is, rfl⟩, b, done, rfl⟩

/-- One word of an array. -/
def readWord : Reader String :=
  fun pieces => next pieces >>= fun (token, rest) =>
    match token with
    | .word word => .ok (word, rest)
    | token => .error (.unexpected .number token)

theorem recognises_readWord : Recognises readWord OneWord := by
  intro pieces word rest
  simp only [readWord, bind_eq_ok_iff, Prod.exists]
  constructor
  · rintro ⟨token, after, found, done⟩
    split at done
    · cases done
      exact ⟨_, .mk word, (next_eq_ok_iff (by simp)).1 found⟩
    · cases done
  · rintro ⟨_, ⟨word⟩, rfl⟩
    exact ⟨_, _, rfl, rfl⟩

/-- One entry of a compound. -/
def readEntry (item : Reader Tag) : Reader (String × Tag) :=
  fun pieces => readKey pieces >>= fun (key, rest) =>
    item rest >>= fun (value, rest) => pure ((key, value), rest)

theorem readKey_eq_ok_iff {pieces rest : List Lexeme} {key : String} :
    readKey pieces = .ok (key, rest) ↔
      pieces = .ok (.word key) :: .ok .colon :: rest ∨
        pieces = .ok (.quoted key) :: .ok .colon :: rest := by
  constructor
  · intro read
    obtain ⟨⟨token, after⟩, first, read⟩ := bind_eq_ok_iff.1 read
    cases token with
    | word name | quoted name =>
      obtain ⟨_, same, read⟩ := bind_eq_ok_iff.1 read
      cases same
      obtain ⟨⟨mark, later⟩, second, done⟩ := bind_eq_ok_iff.1 read
      simp only at done
      split at done
      · cases done
        have name := (next_eq_ok_iff (by simp)).1 first
        have colon := (next_eq_ok_iff (by decide)).1 second
        simp [name, colon]
      · cases done
    | _ => cases read
  · rintro (rfl | rfl) <;> rfl

theorem recognises_readEntry (h : Recognises item R) : Recognises (readEntry item) (Entry R) := by
  intro pieces ⟨key, value⟩ rest
  simp only [readEntry, bind_eq_ok_iff, Prod.exists, readKey_eq_ok_iff, h _ _ _]
  constructor
  · rintro ⟨_, _, rfl | rfl, _, _, ⟨tokens, is, rfl⟩, last⟩
    · cases last
      exact ⟨_, .word key is, rfl⟩
    · cases last
      exact ⟨_, .quoted key is, rfl⟩
  · rintro ⟨_, is, rfl⟩
    cases is with
    | word key is => exact ⟨_, _, .inl rfl, _, _, ⟨_, is, rfl⟩, rfl⟩
    | quoted key is => exact ⟨_, _, .inr rfl, _, _, ⟨_, is, rfl⟩, rfl⟩

theorem readWords_eq_readSeries (fuel : Nat) (pieces : List Lexeme) :
    readWords fuel pieces =
      readSeries readWord .closeBracket .number .commaOrBracket fuel pieces := by
  induction fuel generalizing pieces with
  | zero => rfl
  | succ fuel ih =>
    simp only [readWords, readSeries, readWord, bind_assoc]
    refine bind_congr ?_
    rintro ⟨token, rest⟩
    cases token with
    | word word =>
      refine bind_congr ?_
      rintro ⟨token, rest⟩
      cases token <;> simp [ih]
    | _ => rfl

theorem readItems_eq_readSeries (item : Reader Tag) (fuel : Nat) (pieces : List Lexeme) :
    readItems item fuel pieces =
      readSeries item .closeBracket .value .commaOrBracket fuel pieces := by
  induction fuel generalizing pieces with
  | zero => rfl
  | succ fuel ih =>
    simp only [readItems, readSeries]
    refine bind_congr fun first => bind_congr ?_
    rintro ⟨token, rest⟩
    cases token <;> simp [ih]

theorem readEntries_eq_readSeries (item : Reader Tag) (fuel : Nat) (pieces : List Lexeme) :
    readEntries item fuel pieces =
      readSeries (readEntry item) .closeBrace .key .commaOrBrace fuel pieces := by
  induction fuel generalizing pieces with
  | zero => rfl
  | succ fuel ih =>
    simp only [readEntries, readSeries, readEntry, bind_assoc, pure_bind]
    refine bind_congr fun key => bind_congr fun value => bind_congr ?_
    rintro ⟨token, rest⟩
    cases token <;> simp [ih]

end Parts

/-! ## Brackets -/

section Brackets

variable {item : Reader Tag} {R : List Token → Tag → Prop} {pieces : List Lexeme} {v : Tag}

theorem readSequence_of_open {part : Reader α} {close : Token}
    (h : ∀ rest, pieces ≠ .ok close :: rest) (missing expected : Expected) :
    readSequence part close missing expected pieces =
      readSeries part close missing expected (pieces.length + 1) pieces := by
  rw [readSequence, if_neg]
  intro closed
  obtain ⟨rest, rfl⟩ := List.head?_eq_some_iff.1 closed
  exact h rest rfl

theorem readCompound_eq (item : Reader Tag) (pieces : List Lexeme) :
    readCompound item pieces =
      convert (readSequence (readEntry item) .closeBrace .key .commaOrBrace)
        (fun entries => .ok (.compound entries)) pieces := by
  fun_cases readCompound item pieces with
  | case1 rest => rfl
  | case2 pieces inside =>
    rw [convert, readSequence_of_open inside, readEntries_eq_readSeries]
    rfl

theorem readArray_eq (kind : ArrayKind) (pieces : List Lexeme) :
    readArray kind pieces =
      convert (readSequence readWord .closeBracket .number .commaOrBracket)
        (fun words => elements kind words >>= fun ns => .ok (ofElements kind ns)) pieces := by
  fun_cases readArray kind pieces with
  | case1 rest => rfl
  | case2 pieces inside =>
    rw [convert, readSequence_of_open inside, readWords_eq_readSeries]
    simp only [bind_assoc]
    rfl

theorem readList_eq (item : Reader Tag)
    (h : ∀ name rest, pieces ≠ .ok (.word name) :: .ok .semicolon :: rest) :
    readList item pieces =
      convert (readSequence item .closeBracket .value .commaOrBracket)
        (fun items => .ok (.list items)) pieces := by
  fun_cases readList item pieces with
  | case1 | case2 => exact absurd rfl (h _ _)
  | case3 rest => rfl
  | case4 pieces _ inside =>
    rw [convert, readSequence_of_open inside, readItems_eq_readSeries]
    rfl

theorem ofElement?_eq_some_iff {kind : ArrayKind} {word : String} {n : Int} :
    ofElement? kind word = some n ↔ Element kind word n := by
  constructor
  · intro read
    unfold ofElement? at read
    split at read
    · split at read
      next m byte =>
        cases read
        exact .byte byte
      next =>
        obtain ⟨m, small, rfl⟩ := Option.map_eq_some_iff.1 read
        have lower := m.le_toInt
        have upper := m.toInt_lt
        -- The number also fits into the width of words without a letter.
        have wide : (Int32.ofInt m.toInt).toInt = m.toInt :=
          Int32.toInt_ofInt_of_le (by omega) (by omega)
        have is : ofWord word = .int (Int32.ofInt m.toInt) := by
          rw [ofWord_eq_int_iff, wide]
          exact readInt8?_eq_some_iff.1 small
        rw [← wide]
        exact .smallInt is (by omega) (by omega)
    · split at read
      next m int =>
        cases read
        exact .int int
      next => cases read
    · split at read
      next m long =>
        cases read
        exact .long long
      next m int =>
        cases read
        exact .intAsLong int
      next => cases read
  · intro is
    cases is with
    | @smallInt _ m is lower upper =>
      have narrow : (Int8.ofInt m.toInt).toInt = m.toInt :=
        Int8.toInt_ofInt_of_le (by omega) (by omega)
      have small : readInt8? word.toList = some (Int8.ofInt m.toInt) := by
        rw [readInt8?_eq_some_iff, narrow]
        exact ofWord_eq_int_iff.1 is
      simp only [ofElement?, is, small, Option.map_some, narrow]
    | byte is | int is | long is | intAsLong is => simp only [ofElement?, is]

theorem elements_eq_ok_iff {kind : ArrayKind} {words : List String} {ns : List Int} :
    elements kind words = .ok ns ↔ List.Forall₂ (Element kind) words ns := by
  rw [elements, mapM_eq_ok_iff]
  constructor
  · refine List.Forall₂.imp fun word n read => ?_
    rw [← ofElement?_eq_some_iff]
    split at read
    next found =>
      cases read
      exact found
    next => cases read
  · refine List.Forall₂.imp fun word n is => ?_
    rw [ofElement?_eq_some_iff.2 is]

theorem recognises_readCompound (h : Recognises item R) :
    Recognises (readCompound item) fun tokens v =>
      ∃ inside entries, Sequence (Entry R) inside entries ∧ tokens = inside ++ [.closeBrace] ∧
        v = .compound entries := by
  have front : ∀ tokens entry, Entry R tokens entry → StartsOther .closeBrace tokens := by
    intro tokens entry is
    cases is <;> exact ⟨_, _, rfl, by simp⟩
  have parts := recognises_readSequence .key .commaOrBrace (recognises_readEntry h)
    (by decide) (by decide) front
  rw [funext (readCompound_eq item)]
  refine (parts.convert _).congr fun tokens v => ?_
  grind

/-- The words of an array, up to its closing bracket. -/
theorem recognises_words :
    Recognises (readSequence readWord .closeBracket .number .commaOrBracket) fun tokens words =>
      ∃ inside, Sequence OneWord inside words ∧ tokens = inside ++ [.closeBracket] := by
  have front : ∀ tokens word, OneWord tokens word → StartsOther .closeBracket tokens := by
    rintro _ _ ⟨word⟩
    exact ⟨_, _, rfl, by simp⟩
  exact recognises_readSequence .number .commaOrBracket recognises_readWord (by decide) (by decide)
    front

theorem recognises_readArray (kind : ArrayKind) :
    Recognises (readArray kind) fun tokens v =>
      ∃ inside words ns, Sequence OneWord inside words ∧
        List.Forall₂ (Element kind) words ns ∧ tokens = inside ++ [.closeBracket] ∧
        v = ofElements kind ns := by
  rw [funext (readArray_eq kind)]
  refine (recognises_words.convert _).congr fun tokens v => ?_
  simp only [bind_eq_ok_iff, elements_eq_ok_iff]
  grind

theorem ArrayKind.ofName?_eq_some_iff {name : String} {kind : ArrayKind} :
    ArrayKind.ofName? name = some kind ↔ kind.letter = name := by
  constructor
  · intro found
    simpa using List.find?_some found
  · rintro rfl
    cases kind <;> rfl

/-- Behind an opening bracket, a word and a semicolon are the type of an array. -/
theorem readList_type_eq_ok_iff {name : String} {rest : List Lexeme} :
    readList item (.ok (.word name) :: .ok .semicolon :: pieces) = .ok (v, rest) ↔
      ∃ kind : ArrayKind, kind.letter = name ∧ readArray kind pieces = .ok (v, rest) := by
  simp only [readList, ← ArrayKind.ofName?_eq_some_iff]
  cases ArrayKind.ofName? name <;> simp

theorem recognises_readList (h : Recognises item R)
    (front : ∀ tokens v, R tokens v → StartsOther .closeBracket tokens) :
    Recognises (readList item) fun tokens v =>
      (∃ inside items, Sequence R inside items ∧
        (∀ name rest, inside ≠ .word name :: .semicolon :: rest) ∧
        tokens = inside ++ [.closeBracket] ∧ v = .list items) ∨
      ∃ kind inside words ns, Sequence OneWord inside words ∧
        List.Forall₂ (Element kind) words ns ∧
        tokens = .word kind.letter :: .semicolon :: (inside ++ [.closeBracket]) ∧
        v = ofElements kind ns := by
  intro pieces v rest
  by_cases array : ∃ name more, pieces = .ok (.word name) :: .ok .semicolon :: more
  · obtain ⟨name, more, rfl⟩ := array
    rw [readList_type_eq_ok_iff]
    simp only [recognises_readArray _ _ _ _]
    constructor
    · rintro ⟨kind, rfl, _, ⟨inside, words, ns, parts, values, rfl, rfl⟩, rfl⟩
      exact ⟨_, .inr ⟨kind, inside, words, ns, parts, values, rfl, rfl⟩, rfl⟩
    · rintro ⟨_, ⟨inside, items, -, other, rfl, -⟩ |
        ⟨kind, inside, words, ns, parts, values, rfl, rfl⟩, split⟩
      · -- A list whose tokens start like those of an array.
        rcases inside with _ | ⟨first, _ | ⟨second, inside⟩⟩
        · simp at split
        · simp at split
        · simp only [List.cons_append, List.map_cons, List.cons.injEq, Except.ok.injEq] at split
          obtain ⟨rfl, rfl, -⟩ := split
          exact absurd rfl (other _ _)
      · simp only [List.cons_append, List.map_cons, List.cons.injEq, Except.ok.injEq,
          Token.word.injEq, true_and] at split
        obtain ⟨rfl, rfl⟩ := split
        exact ⟨kind, rfl, _, ⟨inside, words, ns, parts, values, rfl, rfl⟩, rfl⟩
  · push Not at array
    have parts := recognises_readSequence .value .commaOrBracket h (by decide) (by decide) front
    rw [readList_eq item array, (parts.convert _) pieces v rest]
    constructor
    · rintro ⟨_, ⟨items, ⟨inside, parts, rfl⟩, done⟩, rfl⟩
      cases done
      refine ⟨_, .inl ⟨inside, items, parts, ?_, rfl, rfl⟩, rfl⟩
      rintro name rest rfl
      exact array _ _ rfl
    · rintro ⟨_, ⟨inside, items, parts, -, rfl, rfl⟩ | ⟨kind, inside, words, ns, -, -, rfl, -⟩, rfl⟩
      · exact ⟨_, ⟨items, ⟨inside, parts, rfl⟩, rfl⟩, rfl⟩
      · exact absurd rfl (array _ _)

end Brackets

/-! ## Trees -/

section Steps

variable (d : Nat) (pieces : List Lexeme)

theorem readValue_word (word : String) :
    readValue d (.ok (.word word) :: pieces) = .ok (ofWord word, pieces) := by
  rw [readValue]
  rfl

theorem readValue_quoted (text : String) :
    readValue d (.ok (.quoted text) :: pieces) = .ok (.string text, pieces) := by
  rw [readValue]
  rfl

theorem readValue_openBrace :
    readValue d (.ok .openBrace :: pieces) =
      match d with
      | 0 => .error .tooDeep
      | d + 1 => readCompound (readValue d) pieces := by
  rw [readValue]
  rfl

theorem readValue_openBracket :
    readValue d (.ok .openBracket :: pieces) =
      match d with
      | 0 => .error .tooDeep
      | d + 1 => readList (readValue d) pieces := by
  rw [readValue]
  rfl

end Steps

section Trees

variable {d : Nat} {v : Tag}

theorem exists_first_of_readValue {pieces rest : List Lexeme}
    (read : readValue d pieces = .ok (v, rest)) :
    ∃ first more, pieces = .ok first :: more ∧ Starts d first := by
  rw [readValue] at read
  obtain ⟨⟨first, more⟩, found, read⟩ := bind_eq_ok_iff.1 read
  have starts : Starts d first := by
    simp only at read
    split at read
    · cases d with
      | zero => cases read
      | succ => exact .openBrace
    · cases d with
      | zero => cases read
      | succ => exact .openBracket
    · exact .quoted _
    · exact .word _
    · cases read
  refine ⟨first, more, (next_eq_ok_iff ?_).1 found, starts⟩
  cases starts <;> simp

/-- Behind its first token, a tree is read by the reader for one level less. -/
theorem readValue_cons_eq_ok_iff {first : Token} {more rest : List Lexeme} (h : Starts d first)
    (ih : ∀ left < d, Recognises (readValue left) (DerivesWithin left)) :
    readValue d (.ok first :: more) = .ok (v, rest) ↔
      ∃ tokens, DerivesWithin d (first :: tokens) v ∧ more = tokens.map .ok ++ rest := by
  cases h with
  | word word =>
    rw [readValue_word]
    simp [derivesWithin_word, and_assoc, eq_comm]
  | quoted text =>
    rw [readValue_quoted]
    simp [derivesWithin_quoted, and_assoc, eq_comm]
  | @openBrace left =>
    rw [readValue_openBrace]
    simp only [derivesWithin_brace]
    exact recognises_readCompound (ih left (by omega)) more v rest
  | @openBracket left =>
    rw [readValue_openBracket]
    simp only [derivesWithin_bracket]
    exact recognises_readList (ih left (by omega)) (fun _ _ is => is.1.startsOther) more v rest

/-- Trees are read by the grammar, down to the depth that is left. -/
theorem recognises_readValue (d : Nat) : Recognises (readValue d) (DerivesWithin d) := by
  induction d using Nat.strong_induction_on with
  | _ d ih =>
    intro pieces v rest
    constructor
    · intro read
      obtain ⟨first, more, rfl, starts⟩ := exists_first_of_readValue read
      obtain ⟨tokens, is, rfl⟩ := (readValue_cons_eq_ok_iff starts ih).1 read
      exact ⟨_, is, rfl⟩
    · rintro ⟨tokens, is, rfl⟩
      obtain ⟨first, more, rfl, starts⟩ := is.exists_first
      exact (readValue_cons_eq_ok_iff starts ih).2 ⟨more, is, rfl⟩

end Trees

end Tag

/-! ## Texts -/

namespace Token

theorem readPiece_ne_endOfText (c : Char) (rest : List Char) :
    (readPiece c rest).1 ≠ .ok .endOfText := by
  unfold readPiece
  split
  next token symbol =>
    rintro ⟨⟩
    unfold symbol? at symbol
    split at symbol <;> cases symbol
  next =>
    split
    · split <;> simp
    · split <;> simp

/-- The end of a text is found once, as the last piece. -/
theorem exists_scan (s : String) :
    ∃ pieces, scan s = pieces ++ [.ok .endOfText] ∧ .ok .endOfText ∉ pieces := by
  rw [scan]
  fun_induction scanChars s.toList with
  | case1 cs => exact ⟨[], rfl, by simp⟩
  | case2 cs c rest _ piece ih =>
    obtain ⟨pieces, split, once⟩ := ih
    refine ⟨piece.1 :: pieces, by rw [split, List.cons_append], ?_⟩
    rw [List.mem_cons, not_or]
    exact ⟨(readPiece_ne_endOfText c rest).symm, once⟩

end Token

namespace Tag

open Token (Lexeme)

variable {s : String} {v : Tag}

/-- Where the end of the text follows a tree, nothing else does. -/
theorem Derives.eq_end {tokens : List Token} {rest after : List Lexeme} (h : Derives tokens v)
    (whole : Token.scan s = tokens.map .ok ++ rest) (found : next rest = .ok (.endOfText, after)) :
    rest = [.ok .endOfText] := by
  obtain ⟨pieces, split, once⟩ := Token.exists_scan s
  rw [split] at whole
  rcases rest with _ | ⟨cause | token, rest⟩
  · have last := congrArg List.getLast? whole
    simp only [List.append_nil, List.getLast?_concat, List.getLast?_map] at last
    obtain ⟨token, last, same⟩ := Option.map_eq_some_iff.1 last.symm
    cases same
    exact absurd last h.getLast?_ne
  · cases found
  · cases found
    rcases after.eq_nil_or_concat with rfl | ⟨init, last, rfl⟩
    · rfl
    · rw [List.concat_eq_append, ← List.cons_append, ← List.append_assoc] at whole
      have front := (List.append_inj' whole rfl).1
      exact absurd (by simp [front]) once

theorem parse_eq_ok_iff :
    parse s = .ok v ↔
      (∃ entries, v = .compound entries) ∧ ∃ rest after,
        readValue maxDepth (Token.scan s) = .ok (v, rest) ∧
          next rest = .ok (.endOfText, after) := by
  simp only [parse, bind_eq_ok_iff, Prod.exists]
  constructor
  · rintro ⟨tag, rest, read, token, after, found, done⟩
    split at done
    · cases done
    next last =>
      rw [not_not] at last
      rw [last] at found
      split at done
      · cases done
        exact ⟨⟨_, rfl⟩, rest, after, read, found⟩
      · cases done
  · rintro ⟨⟨entries, rfl⟩, rest, after, read, found⟩
    exact ⟨_, _, read, _, _, found, rfl⟩

/-- A text is read as a tree if and only if all of it is tokens, these have the tree in the grammar,
the tree is a compound, and at most 512 brackets are open at once. -/
theorem parse_eq_ok_iff_derives (s : String) (v : Tag) :
    parse s = .ok v ↔
      ∃ tokens entries, Token.scan s = tokens.map .ok ++ [.ok .endOfText] ∧ Derives tokens v ∧
        v = .compound entries ∧ Token.nesting tokens ≤ 512 := by
  rw [parse_eq_ok_iff]
  simp only [recognises_readValue _ _ _ _]
  constructor
  · rintro ⟨⟨entries, rfl⟩, rest, after, ⟨tokens, ⟨is, fits⟩, whole⟩, found⟩
    refine ⟨tokens, entries, ?_, is, rfl, ?_⟩
    · rw [whole, is.eq_end whole found]
    · rw [is.nesting_eq]
      exact fits
  · rintro ⟨tokens, entries, whole, is, rfl, fits⟩
    rw [is.nesting_eq] at fits
    exact ⟨⟨entries, rfl⟩, _, _, ⟨tokens, ⟨is, fits⟩, whole⟩, rfl⟩

end Tag

end Storyboard
