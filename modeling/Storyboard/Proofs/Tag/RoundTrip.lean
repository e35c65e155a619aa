import Storyboard.Proofs.Tag.Recognition

/-!
# Printed trees are read back

The text of a tree is read as the tree, or given up for being nested too deep, and nothing else can
happen to it. Trees that were read are never nested too deep, so their text is a canonical form.

## Main definitions

* `Tag.Reads`: what reading does to the text of a tree.

## Main statements

* `Tag.reads`: every tree is read back within the depth that is left.
* `Tag.parse_text`: printing is undone by reading.
-/

namespace Storyboard.Tag

open Token (scanChars isWordChar IsWord)

variable {d : Nat} {tag : Tag} {rest : List Char}

/-! ## Induction over trees

The three kinds of arrays are treated as one, by their kind and their elements. -/

/-- The kind and the elements of an array. -/
def arrayParts? : Tag → Option (ArrayKind × List Int)
  | .byteArray items => some (.bytes, items.map (·.toInt))
  | .intArray items => some (.ints, items.map (·.toInt))
  | .longArray items => some (.longs, items.map (·.toInt))
  | _ => none

/-- A property holds of every tree if it passes from the parts of a tree to the tree. -/
theorem induction {P : Tag → Prop} (number : ∀ v, v.isNumber → P v) (string : ∀ s, P (.string s))
    (array : ∀ v kind ns, v.arrayParts? = some (kind, ns) → P v)
    (list : ∀ items, (∀ v ∈ items, P v) → P (.list items))
    (compound : ∀ entries, (∀ e ∈ entries, P e.2) → P (.compound entries)) (v : Tag) : P v := by
  match v with
  | .byte _ | .short _ | .int _ | .long _ | .float _ | .double _ => exact number _ rfl
  | .string s => exact string s
  | .byteArray _ | .intArray _ | .longArray _ => exact array _ _ _ rfl
  | .list items => exact list items fun v _ => induction number string array list compound v
  | .compound entries =>
    exact compound entries fun e _ => induction number string array list compound e.2
termination_by v
decreasing_by
  · have := List.sizeOf_lt_of_mem ‹v ∈ items›
    simp only [Tag.list.sizeOf_spec]
    omega
  · have := List.sizeOf_lt_of_mem ‹e ∈ entries›
    obtain ⟨name, value⟩ := e
    simp only [Tag.compound.sizeOf_spec, Prod.mk.sizeOf_spec] at this ⊢
    omega

/-- The text of one element of an array. -/
def elementChars : ArrayKind → Int → List Char
  | .bytes, n => writeInt n ++ ['b']
  | .ints, n => writeInt n
  | .longs, n => writeInt n ++ ['L']

section Arrays

variable {kind : ArrayKind} {ns : List Int}

theorem isWord_elementChars (kind : ArrayKind) (n : Int) : IsWord (elementChars kind n) := by
  cases kind with
  | ints => exact Token.isWord_writeInt n
  | bytes | longs => exact (Token.isWord_writeInt n).concat rfl

/-- An array is printed as its letter and its elements. -/
theorem chars_array (h : tag.arrayParts? = some (kind, ns)) :
    chars tag =
      '[' :: (kind.letter.toList ++ ';' :: (separated (ns.map (elementChars kind)) ++ [']'])) := by
  cases tag with
  | byteArray | intArray | longArray =>
    obtain ⟨rfl, rfl⟩ := Prod.mk.inj (Option.some.inj h)
    rw [chars, List.map_map]
    rfl
  | _ => cases h

theorem ofElements_array (h : tag.arrayParts? = some (kind, ns)) : ofElements kind ns = tag := by
  cases tag with
  | byteArray | intArray | longArray =>
    obtain ⟨rfl, rfl⟩ := Prod.mk.inj (Option.some.inj h)
    simp [ofElements, Function.comp_def]
  | _ => cases h

theorem depth_array (h : tag.arrayParts? = some (kind, ns)) : tag.depth = 1 := by
  cases tag with
  | byteArray | intArray | longArray => rw [depth]
  | _ => cases h

theorem ofElement?_array (h : tag.arrayParts? = some (kind, ns)) :
    ∀ n ∈ ns, ofElement? kind (String.ofList (elementChars kind n)) = some n := by
  intro n mem
  cases tag with
  | byteArray items =>
    obtain ⟨rfl, rfl⟩ := Prod.mk.inj (Option.some.inj h)
    obtain ⟨k, -, rfl⟩ := List.mem_map.1 mem
    have word : ofWord (String.ofList (elementChars .bytes k.toInt)) = .byte k := ofWord_byte k
    simp only [ofElement?, word]
  | intArray items =>
    obtain ⟨rfl, rfl⟩ := Prod.mk.inj (Option.some.inj h)
    obtain ⟨k, -, rfl⟩ := List.mem_map.1 mem
    have word : ofWord (String.ofList (elementChars .ints k.toInt)) = .int k := ofWord_int k
    simp only [ofElement?, word]
  | longArray items =>
    obtain ⟨rfl, rfl⟩ := Prod.mk.inj (Option.some.inj h)
    obtain ⟨k, -, rfl⟩ := List.mem_map.1 mem
    have word : ofWord (String.ofList (elementChars .longs k.toInt)) = .long k := ofWord_long k
    simp only [ofElement?, word]
  | _ => cases h

end Arrays

/-! ## Printed pieces are pieces

Each loop of the reader runs as often as there are tokens, so a printed piece has to give at least
one. -/

/-- The piece adds at least one token to what follows it. -/
def Grows (piece : List Char) : Prop :=
  ∀ rest, Stops isWordChar rest →
    (scanChars rest).length < (scanChars (piece ++ rest)).length

theorem grows_word {word : List Char} (h : IsWord word) : Grows word := by
  intro rest stop
  simp [Token.scanChars_word h stop]

theorem grows_stringChars (s : String) : Grows (stringChars s) := by
  rw [stringChars]
  split
  next bare => exact grows_word (ofWord_of_isBare bare).1
  next =>
    intro rest _
    simp [Token.scanChars_quoted]

theorem length_separated {pieces : List (List Char)} (h : ∀ p ∈ pieces, Grows p)
    (stop : Stops isWordChar rest) :
    pieces.length + (scanChars rest).length ≤ (scanChars (separated pieces ++ rest)).length := by
  induction pieces with
  | nil => simp [separated]
  | cons first more ih =>
    obtain ⟨one, tail⟩ := List.forall_mem_cons.1 h
    cases more with
    | nil =>
      have := one rest stop
      simp only [separated, List.length_cons, List.length_nil]
      omega
    | cons next more =>
      have here := one (',' :: (separated (next :: more) ++ rest)) (stops_cons.2 rfl)
      have there := ih tail
      rw [Token.scanChars_symbol rfl] at here
      simp only [separated, List.append_assoc, List.cons_append, List.length_cons] at here there ⊢
      omega

theorem itemChars_eq_map (items : List Tag) : itemChars items = items.map chars := by
  induction items with
  | nil => rw [itemChars, List.map_nil]
  | cons first more ih => rw [itemChars, ih, List.map_cons]

theorem entryChars_eq_map (entries : List (String × Tag)) :
    entryChars entries = entries.map fun e => stringChars e.1 ++ ':' :: chars e.2 := by
  induction entries with
  | nil => rw [entryChars, List.map_nil]
  | cons first more ih => rw [entryChars, ih, List.map_cons]

/-- Brackets around separated pieces. -/
theorem grows_bracketed {opening closing : Char} {first last : Token}
    (ho : Token.symbol? opening = some first) (hc : Token.symbol? closing = some last)
    {pieces : List (List Char)} (h : ∀ p ∈ pieces, Grows p) :
    Grows (opening :: (separated pieces ++ [closing])) := by
  intro rest _
  have stop : Stops isWordChar (closing :: rest) := stops_cons.2 (Token.isWordChar_of_symbol? hc)
  have inside := length_separated h stop
  rw [Token.scanChars_symbol hc] at inside
  rw [List.cons_append, List.append_assoc, List.singleton_append, Token.scanChars_symbol ho]
  simp only [List.length_cons] at inside ⊢
  omega

/-- The type of an array in front of its elements. -/
theorem scanChars_arrayType (kind : ArrayKind) (rest : List Char) :
    scanChars ('[' :: (kind.letter.toList ++ ';' :: rest)) =
      .ok .openBracket :: .ok (.word kind.letter) :: .ok .semicolon :: scanChars rest := by
  have word : IsWord kind.letter.toList := by
    cases kind <;> exact ⟨by decide, List.all_eq_true.1 (by decide)⟩
  rw [Token.scanChars_symbol rfl, Token.scanChars_word word (stops_cons.2 rfl),
    Token.scanChars_symbol rfl, String.ofList_toList]

theorem grows_elementChars (kind : ArrayKind) (ns : List Int) :
    ∀ p ∈ ns.map (elementChars kind), Grows p := by
  intro p hp
  obtain ⟨n, -, rfl⟩ := List.mem_map.1 hp
  exact grows_word (isWord_elementChars kind n)

theorem grows_entry (name : String) {value : List Char} (h : Grows value) :
    Grows (stringChars name ++ ':' :: value) := by
  intro rest stop
  have after := h rest stop
  have key := grows_stringChars name (':' :: (value ++ rest)) (stops_cons.2 rfl)
  rw [Token.scanChars_symbol rfl] at key
  simp only [List.append_assoc, List.cons_append, List.length_cons] at key ⊢
  omega

theorem grows_chars (v : Tag) : Grows (chars v) := by
  induction v using induction with
  | number v h => exact grows_word (ofWord_chars h).1
  | string s =>
    rw [chars]
    exact grows_stringChars s
  | array v kind ns h =>
    intro rest _
    have stop : Stops isWordChar (']' :: rest) := stops_cons.2 rfl
    have inside := length_separated (grows_elementChars kind ns) stop
    rw [Token.scanChars_symbol rfl] at inside
    simp only [chars_array h, List.cons_append, List.append_assoc, List.nil_append,
      scanChars_arrayType, List.length_cons] at inside ⊢
    omega
  | list items ih =>
    rw [chars, itemChars_eq_map]
    refine grows_bracketed rfl rfl fun p hp => ?_
    obtain ⟨item, mem, rfl⟩ := List.mem_map.1 hp
    exact ih item mem
  | compound entries ih =>
    rw [chars, entryChars_eq_map]
    refine grows_bracketed rfl rfl fun p hp => ?_
    obtain ⟨entry, mem, rfl⟩ := List.mem_map.1 hp
    exact grows_entry entry.1 (ih entry mem)

/-! ## Loops of the reader -/

/-- What reading does to the text of a tree: it gives the tree if the depth that is left suffices,
whatever follows the text. -/
def Reads (d : Nat) (v : Tag) : Prop :=
  ∀ rest, Stops isWordChar rest →
    readValue d (scanChars (chars v ++ rest)) =
      if v.depth ≤ d then .ok (v, scanChars rest) else .error .tooDeep

theorem readWords_separated {words : List (List Char)} {fuel : Nat} (some : words ≠ [])
    (enough : words.length ≤ fuel) (h : ∀ w ∈ words, IsWord w) :
    readWords fuel (scanChars (separated words ++ ']' :: rest)) =
      .ok (words.map String.ofList, scanChars rest) := by
  induction words generalizing fuel with
  | nil => exact absurd rfl some
  | cons first more ih =>
    obtain ⟨fuel, rfl⟩ : ∃ n, fuel = n + 1 := ⟨fuel - 1, by simp at enough; omega⟩
    obtain ⟨one, tail⟩ := List.forall_mem_cons.1 h
    cases more with
    | nil =>
      rw [separated, Token.scanChars_word one (stops_cons.2 rfl), Token.scanChars_symbol rfl]
      rfl
    | cons next more =>
      rw [separated, List.append_assoc, List.cons_append,
        Token.scanChars_word one (stops_cons.2 rfl), Token.scanChars_symbol rfl]
      have rest := ih (by simp) (by simpa using enough) tail
      simp only [readWords, Tag.next, rest, bind, Except.bind, pure, Except.pure, List.map_cons]

theorem elements_of_forall {kind : ArrayKind} {ns : List Int} {write : Int → String}
    (h : ∀ n ∈ ns, ofElement? kind (write n) = some n) :
    elements kind (ns.map write) = .ok ns := by
  rw [elements_eq_ok_iff, List.forall₂_map_left_iff, List.forall₂_same]
  exact fun n mem => ofElement?_eq_some_iff.1 (h n mem)

theorem readItems_separated {items : List Tag} {fuel : Nat} (some : items ≠ [])
    (enough : items.length ≤ fuel) (h : ∀ v ∈ items, Reads d v) :
    readItems (readValue d) fuel (scanChars (separated (items.map chars) ++ ']' :: rest)) =
      if itemsDepth items ≤ d then .ok (items, scanChars rest) else .error .tooDeep := by
  induction items generalizing fuel with
  | nil => exact absurd rfl some
  | cons first more ih =>
    obtain ⟨fuel, rfl⟩ : ∃ n, fuel = n + 1 := ⟨fuel - 1, by simp at enough; omega⟩
    obtain ⟨one, tail⟩ := List.forall_mem_cons.1 h
    cases more with
    | nil =>
      simp only [List.map_cons, List.map_nil, separated, readItems, itemsDepth,
        one (']' :: rest) (stops_cons.2 rfl), Nat.max_zero]
      split
      · rw [Token.scanChars_symbol rfl]
        rfl
      · rfl
    | cons next more =>
      have rest := ih (by simp) (by simpa using enough) tail
      rw [List.map_cons] at rest
      simp only [List.map_cons, separated, readItems, List.append_assoc, List.cons_append]
      rw [one _ (stops_cons.2 rfl), itemsDepth]
      by_cases here : first.depth ≤ d
      · rw [if_pos here, Token.scanChars_symbol rfl]
        simp only [bind, Except.bind, Tag.next, rest]
        by_cases there : itemsDepth (next :: more) ≤ d
        · rw [if_pos there, if_pos (Nat.max_le.2 ⟨here, there⟩)]
          rfl
        · rw [if_neg there, if_neg fun fits => there (Nat.max_le.1 fits).2]
      · rw [if_neg here, if_neg fun fits => here (Nat.max_le.1 fits).1]
        rfl

theorem readKey_stringChars (name : String) (rest : List Char) :
    readKey (scanChars (stringChars name ++ ':' :: rest)) = .ok (name, scanChars rest) := by
  rw [stringChars]
  split
  next bare =>
    rw [Token.scanChars_word (ofWord_of_isBare bare).1 (stops_cons.2 rfl),
      Token.scanChars_symbol rfl, String.ofList_toList]
    rfl
  next =>
    rw [Token.scanChars_quoted, Token.scanChars_symbol rfl, String.ofList_toList]
    rfl

theorem readEntries_separated {entries : List (String × Tag)} {fuel : Nat} (some : entries ≠ [])
    (enough : entries.length ≤ fuel) (h : ∀ e ∈ entries, Reads d e.2) :
    readEntries (readValue d) fuel
        (scanChars (separated (entries.map fun e => stringChars e.1 ++ ':' :: chars e.2) ++
          '\x7d' :: rest)) =
      if entriesDepth entries ≤ d then .ok (entries, scanChars rest) else .error .tooDeep := by
  induction entries generalizing fuel with
  | nil => exact absurd rfl some
  | cons first more ih =>
    obtain ⟨fuel, rfl⟩ : ∃ n, fuel = n + 1 := ⟨fuel - 1, by simp at enough; omega⟩
    obtain ⟨one, tail⟩ := List.forall_mem_cons.1 h
    cases more with
    | nil =>
      simp only [List.map_cons, List.map_nil, separated, readEntries, List.append_assoc,
        List.cons_append, readKey_stringChars, entriesDepth, Nat.max_zero, bind, Except.bind]
      rw [one ('\x7d' :: rest) (stops_cons.2 rfl)]
      by_cases here : first.2.depth ≤ d
      · rw [if_pos here, if_pos here, Token.scanChars_symbol rfl]
        rfl
      · rw [if_neg here, if_neg here]
    | cons next more =>
      have rest := ih (by simp) (by simpa using enough) tail
      rw [List.map_cons] at rest
      simp only [List.map_cons, separated, readEntries, List.append_assoc, List.cons_append,
        readKey_stringChars, bind, Except.bind] at rest ⊢
      rw [one _ (stops_cons.2 rfl), entriesDepth]
      by_cases here : first.2.depth ≤ d
      · rw [if_pos here, Token.scanChars_symbol rfl]
        simp only [Tag.next, rest]
        by_cases there : entriesDepth (next :: more) ≤ d
        · rw [if_pos there, if_pos (Nat.max_le.2 ⟨here, there⟩)]
          rfl
        · rw [if_neg there, if_neg fun fits => there (Nat.max_le.1 fits).2]
      · rw [if_neg here, if_neg fun fits => here (Nat.max_le.1 fits).1]

/-! ## Arrays, lists and compounds -/

theorem scanChars_separated {word : List Char} (h : IsWord word) (words : List (List Char))
    (rest : List Char) :
    ∃ pieces, scanChars (separated (word :: words) ++ ']' :: rest) =
      .ok (.word (String.ofList word)) :: pieces := by
  cases words with
  | nil => exact ⟨_, Token.scanChars_word h (stops_cons.2 rfl)⟩
  | cons next more =>
    rw [separated, List.append_assoc]
    exact ⟨_, Token.scanChars_word h (stops_cons.2 rfl)⟩

theorem readArray_chars {kind : ArrayKind} {ns : List Int} (h : tag.arrayParts? = some (kind, ns)) :
    readArray kind (scanChars (separated (ns.map (elementChars kind)) ++ ']' :: rest)) =
      .ok (tag, scanChars rest) := by
  have stop : Stops isWordChar (']' :: rest) := stops_cons.2 rfl
  have enough := length_separated (grows_elementChars kind ns) stop
  have whole := ofElements_array h
  have values : elements kind (ns.map (String.ofList ∘ elementChars kind)) = .ok ns :=
    elements_of_forall (ofElement?_array h)
  have words : ∀ w ∈ ns.map (elementChars kind), IsWord w := by
    intro w hw
    obtain ⟨n, -, rfl⟩ := List.mem_map.1 hw
    exact isWord_elementChars kind n
  cases ns with
  | nil =>
    rw [List.map_nil, separated, List.nil_append, Token.scanChars_symbol rfl]
    exact congrArg (fun v => Except.ok (v, scanChars rest)) whole
  | cons n ns =>
    obtain ⟨pieces, front⟩ :=
      scanChars_separated (isWord_elementChars kind n) (ns.map (elementChars kind)) rest
    rw [← List.map_cons (f := elementChars kind)] at front
    have read : readWords (pieces.length + 2)
        (.ok (.word (String.ofList (elementChars kind n))) :: pieces) =
        .ok (((n :: ns).map (elementChars kind)).map String.ofList, scanChars rest) := by
      rw [← front]
      refine readWords_separated (by simp) ?_ words
      rw [front, List.length_cons] at enough
      omega
    rw [front, readArray, List.length_cons, read]
    · simp only [List.map_map, bind, Except.bind, values, pure, Except.pure, whole]
    · simp

/-- The first token of a tree. Behind a word there is what follows the tree. -/
theorem scanChars_chars (v : Tag) (stop : Stops isWordChar rest) :
    ∃ token pieces, scanChars (chars v ++ rest) = .ok token :: pieces ∧
      (token = .openBrace ∨ token = .openBracket ∨ (∃ text, token = .quoted text) ∨
        (∃ word, token = .word word ∧ pieces = scanChars rest)) := by
  induction v using induction with
  | number v h =>
    exact ⟨_, _, Token.scanChars_word (ofWord_chars h).1 stop, .inr (.inr (.inr ⟨_, rfl, rfl⟩))⟩
  | string s =>
    rw [chars, stringChars]
    split
    next bare =>
      exact ⟨_, _, Token.scanChars_word (ofWord_of_isBare bare).1 stop,
        .inr (.inr (.inr ⟨_, rfl, rfl⟩))⟩
    next => exact ⟨_, _, Token.scanChars_quoted _ _, .inr (.inr (.inl ⟨_, rfl⟩))⟩
  | array v kind ns h =>
    rw [chars_array h]
    exact ⟨_, _, Token.scanChars_symbol rfl _, .inr (.inl rfl)⟩
  | list items =>
    rw [chars]
    exact ⟨_, _, Token.scanChars_symbol rfl _, .inr (.inl rfl)⟩
  | compound entries =>
    rw [chars]
    exact ⟨_, _, Token.scanChars_symbol rfl _, .inl rfl⟩

/-- A list that starts with a tree is neither empty nor an array. -/
theorem readList_chars (item : Reader Tag) (v : Tag) {c : Char} (mark : c = ',' ∨ c = ']') :
    readList item (scanChars (chars v ++ c :: rest)) = do
      let (items, rest) ← readItems item ((scanChars (chars v ++ c :: rest)).length + 1)
        (scanChars (chars v ++ c :: rest))
      return (.list items, rest) := by
  obtain ⟨after, stop, symbol, other⟩ : ∃ token, Stops isWordChar (c :: rest) ∧
      scanChars (c :: rest) = .ok token :: scanChars rest ∧ token ≠ .semicolon := by
    rcases mark with rfl | rfl <;>
      exact ⟨_, stops_cons.2 rfl, Token.scanChars_symbol rfl _, by decide⟩
  obtain ⟨token, pieces, front, kind⟩ := scanChars_chars v stop
  rw [front, readList]
  · intro name tail same
    obtain ⟨rfl, rfl⟩ : token = .word name ∧ pieces = .ok .semicolon :: tail := by simpa using same
    rcases kind with h | h | ⟨_, h⟩ | ⟨_, -, h⟩
    · cases h
    · cases h
    · cases h
    · rw [symbol] at h
      simp only [List.cons.injEq, Except.ok.injEq] at h
      exact other h.1.symm
  · intro tail same
    obtain ⟨rfl, -⟩ : token = .closeBracket ∧ pieces = tail := by simpa using same
    rcases kind with h | h | ⟨_, h⟩ | ⟨_, h, -⟩ <;> cases h

theorem reads_list {items : List Tag} (h : ∀ d, ∀ v ∈ items, Reads d v) :
    Reads d (.list items) := by
  intro rest _
  rw [chars, itemChars_eq_map, List.cons_append, List.append_assoc, List.singleton_append,
    Token.scanChars_symbol rfl, readValue_openBracket]
  cases d with
  | zero => simp [depth]
  | succ d =>
    cases items with
    | nil =>
      rw [List.map_nil, separated, List.nil_append, Token.scanChars_symbol rfl]
      simp [readList, depth, itemsDepth]
    | cons first more =>
      have stop : Stops isWordChar (']' :: rest) := stops_cons.2 rfl
      have enough : ((first :: more).map chars).length + _ ≤ _ :=
        length_separated (List.forall_mem_map.2 fun v _ => grows_chars v) stop
      have read : readItems (readValue d)
          ((scanChars (separated ((first :: more).map chars) ++ ']' :: rest)).length + 1)
          (scanChars (separated ((first :: more).map chars) ++ ']' :: rest)) =
            if itemsDepth (first :: more) ≤ d then .ok (first :: more, scanChars rest)
            else .error .tooDeep :=
        readItems_separated (by simp) (by rw [List.length_map] at enough; omega) (h d)
      obtain ⟨c, tail, mark, text⟩ : ∃ c tail, (c = ',' ∨ c = ']') ∧
          separated ((first :: more).map chars) ++ ']' :: rest = chars first ++ c :: tail := by
        cases more with
        | nil => exact ⟨_, _, .inr rfl, rfl⟩
        | cons => exact ⟨_, _, .inl rfl, List.append_assoc _ _ _⟩
      rw [text] at read ⊢
      simp only [readList_chars (readValue d) first mark, read, depth, Nat.add_le_add_iff_right]
      split <;> rfl

/-- A compound that starts with a name is not empty. -/
theorem readCompound_stringChars (item : Reader Tag) (name : String) (rest : List Char) :
    readCompound item (scanChars (stringChars name ++ ':' :: rest)) = do
      let (entries, rest) ← readEntries item ((scanChars (stringChars name ++ ':' :: rest)).length + 1)
        (scanChars (stringChars name ++ ':' :: rest))
      return (.compound entries, rest) := by
  have key := readKey_stringChars name rest
  rw [readCompound]
  intro tail same
  rw [same] at key
  cases key

theorem reads_compound {entries : List (String × Tag)} (h : ∀ d, ∀ e ∈ entries, Reads d e.2) :
    Reads d (.compound entries) := by
  intro rest _
  rw [chars, entryChars_eq_map, List.cons_append, List.append_assoc, List.singleton_append,
    Token.scanChars_symbol rfl, readValue_openBrace]
  cases d with
  | zero => simp [depth]
  | succ d =>
    cases entries with
    | nil =>
      rw [List.map_nil, separated, List.nil_append, Token.scanChars_symbol rfl]
      simp [readCompound, depth, entriesDepth]
    | cons first more =>
      have stop : Stops isWordChar ('\x7d' :: rest) := stops_cons.2 rfl
      have enough := length_separated
        (List.forall_mem_map.2 fun (e : String × Tag) (_ : e ∈ first :: more) =>
          grows_entry e.1 (grows_chars e.2)) stop
      rw [List.length_map] at enough
      have read : readEntries (readValue d) (_ + 1) _ =
            if entriesDepth (first :: more) ≤ d then .ok (first :: more, scanChars rest)
            else .error .tooDeep :=
        readEntries_separated (by simp) (Nat.le_succ_of_le (Nat.le_of_add_right_le enough)) (h d)
      obtain ⟨tail, text⟩ : ∃ tail,
          separated ((first :: more).map fun e => stringChars e.1 ++ ':' :: chars e.2) ++ '\x7d' :: rest =
            stringChars first.1 ++ ':' :: tail := by
        cases more with
        | nil => exact ⟨_, List.append_assoc _ _ _⟩
        | cons => exact ⟨_, (List.append_assoc _ _ _).trans (List.append_assoc _ _ _)⟩
      rw [text] at read ⊢
      simp only [readCompound_stringChars, read, depth, Nat.add_le_add_iff_right]
      split <;> rfl

/-- Every tree is read back within the depth that is left. -/
theorem reads (v : Tag) (d : Nat) : Reads d v := by
  induction v using induction generalizing d with
  | number v h =>
    intro rest stop
    obtain ⟨word, back⟩ := ofWord_chars h
    rw [Token.scanChars_word word stop, readValue_word, back, depth_of_isNumber h,
      if_pos (Nat.zero_le d)]
  | string s =>
    intro rest stop
    have shallow : (Tag.string s).depth ≤ d := by simp [depth]
    rw [chars, stringChars, if_pos shallow]
    split
    next bare =>
      obtain ⟨word, back⟩ := ofWord_of_isBare bare
      rw [Token.scanChars_word word stop, readValue_word, String.ofList_toList, back]
    next => rw [Token.scanChars_quoted, readValue_quoted, String.ofList_toList]
  | array v kind ns h =>
    intro rest _
    rw [chars_array h, depth_array h]
    simp only [List.cons_append, List.append_assoc, List.nil_append, scanChars_arrayType,
      readValue_openBracket]
    cases d with
    | zero => rfl
    | succ d =>
      have name : ArrayKind.ofName? kind.letter = some kind := by cases kind <;> rfl
      simp [readList, name, readArray_chars h]
  | list items ih => exact reads_list fun d v mem => ih v mem d
  | compound entries ih => exact reads_compound fun d e mem => ih e mem d

/-! ## Texts -/

/-- The text of a compound is read as the compound, or is nested too deep. -/
theorem parse_text (entries : List (String × Tag)) :
    parse (text (.compound entries)) =
      if depth (.compound entries) ≤ maxDepth then .ok (.compound entries) else .error .tooDeep := by
  have read := reads (.compound entries) maxDepth [] stops_nil
  rw [List.append_nil] at read
  rw [parse, Token.scan, text, String.toList_ofList, read]
  by_cases fits : depth (.compound entries) ≤ maxDepth
  · rw [if_pos fits, if_pos fits, Token.scanChars_nil]
    rfl
  · rw [if_neg fits, if_neg fits]
    rfl

theorem parse_eq_ok {s : String} {v : Tag} (h : parse s = .ok v) :
    v.depth ≤ maxDepth ∧ ∃ entries, v = .compound entries := by
  obtain ⟨compound, rest, after, read, -⟩ := parse_eq_ok_iff.1 h
  obtain ⟨tokens, derives, -⟩ := (recognises_readValue _ _ _ _).1 read
  exact ⟨derives.2, compound⟩

/-- What was read is read again from its own text. -/
theorem parse_text_of_parse {s : String} {v : Tag} (h : parse s = .ok v) :
    parse v.text = .ok v := by
  obtain ⟨fits, entries, rfl⟩ := parse_eq_ok h
  rw [parse_text, if_pos fits]

/-- Printing is undone by reading for compounds that are nested at most 512 deep, and deeper ones are
given up for their depth. What was read from any text is read again from its own text, which is
printed as before. -/
theorem parse_text_canonical (entries : List (String × Tag)) :
    parse (text (.compound entries)) =
        (if depth (.compound entries) ≤ 512 then .ok (.compound entries) else .error .tooDeep) ∧
      ∀ s v, parse s = .ok v → parse v.text = .ok v ∧ (parse v.text).map text = .ok v.text := by
  refine ⟨parse_text entries, fun s v read => ?_⟩
  obtain ⟨fits, entries, rfl⟩ := parse_eq_ok read
  rw [parse_text, if_pos fits]
  exact ⟨rfl, rfl⟩

/-- A compound whose name needs quotes, with an array, a bare text and a byte. -/
def spaced : Tag :=
  .compound [("a b", .intArray [1, -2]), ("n", .string "TRUE"), ("x", .byte 3)]

set_option maxRecDepth 20000 in
theorem parse_text_canonical_spaced :
    parse "\x7b 'a b' : [I; 1, -2], n: TRUE, x: 3B \x7d" = .ok spaced ∧
      parse spaced.text = .ok spaced ∧ (parse spaced.text).map text = .ok spaced.text := by
  have read : parse "\x7b 'a b' : [I; 1, -2], n: TRUE, x: 3B \x7d" = .ok spaced := by cbv
  exact ⟨read, (parse_text_canonical []).2 _ _ read⟩

end Storyboard.Tag
