import Storyboard.Proofs.Outcome
import Storyboard.Proofs.Tag.Word
import Storyboard.Tag.Parser

/-!
# The grammar of data patches

Which tokens make up a tree, said without a reader.

## Main definitions

* `Tag.Series`, `Tag.Sequence`: parts with commas between them.
* `Tag.Element`: the number that a word is in an array.
* `Tag.Derives`: the tree of a list of tokens.
* `Tag.depth`: how many compounds, lists and arrays stand around each other.
* `Token.nesting`: how many brackets are open at once.
* `Tag.DerivesWithin`: the grammar with a bound on the depth of trees.

## Main statements

* `Tag.Derives.induction`: what passes from parts to trees holds of all trees.
* `Tag.Derives.nesting_eq`: brackets are open at once as deep as the tree is.
* `Tag.derivesWithin_word` and the like: what follows a first token.
-/

namespace Storyboard

/-! ## Grammar -/

namespace Tag

variable {α : Type}

/-- One or more parts with a comma between each two. -/
inductive Series (P : List Token → α → Prop) : List Token → List α → Prop
  | single {tokens : List Token} {a : α} : P tokens a → Series P tokens [a]
  | cons {tokens rest : List Token} {a : α} {as : List α} :
      P tokens a → Series P rest as → Series P (tokens ++ .comma :: rest) (a :: as)

/-- Nothing, or parts with a comma between each two. -/
inductive Sequence (P : List Token → α → Prop) : List Token → List α → Prop
  | nothing : Sequence P [] []
  | series {tokens : List Token} {as : List α} : Series P tokens as → Sequence P tokens as

/-- A key, a colon and a value. -/
inductive Entry (P : List Token → Tag → Prop) : List Token → String × Tag → Prop
  | word {tokens : List Token} {value : Tag} (key : String) :
      P tokens value → Entry P (.word key :: .colon :: tokens) (key, value)
  | quoted {tokens : List Token} {value : Tag} (key : String) :
      P tokens value → Entry P (.quoted key :: .colon :: tokens) (key, value)

/-- A word. -/
inductive OneWord : List Token → String → Prop
  | mk (word : String) : OneWord [.word word] word

/-- The number that a word is in an array. Without a letter for its width it may stand in each kind
of array that has room for it. -/
inductive Element : ArrayKind → String → Int → Prop
  | byte {word : String} {n : Int8} : ofWord word = .byte n → Element .bytes word n.toInt
  | smallInt {word : String} {n : Int32} :
      ofWord word = .int n → -128 ≤ n.toInt → n.toInt ≤ 127 → Element .bytes word n.toInt
  | int {word : String} {n : Int32} : ofWord word = .int n → Element .ints word n.toInt
  | long {word : String} {n : Int64} : ofWord word = .long n → Element .longs word n.toInt
  | intAsLong {word : String} {n : Int32} : ofWord word = .int n → Element .longs word n.toInt

/-- The tree of a list of tokens. -/
inductive Derives : List Token → Tag → Prop
  | quoted (text : String) : Derives [.quoted text] (.string text)
  | word (word : String) : Derives [.word word] (ofWord word)
  | compound {tokens : List Token} {entries : List (String × Tag)} :
      Sequence (Entry Derives) tokens entries →
      Derives (.openBrace :: (tokens ++ [.closeBrace])) (.compound entries)
  | list {tokens : List Token} {items : List Tag} :
      Sequence Derives tokens items →
      (∀ name rest, tokens ≠ .word name :: .semicolon :: rest) →
      Derives (.openBracket :: (tokens ++ [.closeBracket])) (.list items)
  | array {tokens : List Token} {words : List String} {ns : List Int} (kind : ArrayKind) :
      Sequence OneWord tokens words →
      List.Forall₂ (Element kind) words ns →
      Derives (.openBracket :: .word kind.letter :: .semicolon :: (tokens ++ [.closeBracket]))
        (ofElements kind ns)

/-! ## Depth -/

mutual

/-- How many compounds, lists and arrays stand around each other. -/
def depth : Tag → Nat
  | .list items => itemsDepth items + 1
  | .compound entries => entriesDepth entries + 1
  | .byteArray _ | .intArray _ | .longArray _ => 1
  | _ => 0

/-- The greatest depth of an item. -/
def itemsDepth : List Tag → Nat
  | [] => 0
  | item :: items => max (depth item) (itemsDepth items)

/-- The greatest depth of an entry. -/
def entriesDepth : List (String × Tag) → Nat
  | [] => 0
  | (_, value) :: entries => max (depth value) (entriesDepth entries)

end

theorem depth_of_isNumber {tag : Tag} (h : tag.isNumber) : tag.depth = 0 := by
  cases tag with
  | list | byteArray | intArray | longArray | compound | string => cases h
  | _ => simp [depth]

theorem itemsDepth_le_iff {d : Nat} {items : List Tag} :
    itemsDepth items ≤ d ↔ ∀ v ∈ items, v.depth ≤ d := by
  induction items with
  | nil => simp [itemsDepth]
  | cons first more ih => simp [itemsDepth, ih]

theorem entriesDepth_le_iff {d : Nat} {entries : List (String × Tag)} :
    entriesDepth entries ≤ d ↔ ∀ e ∈ entries, e.2.depth ≤ d := by
  induction entries with
  | nil => simp [entriesDepth]
  | cons first more ih => simp [entriesDepth, ih]

theorem depth_ofWord (word : String) : (ofWord word).depth = 0 := by
  rcases ofWord_cases word with number | text
  · exact depth_of_isNumber number
  · rw [text, depth] <;> simp

theorem depth_ofElements (kind : ArrayKind) (ns : List Int) : (ofElements kind ns).depth = 1 := by
  cases kind <;> simp [ofElements, depth]

end Tag

/-! ## Open brackets -/

namespace Token

variable {a b tokens rest : List Token} {m n level : Nat}

/-- How many brackets are open at once behind `level` open ones, at most. -/
def deepest (level : Nat) : List Token → Nat
  | [] => level
  | .openBrace :: rest | .openBracket :: rest => deepest (level + 1) rest
  | .closeBrace :: rest | .closeBracket :: rest => max level (deepest (level - 1) rest)
  | _ :: rest => deepest level rest

/-- How many brackets are open at once, at most. -/
def nesting (tokens : List Token) : Nat :=
  deepest 0 tokens

theorem le_deepest (level : Nat) (tokens : List Token) : level ≤ deepest level tokens := by
  fun_induction deepest level tokens <;> omega

/-- The tokens open `n` brackets at once and close them all. -/
def Opens (tokens : List Token) (n : Nat) : Prop :=
  ∀ level rest, deepest level (tokens ++ rest) = max (level + n) (deepest level rest)

theorem Opens.nesting_eq (h : Opens tokens n) : nesting tokens = n := by
  have := h 0 []
  rw [List.append_nil, deepest] at this
  rw [nesting, this]
  omega

theorem opens_nil : Opens [] 0 := by
  intro level rest
  have := le_deepest level rest
  simpa using this

theorem opens_word (word : String) : Opens [.word word] 0 :=
  opens_nil

theorem opens_quoted (text : String) : Opens [.quoted text] 0 :=
  opens_nil

theorem Opens.comma (ha : Opens a m) (hb : Opens b n) : Opens (a ++ .comma :: b) (max m n) := by
  intro level rest
  rw [List.append_assoc, ha, List.cons_append, deepest, hb]
  · omega
  all_goals simp

theorem Opens.braces (h : Opens tokens n) :
    Opens (.openBrace :: (tokens ++ [.closeBrace])) (n + 1) := by
  intro level rest
  simp only [List.cons_append, List.append_assoc, List.nil_append, deepest]
  rw [h, deepest, Nat.add_sub_cancel]
  omega

theorem Opens.brackets (h : Opens tokens n) :
    Opens (.openBracket :: (tokens ++ [.closeBracket])) (n + 1) := by
  intro level rest
  simp only [List.cons_append, List.append_assoc, List.nil_append, deepest]
  rw [h, deepest, Nat.add_sub_cancel]
  omega

end Token

namespace Tag

open Token (Opens)

variable {α : Type} {P Q : List Token → α → Prop} {tokens : List Token} {as : List α}

/-- Parts with commas between them open as many brackets as the part that opens most. -/
theorem Sequence.opens {f : α → Nat} {g : List α → Nat} (nil : g [] = 0)
    (cons : ∀ a as, g (a :: as) = max (f a) (g as))
    (part : ∀ tokens a, P tokens a → Opens tokens (f a)) (h : Sequence P tokens as) :
    Opens tokens (g as) := by
  cases h with
  | nothing =>
    rw [nil]
    exact Token.opens_nil
  | series h =>
    induction h with
    | single is =>
      rw [cons, nil, Nat.max_zero]
      exact part _ _ is
    | cons is _ ih =>
      rw [cons]
      exact (part _ _ is).comma ih

/-- There is a first token, and it is another one than `close`. -/
def StartsOther (close : Token) (tokens : List Token) : Prop :=
  ∃ first more, tokens = first :: more ∧ first ≠ close

theorem Series.startsOther {close : Token} (h : Series P tokens as)
    (front : ∀ tokens a, P tokens a → StartsOther close tokens) : StartsOther close tokens := by
  cases h with
  | single is => exact front _ _ is
  | cons is _ =>
    obtain ⟨first, more, rfl, other⟩ := front _ _ is
    exact ⟨first, _, rfl, other⟩

namespace Derives

/-- What passes from the parts of a tree to the tree holds of every tree of the grammar. -/
theorem induction {P : List Token → Tag → Prop} (quoted : ∀ text, P [.quoted text] (.string text))
    (word : ∀ word, P [.word word] (ofWord word))
    (compound : ∀ {tokens entries}, Sequence (Entry P) tokens entries →
      P (.openBrace :: (tokens ++ [.closeBrace])) (.compound entries))
    (list : ∀ {tokens items}, Sequence P tokens items →
      P (.openBracket :: (tokens ++ [.closeBracket])) (.list items))
    (array : ∀ {tokens words ns} (kind : ArrayKind),
      Sequence OneWord tokens words →
      List.Forall₂ (Element kind) words ns →
      P (.openBracket :: .word kind.letter :: .semicolon :: (tokens ++ [.closeBracket]))
        (ofElements kind ns))
    {v : Tag} (h : Derives tokens v) : P tokens v := by
  refine @Derives.rec (fun tokens v _ => P tokens v)
    (fun tokens entries _ => Sequence (Entry P) tokens entries)
    (fun tokens items _ => Sequence P tokens items)
    (fun tokens entries _ => Series (Entry P) tokens entries)
    (fun tokens items _ => Series P tokens items)
    (fun tokens entry _ => Entry P tokens entry)
    quoted word (fun _ => compound) (fun _ _ => list) array
    .nothing (fun _ => .series) .nothing (fun _ => .series)
    (fun _ => .single) (fun _ _ => .cons) (fun _ => .single) (fun _ _ => .cons)
    (fun key _ => .word key) (fun key _ => .quoted key) _ _ h

/-- Brackets are open at once as deep as the tree is. -/
theorem opens {v : Tag} (h : Derives tokens v) : Opens tokens v.depth := by
  refine induction (P := fun tokens v => Opens tokens v.depth)
    ?quoted ?word ?compound ?list ?array h
  case quoted =>
    intro text
    simpa [depth] using Token.opens_quoted text
  case word =>
    intro word
    rw [depth_ofWord]
    exact Token.opens_word word
  case compound =>
    intro tokens entries inside
    rw [depth]
    refine (inside.opens (f := fun e => e.2.depth) rfl (fun _ _ => rfl) ?_).braces
    intro tokens entry is
    cases is with
    | word key value => exact value
    | quoted key value => exact value
  case list =>
    intro tokens items inside
    rw [depth]
    exact (inside.opens rfl (fun _ _ => rfl) fun _ _ item => item).brackets
  case array =>
    intro tokens words ns kind inside _
    have flat : Opens (.word kind.letter :: .semicolon :: tokens) 0 := by
      change Opens tokens 0
      refine inside.opens (f := fun _ => 0) (g := fun _ => 0) rfl (fun _ _ => rfl) ?_
      rintro _ _ ⟨word⟩
      exact Token.opens_word _
    rw [depth_ofElements]
    exact flat.brackets

theorem nesting_eq {v : Tag} (h : Derives tokens v) : Token.nesting tokens = v.depth :=
  h.opens.nesting_eq

theorem startsOther {v : Tag} (h : Derives tokens v) : StartsOther .closeBracket tokens := by
  cases h <;> exact ⟨_, _, rfl, by simp⟩

/-- The end of a text is part of no tree. -/
theorem getLast?_ne {v : Tag} (h : Derives tokens v) :
    tokens.getLast? ≠ some .endOfText := by
  cases h <;> simp [List.getLast?_cons]

end Derives

/-! ## Bounded depth -/

section Bounded

variable {q : α → Prop} {d : Nat} {v : Tag}

theorem Series.and_iff :
    Series (fun tokens a => P tokens a ∧ q a) tokens as ↔ Series P tokens as ∧ ∀ a ∈ as, q a := by
  constructor
  · intro h
    induction h with
    | single is => exact ⟨.single is.1, by simpa using is.2⟩
    | cons is _ ih => exact ⟨.cons is.1 ih.1, List.forall_mem_cons.2 ⟨is.2, ih.2⟩⟩
  · rintro ⟨h, all⟩
    induction h with
    | single is => exact .single ⟨is, by simpa using all⟩
    | cons is _ ih =>
      obtain ⟨first, more⟩ := List.forall_mem_cons.1 all
      exact .cons ⟨is, first⟩ (ih more)

theorem Sequence.and_iff :
    Sequence (fun tokens a => P tokens a ∧ q a) tokens as ↔
      Sequence P tokens as ∧ ∀ a ∈ as, q a := by
  constructor
  · intro h
    cases h with
    | nothing => exact ⟨.nothing, by simp⟩
    | series h => exact ⟨.series (Series.and_iff.1 h).1, (Series.and_iff.1 h).2⟩
  · rintro ⟨h, all⟩
    cases h with
    | nothing => exact .nothing
    | series h => exact .series (Series.and_iff.2 ⟨h, all⟩)

theorem Entry.and_iff {R : List Token → Tag → Prop} {q : Tag → Prop} {entry : String × Tag} :
    Entry (fun tokens v => R tokens v ∧ q v) tokens entry ↔ Entry R tokens entry ∧ q entry.2 := by
  constructor
  · rintro (⟨key, is, fits⟩ | ⟨key, is, fits⟩)
    · exact ⟨.word key is, fits⟩
    · exact ⟨.quoted key is, fits⟩
  · rintro ⟨⟨key, is⟩ | ⟨key, is⟩, fits⟩
    · exact .word key ⟨is, fits⟩
    · exact .quoted key ⟨is, fits⟩

/-- The tree of a list of tokens, with at most `d` brackets around each other. -/
def DerivesWithin (d : Nat) (tokens : List Token) (v : Tag) : Prop :=
  Derives tokens v ∧ v.depth ≤ d

theorem derivesWithin_word {word : String} :
    DerivesWithin d (.word word :: tokens) v ↔ tokens = [] ∧ v = ofWord word := by
  constructor
  · rintro ⟨is, -⟩
    cases is
    exact ⟨rfl, rfl⟩
  · rintro ⟨rfl, rfl⟩
    exact ⟨.word word, by simp [depth_ofWord]⟩

theorem derivesWithin_quoted {text : String} :
    DerivesWithin d (.quoted text :: tokens) v ↔ tokens = [] ∧ v = .string text := by
  constructor
  · rintro ⟨is, -⟩
    cases is
    exact ⟨rfl, rfl⟩
  · rintro ⟨rfl, rfl⟩
    exact ⟨.quoted text, by simp [depth]⟩

theorem derivesWithin_brace :
    DerivesWithin (d + 1) (.openBrace :: tokens) v ↔
      ∃ inside entries, Sequence (Entry (DerivesWithin d)) inside entries ∧
        tokens = inside ++ [.closeBrace] ∧ v = .compound entries := by
  have deep (entries : List (String × Tag)) :
      (Tag.compound entries).depth ≤ d + 1 ↔ ∀ e ∈ entries, e.2.depth ≤ d := by
    rw [depth, Nat.add_le_add_iff_right, entriesDepth_le_iff]
  have parts {inside : List Token} {entries : List (String × Tag)} :
      Sequence (Entry (DerivesWithin d)) inside entries ↔
        Sequence (Entry Derives) inside entries ∧ ∀ e ∈ entries, e.2.depth ≤ d := by
    have entry : Entry (DerivesWithin d) =
        fun tokens e => Entry Derives tokens e ∧ e.2.depth ≤ d := by
      funext tokens e
      exact propext Entry.and_iff
    rw [entry, Sequence.and_iff]
  constructor
  · rintro ⟨is, fits⟩
    cases is with
    | compound inside => exact ⟨_, _, parts.2 ⟨inside, (deep _).1 fits⟩, rfl, rfl⟩
  · rintro ⟨inside, entries, is, rfl, rfl⟩
    exact ⟨.compound (parts.1 is).1, (deep _).2 (parts.1 is).2⟩

theorem derivesWithin_bracket :
    DerivesWithin (d + 1) (.openBracket :: tokens) v ↔
      (∃ inside items, Sequence (DerivesWithin d) inside items ∧
        (∀ name rest, inside ≠ .word name :: .semicolon :: rest) ∧
        tokens = inside ++ [.closeBracket] ∧ v = .list items) ∨
      ∃ kind inside words ns, Sequence OneWord inside words ∧
        List.Forall₂ (Element kind) words ns ∧
        tokens = .word kind.letter :: .semicolon :: (inside ++ [.closeBracket]) ∧
        v = ofElements kind ns := by
  have deep (items : List Tag) : (Tag.list items).depth ≤ d + 1 ↔ ∀ v ∈ items, v.depth ≤ d := by
    rw [depth, Nat.add_le_add_iff_right, itemsDepth_le_iff]
  have parts {inside : List Token} {items : List Tag} :
      Sequence (DerivesWithin d) inside items ↔
        Sequence Derives inside items ∧ ∀ v ∈ items, v.depth ≤ d :=
    Sequence.and_iff
  constructor
  · rintro ⟨is, fits⟩
    cases is with
    | list inside other => exact .inl ⟨_, _, parts.2 ⟨inside, (deep _).1 fits⟩, other, rfl, rfl⟩
    | array kind inside values => exact .inr ⟨kind, _, _, _, inside, values, rfl, rfl⟩
  · rintro (⟨inside, items, is, other, rfl, rfl⟩ | ⟨kind, inside, words, ns, is, values, rfl, rfl⟩)
    · exact ⟨.list (parts.1 is).1 other, (deep _).2 (parts.1 is).2⟩
    · exact ⟨.array kind is values, by simp [depth_ofElements]⟩

/-- The first tokens of trees with at most `d` brackets around each other. -/
inductive Starts : Nat → Token → Prop
  | word {d : Nat} (word : String) : Starts d (.word word)
  | quoted {d : Nat} (text : String) : Starts d (.quoted text)
  | openBrace {d : Nat} : Starts (d + 1) .openBrace
  | openBracket {d : Nat} : Starts (d + 1) .openBracket

theorem DerivesWithin.exists_first (h : DerivesWithin d tokens v) :
    ∃ first more, tokens = first :: more ∧ Starts d first := by
  obtain ⟨is, fits⟩ := h
  cases is with
  | word word => exact ⟨_, _, rfl, .word word⟩
  | quoted text => exact ⟨_, _, rfl, .quoted text⟩
  | compound | list | array =>
    obtain ⟨left, rfl⟩ : ∃ left, d = left + 1 := by
      simp only [depth, depth_ofElements] at fits
      exact ⟨d - 1, by omega⟩
    exact ⟨_, _, rfl, by constructor⟩

end Bounded

end Tag

end Storyboard
