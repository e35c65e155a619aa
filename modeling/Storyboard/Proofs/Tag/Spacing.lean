import Storyboard.Proofs.Tag.Recognition

/-!
# Spacing of data patches

Tokens may be written with any blanks around them. The scanner finds them again: it takes as much as
it can for a word, so only two words next to each other need blanks between them.

## Main definitions

* `Token.Spells`: how a token is written.
* `Token.whiteSpace`: the characters that may stand between tokens.
* `Token.Placed`: a token in a text, with the blanks before it.
* `Token.layout`: the text of placed tokens.

## Main statements

* `Token.Spells.scanChars_eq`: a token is found in front of what does not go on with it.
* `Token.scanChars_layout`: the tokens of a text are found again, whatever the blanks.
* `Token.scan_layout`: the same for texts, and what all texts have in common.
-/

namespace Storyboard

namespace Token

variable {c : Char} {token : Token} {blanks spelling rest after : List Char}

/-! ## Spellings -/

/-- How a token is written. Either kind of quotes goes around a text, with a backslash before each
quote of that kind and each backslash in it. The end of a text is not written. -/
inductive Spells : Token → List Char → Prop
  | openBrace : Spells .openBrace ['\x7b']
  | closeBrace : Spells .closeBrace ['\x7d']
  | openBracket : Spells .openBracket ['[']
  | closeBracket : Spells .closeBracket [']']
  | colon : Spells .colon [':']
  | comma : Spells .comma [',']
  | semicolon : Spells .semicolon [';']
  | word {text : String} (some : text ≠ "") (all : ∀ c ∈ text.toList, WordChar c) :
      Spells (.word text) text.toList
  | quoted {quote : Char} (is : IsQuote quote) (text : String) :
      Spells (.quoted text) (quote :: (escape quote text.toList ++ [quote]))

/-- A token is the first piece of a text that starts with it. A word has to end where the rest of
the text starts. -/
theorem Spells.scanChars_eq (spells : Spells token spelling)
    (stop : ∀ word, token = .word word → Stops isWordChar rest) :
    scanChars (spelling ++ rest) = .ok token :: scanChars rest := by
  cases spells with
  | @word text some all =>
    have is : IsWord text.toList :=
      ⟨by simpa using some, fun c mem => isWordChar_iff.2 (all c mem)⟩
    rw [scanChars_word is (stop _ rfl), String.ofList_toList]
  | quoted is text =>
    rw [List.cons_append, List.append_assoc, List.singleton_append, scanChars_between is,
      String.ofList_toList]
  | _ => exact scanChars_symbol rfl rest

/-- Only words start with a character of words. -/
theorem Spells.stops (spells : Spells token spelling) (other : ∀ word, token ≠ .word word)
    (rest : List Char) : Stops isWordChar (spelling ++ rest) := by
  cases spells with
  | word => exact absurd rfl (other _)
  | quoted is => rcases is with rfl | rfl <;> exact stops_cons.2 (by decide)
  | _ => exact stops_cons.2 (by decide)

/-! ## Blanks -/

/-- The characters of the White_Space property. -/
def whiteSpace : List Char :=
  ['\t', '\n', '\x0b', '\x0c', '\r', ' ', '\u0085', '\u00a0', '\u1680', '\u2000', '\u2001',
   '\u2002', '\u2003', '\u2004', '\u2005', '\u2006', '\u2007', '\u2008', '\u2009', '\u200a',
   '\u2028', '\u2029', '\u202f', '\u205f', '\u3000']

theorem isBlank_iff : isBlank c ↔ c ∈ whiteSpace := by
  have codes : c ∈ whiteSpace ↔ c.toNat ∈ whiteSpace.map Char.toNat :=
    (List.mem_map_of_injective fun _ _ => Char.toNat_inj.1).symm
  rw [codes]
  simp only [isBlank, CodeRanges.contains, blankRanges, List.any_cons, List.any_nil, Bool.or_false,
    Bool.or_eq_true, Bool.and_eq_true, decide_eq_true_eq, whiteSpace, List.map_cons,
    Char.reduceToNat, List.map_nil, List.mem_cons, List.not_mem_nil, or_false]
  omega

theorem scanChars_blanks (are : blanks ⊆ whiteSpace) (rest : List Char) :
    scanChars (blanks ++ rest) = scanChars rest := by
  have same : (blanks ++ rest).dropWhile isBlank = rest.dropWhile isBlank :=
    List.dropWhile_append_of_pos fun c mem => isBlank_iff.2 (are mem)
  rw [scanChars, scanChars, same]

/-- Words end before blanks. -/
theorem stops_blanks (are : blanks ⊆ whiteSpace)
    (stop : blanks = [] → Stops isWordChar rest) : Stops isWordChar (blanks ++ rest) := by
  cases blanks with
  | nil => exact stop rfl
  | cons c cs =>
    have blank : isBlank c := isBlank_iff.2 (are List.mem_cons_self)
    refine stops_cons.2 ?_
    by_contra isWord
    simp [isBlank_of_isWordChar (by simpa using isWord)] at blank

/-! ## Texts of tokens -/

/-- A token in a text: the blanks before it, and how it is written there. -/
structure Placed where
  blanks : List Char
  token : Token
  spelling : List Char
  blanks_subset : blanks ⊆ whiteSpace
  spells : Spells token spelling

/-- Two words are not written together. -/
def Apart (first second : Placed) : Prop :=
  ∀ word other, first.token = .word word → second.token = .word other → second.blanks ≠ []

/-- The text of placed tokens, with what comes after them. -/
def layout (placed : List Placed) (after : List Char) : List Char :=
  placed.flatMap (fun p => p.blanks ++ p.spelling) ++ after

theorem layout_cons (p : Placed) (placed : List Placed) (after : List Char) :
    layout (p :: placed) after = p.blanks ++ (p.spelling ++ layout placed after) := by
  simp [layout]

/-- A word ends where the next token or its blanks start. -/
theorem stops_layout {p : Placed} {placed : List Placed} (apart : (p :: placed).IsChain Apart)
    (blank : after ⊆ whiteSpace) {word : String} (isWord : p.token = .word word) :
    Stops isWordChar (layout placed after) := by
  cases placed with
  | nil => simpa [layout] using stops_blanks blank fun _ => stops_nil
  | cons next placed =>
    rw [layout_cons]
    -- Without blanks the next token is no word, so that it starts with a symbol or a quote.
    refine stops_blanks next.blanks_subset fun together => next.spells.stops ?_ _
    intro other isWord'
    exact (List.isChain_cons_cons.1 apart).1 word other isWord isWord' together

theorem scanChars_layout {placed : List Placed} (apart : placed.IsChain Apart)
    (blank : after ⊆ whiteSpace) :
    scanChars (layout placed after) =
      placed.map (fun p => .ok p.token) ++ [.ok .endOfText] := by
  induction placed with
  | nil =>
    have text : layout [] after = after ++ [] := by simp [layout]
    rw [text, scanChars_blanks blank, scanChars_nil]
    rfl
  | cons p placed ih =>
    have stop (word : String) (isWord : p.token = .word word) :
        Stops isWordChar (layout placed after) := stops_layout apart blank isWord
    rw [layout_cons, scanChars_blanks p.blanks_subset, p.spells.scanChars_eq stop, ih apart.tail]
    rfl

/-! ## All texts -/

/-- Every piece but the last takes a character. -/
theorem length_scanChars_le (cs : List Char) : (scanChars cs).length ≤ cs.length + 1 := by
  fun_induction scanChars cs with
  | case1 cs => simp
  | case2 cs c rest split piece ih =>
    have short := length_dropWhile_le isBlank cs
    have left : piece.2.length ≤ rest.length := length_readPiece c rest
    rw [split, List.length_cons] at short
    rw [List.length_cons]
    omega

/-- Tokens that are written with blanks before, between and after them are found again, and after
them the end of the text, if there are blanks between each two words next to each other. Every text
has finitely many pieces, at most one more than its characters, and its end is the last of them and
no other. -/
theorem scan_layout :
    (∀ (placed : List Placed) (after : List Char), placed.IsChain Apart → after ⊆ whiteSpace →
      scan (String.ofList (layout placed after)) =
        placed.map (fun p => .ok p.token) ++ [.ok .endOfText]) ∧
    ∀ s, (scan s).length ≤ s.length + 1 ∧
      ∃ pieces, scan s = pieces ++ [.ok .endOfText] ∧ .ok .endOfText ∉ pieces := by
  refine ⟨fun placed after apart blank => ?_, fun s => ⟨?_, exists_scan s⟩⟩
  · rw [scan, String.toList_ofList, scanChars_layout apart blank]
  · rw [scan, ← String.length_toList]
    exact length_scanChars_le s.toList

/-- Two words apart, and texts with quotes and backslashes in them that touch what is next to
them. -/
def crowded : List Placed :=
  [⟨[], .openBrace, _, List.nil_subset _, .openBrace⟩,
   ⟨[], .word "a", _, List.nil_subset _, .word (by decide) (by simp [WordChar])⟩,
   ⟨['\u3000'], .word "-1b", _, by simp [whiteSpace], .word (by decide) (by simp [WordChar])⟩,
   ⟨[], .colon, _, List.nil_subset _, .colon⟩,
   ⟨[], .quoted "it's \"\\", _, List.nil_subset _, .quoted (.inr rfl) _⟩,
   ⟨[], .quoted "'\"", _, List.nil_subset _, .quoted (.inl rfl) _⟩,
   ⟨[], .closeBrace, _, List.nil_subset _, .closeBrace⟩]

theorem scan_layout_crowded :
    crowded.IsChain Apart ∧
      scan "\x7ba\u3000-1b:'it\\'s \"\\\\'\"'\\\"\"\x7d\n" =
        [.ok .openBrace, .ok (.word "a"), .ok (.word "-1b"), .ok .colon,
          .ok (.quoted "it's \"\\"), .ok (.quoted "'\""), .ok .closeBrace, .ok .endOfText] := by
  have apart : crowded.IsChain Apart := by simp [crowded, Apart]
  have blank : ['\n'] ⊆ whiteSpace := by simp [whiteSpace]
  exact ⟨apart, scan_layout.1 crowded ['\n'] apart blank⟩

end Token

end Storyboard
