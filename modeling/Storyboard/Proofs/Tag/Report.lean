import Storyboard.Proofs.Tag.Recognition
import Storyboard.Proofs.Text.Line

/-!
# Reports about data patches

A text that is no data patch may be any text at all, and the report about it quotes a piece of it.
Whatever the text is, the report is one line: quoted pieces are escaped, other pieces are words, and
a character that is out of place is not blank.

## Main definitions

* `Tag.IsTame`: a piece that can be quoted.
* `Tag.Reports`: a reader whose reports are one line.

## Main statements

* `Tag.isTame_scan`: the pieces of a text can be quoted.
* `Tag.reports_readValue`: the reader of trees has reports of one line.
* `Tag.oneLine_of_parse_error`: the report about a text is one line.
-/

namespace Storyboard

namespace Tag

open Token (Lexeme scan scanChars readPiece isWordChar)

/-! ## Pieces -/

/-- The piece can be quoted in a report. -/
def IsTame : Lexeme → Prop
  | .ok (.word text) => OneLine text
  | .ok _ => True
  | .error cause => OneLine cause.message

theorem isTame_readPiece {c : Char} (h : isBlank c = false) (rest : List Char) :
    IsTame (readPiece c rest).1 := by
  unfold readPiece
  split
  next token symbol =>
    have other (text : String) : token ≠ .word text := by
      rintro rfl
      unfold Token.symbol? at symbol
      split at symbol <;> cases symbol
    cases token with
    | word text => exact absurd rfl (other text)
    | _ => trivial
  next =>
    split
    next quote =>
      split
      · trivial
      · rcases quote with rfl | rfl
        · exact (by decide : OneLine "no closing \" found")
        · exact (by decide : OneLine "no closing ' found")
    next =>
      split
      next word =>
        refine oneLine_ofList.2 (List.forall_mem_cons.2 ⟨isLineEnd_of_isWordChar word, ?_⟩)
        exact fun d mem => isLineEnd_of_isWordChar (List.mem_takeWhile_imp mem)
      next =>
        refine oneLine_append.2 ⟨by decide, ?_⟩
        exact oneLine_toString_char.2 (isLineEnd_of_isBlank h)

theorem isTame_scanChars (cs : List Char) : ∀ piece ∈ scanChars cs, IsTame piece := by
  fun_induction scanChars cs with
  | case1 cs blank => exact List.forall_mem_singleton.2 trivial
  | case2 cs c rest front piece ih =>
    have shows : isBlank c = false := by
      have head := List.head?_dropWhile_not isBlank cs
      rw [front] at head
      simpa using head
    exact List.forall_mem_cons.2 ⟨isTame_readPiece shows rest, ih⟩

theorem isTame_scan (s : String) : ∀ piece ∈ scan s, IsTame piece :=
  isTame_scanChars s.toList

/-! ## Readers -/

variable {α β : Type}

/-- On pieces that can be quoted, the reader gives something with the property `Q` and leaves such
pieces, or its report is one line. -/
def Reports (Q : α → Prop) (reader : Reader α) : Prop :=
  ∀ pieces, (∀ piece ∈ pieces, IsTame piece) →
    Meets (fun e : Error => OneLine e.message)
      (fun read => Q read.1 ∧ ∀ piece ∈ read.2, IsTame piece) (reader pieces)

theorem oneLine_unexpected (expected : Expected) (found : Token) :
    OneLine (Error.unexpected expected found).message := by
  have looked : OneLine expected.describe := by cases expected <;> decide
  have token : OneLine found.describe := by
    cases found with
    | word text | quoted text =>
      exact (oneLine_shown text).between (by decide) (by decide)
    | _ => decide
  unfold Error.message
  simp only [oneLine_append]
  exact ⟨⟨⟨by decide, looked⟩, by decide⟩, token⟩

theorem reports_next : Reports (fun token => IsTame (.ok token)) next := by
  intro pieces tame
  rcases pieces with _ | ⟨_ | found, more⟩
  · exact .ok ⟨trivial, tame⟩
  · exact .error (List.forall_mem_cons.1 tame).1
  · exact .ok (List.forall_mem_cons.1 tame)

section Parts

variable {Q : α → Prop} {R : β → Prop} {part : Reader α} {close : Token}

theorem reports_readSeries (h : Reports Q part) (missing expected : Expected) (fuel : Nat) :
    Reports (fun as => ∀ a ∈ as, Q a) (readSeries part close missing expected fuel) := by
  induction fuel with
  | zero => exact fun _ _ => .error (oneLine_unexpected missing .endOfText)
  | succ fuel ih =>
    intro pieces tame
    rw [readSeries]
    refine (h pieces tame).bind fun first got => ?_
    refine (reports_next _ got.2).bind fun mark rest => ?_
    have last : Meets (fun e : Error => OneLine e.message)
        (fun read => (∀ a ∈ read.1, Q a) ∧ ∀ piece ∈ read.2, IsTame piece)
        (if mark.1 = close then .ok ([first.1], mark.2)
          else .error (.unexpected expected mark.1)) := by
      split
      · exact .ok ⟨List.forall_mem_singleton.2 got.1, rest.2⟩
      · exact .error (oneLine_unexpected expected _)
    obtain ⟨token, later⟩ := mark
    cases token with
    | comma =>
      refine (ih later rest.2).bind fun more all => ?_
      exact .ok ⟨List.forall_mem_cons.2 ⟨got.1, all.1⟩, all.2⟩
    | _ => exact last

theorem reports_readSequence (h : Reports Q part) (missing expected : Expected) :
    Reports (fun as => ∀ a ∈ as, Q a) (readSequence part close missing expected) := by
  intro pieces tame
  unfold readSequence
  split
  · exact .ok ⟨by simp, fun piece mem => tame piece (List.mem_of_mem_tail mem)⟩
  · exact reports_readSeries h missing expected _ pieces tame

theorem Reports.convert {f : α → Except Error β} (h : Reports Q part)
    (rest : ∀ a, Q a → Meets (fun e : Error => OneLine e.message) R (f a)) :
    Reports R (convert part f) := by
  intro pieces tame
  refine (h pieces tame).bind fun read got => ?_
  exact (rest read.1 got.1).bind fun b is => .ok ⟨is, got.2⟩

end Parts

theorem reports_readWord : Reports OneLine readWord := by
  intro pieces tame
  refine (reports_next pieces tame).bind fun read got => ?_
  obtain ⟨token, rest⟩ := read
  cases token with
  | word word => exact .ok got
  | _ => exact .error (oneLine_unexpected .number _)

theorem reports_readKey : Reports (fun _ => True) readKey := by
  intro pieces tame
  refine (reports_next pieces tame).bind fun read got => ?_
  obtain ⟨token, after⟩ := read
  cases token with
  | word key | quoted key =>
    refine Meets.bind (x := next after) (reports_next after got.2) fun read rest => ?_
    obtain ⟨token, later⟩ := read
    cases token with
    | colon => exact .ok ⟨trivial, rest.2⟩
    | _ => exact .error (oneLine_unexpected .colon _)
  | _ => exact .error (oneLine_unexpected .key _)

theorem reports_readEntry {item : Reader Tag} (h : Reports (fun _ => True) item) :
    Reports (fun _ => True) (readEntry item) := by
  intro pieces tame
  refine (reports_readKey pieces tame).bind fun read got => ?_
  exact (h read.2 got.2).bind fun value rest => .ok rest

/-! ## Brackets and trees -/

theorem meets_elements (kind : ArrayKind) {words : List String} (h : ∀ word ∈ words, OneLine word) :
    Meets (fun e : Error => OneLine e.message) (fun _ => True) (elements kind words) := by
  refine Meets.mapM fun word mem => ?_
  split
  · exact .ok trivial
  · have letter : OneLine kind.letter := by cases kind <;> decide
    refine .error ?_
    unfold Error.message
    simp only [oneLine_append]
    exact ⟨⟨⟨⟨by decide, h word mem⟩, by decide⟩, letter⟩, by decide⟩

section Brackets

variable {item : Reader Tag} (h : Reports (fun _ => True) item)
include h

theorem reports_readCompound : Reports (fun _ => True) (readCompound item) := by
  rw [show readCompound item = _ from funext (readCompound_eq item)]
  exact (reports_readSequence (reports_readEntry h) .key .commaOrBrace).convert
    fun _ _ => .ok trivial

omit h in
theorem reports_readArray (kind : ArrayKind) : Reports (fun _ => True) (readArray kind) := by
  rw [show readArray kind = _ from funext (readArray_eq kind)]
  exact (reports_readSequence reports_readWord .number .commaOrBracket).convert fun words are =>
    (meets_elements kind are).bind fun _ _ => .ok trivial

theorem reports_readList : Reports (fun _ => True) (readList item) := by
  intro pieces tame
  by_cases typed : ∃ name rest, pieces = .ok (.word name) :: .ok .semicolon :: rest
  · obtain ⟨name, rest, rfl⟩ := typed
    obtain ⟨named, after⟩ := List.forall_mem_cons.1 tame
    rw [readList]
    split
    · exact reports_readArray _ rest (List.forall_mem_cons.1 after).2
    · refine .error ?_
      exact OneLine.between named (by decide) (by decide)
  · rw [readList_eq item fun name rest equal => typed ⟨name, rest, equal⟩]
    have items : Reports (fun _ => True)
        (convert (readSequence item .closeBracket .value .commaOrBracket) fun items =>
          .ok (Tag.list items)) :=
      (reports_readSequence h .value .commaOrBracket).convert fun _ _ => .ok trivial
    exact items pieces tame

end Brackets

theorem reports_readValue (depth : Nat) : Reports (fun _ => True) (readValue depth) := by
  have deep : OneLine (Error.message .tooDeep) :=
    (oneLine_toString maxDepth).between (by decide) (by decide)
  induction depth using Nat.strong_induction_on with
  | _ depth ih =>
    intro pieces tame
    rw [readValue]
    refine (reports_next pieces tame).bind fun read got => ?_
    obtain ⟨token, rest⟩ := read
    cases token with
    | openBrace =>
      cases depth with
      | zero => exact .error deep
      | succ depth => exact reports_readCompound (ih depth (by omega)) rest got.2
    | openBracket =>
      cases depth with
      | zero => exact .error deep
      | succ depth => exact reports_readList (ih depth (by omega)) rest got.2
    | word | quoted => exact .ok ⟨trivial, got.2⟩
    | _ => exact .error (oneLine_unexpected .value _)

/-- The report about a text that is no data patch is one line, whatever the text is. -/
theorem oneLine_of_parse_error {s : String} {e : Error} (h : parse s = .error e) :
    OneLine e.message := by
  have reported : Meets (fun e : Error => OneLine e.message) (fun _ => True) (parse s) := by
    refine (reports_readValue maxDepth (scan s) (isTame_scan s)).bind fun read got => ?_
    refine (reports_next read.2 got.2).bind fun last _ => ?_
    obtain ⟨tag, rest⟩ := read
    obtain ⟨token, final⟩ := last
    by_cases ends : token = .endOfText
    · subst ends
      cases tag with
      | compound => exact .ok trivial
      | _ => exact .error (by decide : OneLine "data patch must be a compound")
    · simp only [ne_eq, ends, not_false_eq_true, if_true]
      exact .error (oneLine_unexpected .endOfText _)
  exact reported.of_error h

end Tag

end Storyboard
