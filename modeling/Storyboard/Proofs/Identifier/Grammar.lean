import Storyboard.Proofs.Identifier
import Storyboard.Proofs.Outcome

/-!
# The grammar of identifiers

Which texts are identifiers, and what is wrong with the others, said without a reader.

## Main definitions

* `Identifier.IsSpace`, `Identifier.IsPath`: the texts that may stand for the two parts.
* `Identifier.Writes`: the identifier of a text.
* `Identifier.Flawed`, `Identifier.Refuses`: what is wrong with two parts, and with a text.
* `Identifier.Made`: the identifiers that some reader gives.

## Main statements

* `Identifier.make_eq_error_iff`: what is reported of two parts.
* `Identifier.colon_cases`: a text has no colon, one, or more than one.
* `Identifier.reads_grammar`: identifiers are read by their grammar, and their texts are read back.
-/

namespace Storyboard.Identifier

variable {id : Identifier} {s space path : String} {e : Error} {c : Char}

/-! ## Grammar -/

/-- A character of namespaces: a small letter, a digit or one of three marks. -/
def SpaceChar (c : Char) : Prop :=
  ('a' ≤ c ∧ c ≤ 'z') ∨ ('0' ≤ c ∧ c ≤ '9') ∨ c = '_' ∨ c = '.' ∨ c = '-'

/-- A character of paths. -/
def PathChar (c : Char) : Prop :=
  SpaceChar c ∨ c = '/'

/-- The text may stand for a namespace. -/
def IsSpace (text : String) : Prop :=
  text ≠ "" ∧ ∀ c ∈ text.toList, SpaceChar c

/-- The text may stand for a path. -/
def IsPath (text : String) : Prop :=
  text ≠ "" ∧ ∀ c ∈ text.toList, PathChar c

/-- The identifier of a text: its two parts, or a path alone. -/
inductive Writes : String → Identifier → Prop
  | full {space path : String} (first : IsSpace space) (second : IsPath path) :
      Writes (space ++ ":" ++ path) ⟨space, path⟩
  | bare {path : String} (alone : IsPath path) : Writes path ⟨"minecraft", path⟩

/-- The first character of a text that is not of a class. -/
def FirstOutside (P : Char → Prop) (c : Char) (text : String) : Prop :=
  ∃ before after, text.toList = before ++ c :: after ∧ (∀ d ∈ before, P d) ∧ ¬P c

/-- What is wrong with two parts. A part without characters comes before a character out of place,
and the namespace before the path. -/
inductive Flawed : String → String → Error → Prop
  | emptySpace (path : String) : Flawed "" path (.emptyPart .space (text ⟨"", path⟩))
  | emptyPath {space : String} (some : space ≠ "") :
      Flawed space "" (.emptyPart .path (text ⟨space, ""⟩))
  | spaceChar {space path : String} {c : Char} (some : path ≠ "")
      (first : FirstOutside SpaceChar c space) :
      Flawed space path (.invalidChar c .space (text ⟨space, path⟩))
  | pathChar {space path : String} {c : Char} (fine : IsSpace space)
      (first : FirstOutside PathChar c path) :
      Flawed space path (.invalidChar c .path (text ⟨space, path⟩))

/-- What is wrong with a text: nothing is in it, it has more than one colon, or its parts do not
fit. -/
inductive Refuses : String → Error → Prop
  | empty : Refuses "" .empty
  | separators {s : String} (many : 2 ≤ s.toList.count ':') : Refuses s (.tooManySeparators s)
  | full {space path : String} {e : Error} (one : (space ++ ":" ++ path).toList.count ':' = 1)
      (flawed : Flawed space path e) : Refuses (space ++ ":" ++ path) e
  | bare {path : String} {e : Error} (some : path ≠ "") (alone : path.toList.count ':' = 0)
      (flawed : Flawed "minecraft" path e) : Refuses path e

/-- The identifiers that some reader gives. -/
inductive Made (id : Identifier) : Prop
  | make {space path : String} (made : make space path = .ok id)
  | parse {s : String} (read : parse s = .ok id)
  | parseIn {space s : String} (read : parseIn space s = .ok id)
  | stored {value : Json} (read : ofJson? value = some id)

/-! ## Parts -/

theorem isSpaceChar_iff : isSpaceChar c ↔ SpaceChar c := by
  have lower : c.isLower ↔ 'a' ≤ c ∧ c ≤ 'z' := by
    change (decide (97 ≤ c.val) && decide (c.val ≤ 122)) = true ↔ 97 ≤ c.val ∧ c.val ≤ 122
    simp
  have digit : c.isDigit ↔ '0' ≤ c ∧ c ≤ '9' := by
    change (decide (48 ≤ c.val) && decide (c.val ≤ 57)) = true ↔ 48 ≤ c.val ∧ c.val ≤ 57
    simp
  simp only [isSpaceChar, SpaceChar, Bool.or_eq_true, decide_eq_true_eq, lower, digit]
  tauto

theorem isPathChar_iff : isPathChar c ↔ PathChar c := by
  simp only [isPathChar, PathChar, Bool.or_eq_true, decide_eq_true_eq, isSpaceChar_iff]

theorem isValid_iff : id.IsValid ↔ IsSpace id.space ∧ IsPath id.path := by
  simp only [IsSpace, IsPath, ← isSpaceChar_iff, ← isPathChar_iff]
  exact ⟨fun h => ⟨⟨h.space_ne, h.space_chars⟩, h.path_ne, h.path_chars⟩,
    fun h => ⟨h.1.1, h.2.1, h.1.2, h.2.2⟩⟩

theorem find?_eq_some_iff {P : Char → Prop} {p : Char → Bool} (same : ∀ c, p c ↔ P c) :
    s.toList.find? (!p ·) = some c ↔ FirstOutside P c s := by
  rw [List.find?_eq_some_iff_append]
  simp only [FirstOutside, ← same]
  grind

/-- Two parts are reported by the first thing that is wrong with them. -/
theorem make_eq_error_iff : make space path = .error e ↔ Flawed space path e := by
  have outside (c : Char) :
      space.toList.find? (!isSpaceChar ·) = some c ↔ FirstOutside SpaceChar c space :=
    find?_eq_some_iff fun _ => isSpaceChar_iff
  have outside' (c : Char) :
      path.toList.find? (!isPathChar ·) = some c ↔ FirstOutside PathChar c path :=
    find?_eq_some_iff fun _ => isPathChar_iff
  constructor
  · intro h
    unfold make at h
    simp only at h
    split at h
    next empty =>
      cases h
      subst empty
      exact .emptySpace path
    next some =>
    split at h
    next empty =>
      cases h
      subst empty
      exact .emptyPath some
    next some' =>
    split at h
    next c found =>
      cases h
      exact .spaceChar some' ((outside c).1 found)
    next fine =>
    split at h
    next c found =>
      cases h
      refine .pathChar ⟨some, fun c mem => isSpaceChar_iff.1 ?_⟩ ((outside' c).1 found)
      simpa using List.find?_eq_none.1 fine c mem
    next => cases h
  · rintro (_ | some | ⟨some, first⟩ | ⟨fine, first⟩)
    · rfl
    · simp [make, some, text]
    · have some' : space ≠ "" := by
        rintro rfl
        obtain ⟨before, after, split, -⟩ := first
        simp at split
      simp [make, some, some', (outside _).2 first, text]
    · have some : path ≠ "" := by
        rintro rfl
        obtain ⟨before, after, split, -⟩ := first
        simp at split
      have none : space.toList.find? (!isSpaceChar ·) = none := by
        simpa [isSpaceChar_iff] using fine.2
      simp [make, some, fine.1, none, (outside' _).2 first, text]

/-! ## Texts -/

theorem count_colon (space path : String) :
    (space ++ ":" ++ path).toList.count ':' =
      space.toList.count ':' + path.toList.count ':' + 1 := by
  have text : (space ++ ":" ++ path).toList = space.toList ++ ':' :: path.toList := by simp
  rw [text, List.count_append, List.count_cons_self]
  omega

/-- A text has no colon, or it is two parts with the first colon between them. -/
theorem colon_cases (s : String) :
    s.toList.count ':' = 0 ∨
      ∃ space path, s = space ++ ":" ++ path ∧ space.toList.count ':' = 0 := by
  by_cases colon : ':' ∈ s.toList
  · obtain ⟨before, after, split, first⟩ := List.eq_append_cons_of_mem colon
    refine .inr ⟨String.ofList before, String.ofList after, ?_, ?_⟩
    · exact String.toList_inj.1 (by simp [split])
    · simpa [List.count_eq_zero] using first
  · exact .inl (List.count_eq_zero.2 colon)

/-- A text is cut at its first colon, and what follows is cut further. -/
theorem splitOn_full (first : space.toList.count ':' = 0) :
    (space ++ ":" ++ path).toList.splitOn ':' = space.toList :: path.toList.splitOn ':' := by
  have text : (space ++ ":" ++ path).toList = space.toList ++ ':' :: path.toList := by simp
  rw [text, List.splitOn_append_cons_self_of_not_mem (List.count_eq_zero.1 first)]

theorem parse_bare (some : s ≠ "") (alone : s.toList.count ':' = 0) :
    parse s = make "minecraft" s := by
  rw [parse, if_neg some, List.splitOn_eq_singleton (List.count_eq_zero.1 alone)]
  simp [defaultSpace]

theorem parse_full (one : (space ++ ":" ++ path).toList.count ':' = 1) :
    parse (space ++ ":" ++ path) = make space path := by
  have some : space ++ ":" ++ path ≠ "" := by simp
  rw [count_colon] at one
  have parts : (space ++ ":" ++ path).toList.splitOn ':' = [space.toList, path.toList] := by
    rw [splitOn_full (by omega), List.splitOn_eq_singleton (List.count_eq_zero.1 (by omega))]
  rw [parse, if_neg some, parts]
  simp

theorem parse_separators (many : 2 ≤ s.toList.count ':') :
    parse s = .error (.tooManySeparators s) := by
  have some : s ≠ "" := by
    rintro rfl
    simp at many
  obtain alone | ⟨first, rest, rfl, none⟩ := colon_cases s
  · omega
  obtain alone | ⟨second, third, rfl, none'⟩ := colon_cases rest
  · rw [count_colon] at many
    omega
  obtain ⟨piece, pieces, more⟩ := List.exists_cons_of_ne_nil (List.splitOn_ne_nil ':' third.toList)
  rw [parse, if_neg some, splitOn_full none, splitOn_full none', more]

/-- The four ways to read a text. -/
theorem text_cases (s : String) :
    s = "" ∨ 2 ≤ s.toList.count ':' ∨
      (∃ space path, s = space ++ ":" ++ path ∧ s.toList.count ':' = 1) ∨
      s ≠ "" ∧ s.toList.count ':' = 0 := by
  obtain alone | ⟨space, path, rfl, none⟩ := colon_cases s
  · by_cases empty : s = ""
    · exact .inl empty
    · exact .inr (.inr (.inr ⟨empty, alone⟩))
  · have total := count_colon space path
    rcases Nat.eq_zero_or_pos (path.toList.count ':') with none' | more
    · exact .inr (.inr (.inl ⟨space, path, rfl, by omega⟩))
    · exact .inr (.inl (by omega))

theorem IsPath.count_colon {text : String} (h : IsPath text) : text.toList.count ':' = 0 := by
  refine List.count_eq_zero.2 fun mem => ?_
  have colon := isPathChar_iff.2 (h.2 ':' mem)
  revert colon
  decide

theorem IsSpace.isPath {text : String} (h : IsSpace text) : IsPath text :=
  ⟨h.1, fun c mem => .inl (h.2 c mem)⟩

theorem make_eq_ok_iff_parts :
    make space path = .ok id ↔ id = ⟨space, path⟩ ∧ IsSpace space ∧ IsPath path := by
  rw [make_eq_ok_iff, isValid_iff]
  refine and_congr_right ?_
  rintro rfl
  rfl

theorem isSpace_minecraft : IsSpace "minecraft" := by
  refine ⟨by decide, fun c mem => isSpaceChar_iff.1 ?_⟩
  exact List.all_eq_true.1 (by decide) c mem

theorem count_colon_of_parts (first : IsSpace space) (second : IsPath path) :
    (space ++ ":" ++ path).toList.count ':' = 1 := by
  rw [count_colon, first.isPath.count_colon, second.count_colon]

/-- A text is read if and only if it is in the grammar. -/
theorem parse_eq_ok_iff : parse s = .ok id ↔ Writes s id := by
  constructor
  · intro read
    obtain rfl | many | ⟨space, path, rfl, one⟩ | ⟨some, alone⟩ := text_cases s
    · cases read
    · rw [parse_separators many] at read
      cases read
    · rw [parse_full one] at read
      obtain ⟨rfl, first, second⟩ := make_eq_ok_iff_parts.1 read
      exact .full first second
    · rw [parse_bare some alone] at read
      obtain ⟨rfl, -, second⟩ := make_eq_ok_iff_parts.1 read
      exact .bare second
  · rintro (⟨first, second⟩ | alone)
    · rw [parse_full (count_colon_of_parts first second), make_eq_ok_iff_parts]
      exact ⟨rfl, first, second⟩
    · rw [parse_bare alone.1 alone.count_colon, make_eq_ok_iff_parts]
      exact ⟨rfl, isSpace_minecraft, alone⟩

/-- A text that is not read is reported by the first thing that is wrong with it. -/
theorem parse_eq_error_iff : parse s = .error e ↔ Refuses s e := by
  constructor
  · intro read
    obtain rfl | many | ⟨space, path, rfl, one⟩ | ⟨some, alone⟩ := text_cases s
    · cases read
      exact .empty
    · rw [parse_separators many] at read
      cases read
      exact .separators many
    · rw [parse_full one] at read
      exact .full one (make_eq_error_iff.1 read)
    · rw [parse_bare some alone] at read
      exact .bare some alone (make_eq_error_iff.1 read)
  · intro refused
    cases refused with
    | empty => rfl
    | separators many => exact parse_separators many
    | full one flawed =>
      rw [parse_full one]
      exact make_eq_error_iff.2 flawed
    | bare some alone flawed =>
      rw [parse_bare some alone]
      exact make_eq_error_iff.2 flawed

/-! ## Identifiers -/

/-- Every identifier that a reader gives has parts of the grammar. -/
theorem Made.isValid (made : Made id) : id.IsValid := by
  cases made with
  | make made => exact (make_eq_ok_iff.1 made).2
  | parse read => exact isValid_of_parse read
  | @parseIn space s read =>
    unfold Identifier.parseIn at read
    split at read
    · exact isValid_of_parse read
    · exact (make_eq_ok_iff.1 read).2
  | @stored value read =>
    cases value with
    | string s => exact isValid_of_parse (toOption_eq_some_iff.1 read)
    | _ => cases read

/-- A text is read as an identifier if and only if it is in the grammar, and reported by the first
thing that is wrong with it otherwise. A chosen namespace is for texts without a colon only.
Whatever reader gave it, an identifier has parts of the grammar and one colon in its text, which is
read back. -/
theorem reads_grammar (s : String) :
    (∀ id, parse s = .ok id ↔ Writes s id) ∧ (∀ e, parse s = .error e ↔ Refuses s e) ∧
    (∀ space, (':' ∈ s.toList → parseIn space s = parse s) ∧
      (':' ∉ s.toList → parseIn space s = make space s)) ∧
    ∀ id, Made id → IsSpace id.space ∧ IsPath id.path ∧ id.text.toList.count ':' = 1 ∧
      parse id.text = .ok id := by
  refine ⟨fun id => parse_eq_ok_iff, fun e => parse_eq_error_iff, fun space => ?_,
    fun id made => ?_⟩
  · constructor <;> intro colon <;> simp [parseIn, colon]
  · obtain ⟨first, second⟩ := isValid_iff.1 made.isValid
    exact ⟨first, second, count_colon_of_parts first second, parse_eq_ok_iff.2 (.full first second)⟩

theorem reads_grammar_gearbox :
    (':' ∉ "gear/box".toList ∧ parseIn "kubejs" "gear/box" = make "kubejs" "gear/box") ∧
    (':' ∈ "kubejs:gear/box".toList ∧
      parseIn "demo" "kubejs:gear/box" = parse "kubejs:gear/box") ∧
    Made ⟨"kubejs", "gear/box"⟩ ∧ parse "kubejs:gear/box" = .ok ⟨"kubejs", "gear/box"⟩ ∧
    parse "kubejs:" = .error (.emptyPart .path "kubejs:") := by
  have bare : ':' ∉ "gear/box".toList := by decide
  have full : ':' ∈ "kubejs:gear/box".toList := by decide
  have read : parseIn "kubejs" "gear/box" = .ok ⟨"kubejs", "gear/box"⟩ := rfl
  have made : Made ⟨"kubejs", "gear/box"⟩ := .parseIn read
  have refused : Refuses ("kubejs" ++ ":" ++ "") (.emptyPart .path (text ⟨"kubejs", ""⟩)) :=
    .full (by decide) (.emptyPath (by decide))
  obtain ⟨-, -, alone, back⟩ := reads_grammar "gear/box"
  obtain ⟨-, -, chosen, -⟩ := reads_grammar "kubejs:gear/box"
  exact ⟨⟨bare, (alone _).2 bare⟩, ⟨full, (chosen _).1 full⟩, made, (back _ made).2.2.2,
    ((reads_grammar "kubejs:").2.1 _).2 refused⟩

end Storyboard.Identifier
