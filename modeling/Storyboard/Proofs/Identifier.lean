import Storyboard.Identifier
import Storyboard.Proofs.Text.Run

/-!
# Identifiers and the names of their files

The text of a valid identifier tells its parts. The name of its file does not: there, a colon and a
slash are written like an underscore, which may be a part of a name itself.

## Main definitions

* `Identifier.IsValid`: both parts have characters, all of which are allowed there.
* `Identifier.Alike`: the texts of two identifiers differ in separators only.

## Main statements

* `Identifier.make_eq_ok_iff`, `Identifier.isValid_of_parse`: identifiers that are made are valid.
* `Identifier.eq_of_text_eq`: the text tells valid identifiers apart.
* `Identifier.fileStem_eq_iff`: which valid identifiers have files of one name.
* `Identifier.eq_of_fileStem_eq`: identifiers that underscores do not confuse.
-/

namespace Storyboard.Identifier

variable {id a b : Identifier}

theorem eq_of_toList_eq (space : a.space.toList = b.space.toList)
    (path : a.path.toList = b.path.toList) : a = b := by
  obtain ⟨aSpace, aPath⟩ := a
  obtain ⟨bSpace, bPath⟩ := b
  rw [mk.injEq]
  exact ⟨String.toList_inj.1 space, String.toList_inj.1 path⟩

/-! ## Validity -/

/-- Both parts have characters, all of which are allowed there. -/
structure IsValid (id : Identifier) : Prop where
  space_ne : id.space ≠ ""
  path_ne : id.path ≠ ""
  space_chars : ∀ c ∈ id.space.toList, isSpaceChar c
  path_chars : ∀ c ∈ id.path.toList, isPathChar c

theorem make_eq_ok_iff {space path : String} :
    make space path = .ok id ↔ id = ⟨space, path⟩ ∧ id.IsValid := by
  constructor
  · intro h
    unfold make at h
    simp only at h
    split at h
    · cases h
    next space_ne =>
    split at h
    · cases h
    next path_ne =>
    split at h
    · cases h
    next space_chars =>
    split at h
    · cases h
    next path_chars =>
    obtain rfl := Except.ok.inj h
    exact ⟨rfl, space_ne, path_ne, by simpa using space_chars, by simpa using path_chars⟩
  · rintro ⟨rfl, valid⟩
    have space : space.toList.find? (!isSpaceChar ·) = none := by simpa using valid.space_chars
    have path : path.toList.find? (!isPathChar ·) = none := by simpa using valid.path_chars
    simp only [make, if_neg valid.space_ne, if_neg valid.path_ne, space, path]

theorem isValid_of_parse {s : String} (h : parse s = .ok id) : id.IsValid := by
  unfold parse at h
  split at h
  · cases h
  split at h
  · exact (make_eq_ok_iff.1 h).2
  · exact (make_eq_ok_iff.1 h).2
  · cases h

namespace IsValid

variable (valid : id.IsValid)
include valid

theorem notMem_space {c : Char} (other : isSpaceChar c = false) : c ∉ id.space.toList := by
  intro mem
  simp [valid.space_chars c mem] at other

theorem notMem_path {c : Char} (other : isPathChar c = false) : c ∉ id.path.toList := by
  intro mem
  simp [valid.path_chars c mem] at other

end IsValid

/-! ## Texts -/

theorem toList_text (id : Identifier) :
    id.text.toList = id.space.toList ++ ':' :: id.path.toList := by
  simp [text]

/-- The first part ends at the only colon. -/
theorem eq_of_text_eq (ha : a.IsValid) (hb : b.IsValid) (same : a.text = b.text) : a = b := by
  have cut (id : Identifier) (valid : id.IsValid) :
      id.text.toList.takeWhile (· ≠ ':') = id.space.toList := by
    rw [toList_text]
    exact takeWhile_run (forall_ne_of_notMem (valid.notMem_space (by decide))) (by simp)
  have space : a.space.toList = b.space.toList := by rw [← cut a ha, ← cut b hb, same]
  have lists := congrArg String.toList same
  rw [toList_text, toList_text, space, List.append_cancel_left_eq, List.cons.injEq] at lists
  exact eq_of_toList_eq space lists.2

/-! ## Names of files -/

/-- The separators between and within the parts of an identifier, and the character that stands for
them in the name of a file. -/
def isSeparator (c : Char) : Bool :=
  c = ':' || c = '/' || c = '_'

/-- The texts of the identifiers are the same but for separators in place of others. -/
def Alike (a b : Identifier) : Prop :=
  List.Forall₂ (fun c d => c = d ∨ isSeparator c ∧ isSeparator d) a.text.toList b.text.toList

/-- The character of a file name for one of an identifier. -/
def stemChar (c : Char) : Char :=
  if isSeparator c then '_' else c

theorem stemChar_eq_iff {c d : Char} :
    stemChar c = stemChar d ↔ c = d ∨ isSeparator c ∧ isSeparator d := by
  unfold stemChar isSeparator
  grind

theorem toList_fileStem (valid : id.IsValid) :
    id.fileStem.toList = id.text.toList.map stemChar := by
  have space : id.space.toList.map stemChar = id.space.toList := by
    refine (List.map_congr_left fun c mem => ?_).trans (List.map_id' _)
    have colon : c ≠ ':' := ne_of_mem_of_not_mem mem (valid.notMem_space (by decide))
    have slash : c ≠ '/' := ne_of_mem_of_not_mem mem (valid.notMem_space (by decide))
    simp only [stemChar, isSeparator]
    grind
  have path : id.path.toList.map stemChar =
      id.path.toList.map fun c => if c = '/' then '_' else c := by
    refine List.map_congr_left fun c mem => ?_
    have colon : c ≠ ':' := ne_of_mem_of_not_mem mem (valid.notMem_path (by decide))
    simp only [stemChar, isSeparator]
    grind
  rw [toList_text, List.map_append, List.map_cons, space, path]
  simp [fileStem, stemChar, isSeparator]

/-- Files of valid identifiers have one name exactly when the identifiers are alike. -/
theorem fileStem_eq_iff (ha : a.IsValid) (hb : b.IsValid) :
    a.fileStem = b.fileStem ↔ Alike a b := by
  rw [← String.toList_inj, toList_fileStem ha, toList_fileStem hb, ← List.forall₂_eq_eq_eq,
    List.forall₂_map_left_iff, List.forall₂_map_right_iff]
  simp only [stemChar_eq_iff]
  rfl

/-- The path as the name of a file has it tells paths apart that have no underscores, and such that
have no slashes. -/
theorem eq_of_map_slash {first second : List Char}
    (free : ('_' ∉ first ∧ '_' ∉ second) ∨ ('/' ∉ first ∧ '/' ∉ second))
    (same : (first.map fun c => if c = '/' then '_' else c) =
      second.map fun c => if c = '/' then '_' else c) : first = second := by
  rcases free with ⟨here, there⟩ | ⟨here, there⟩
  · -- Without underscores of its own, each underscore in the name was a slash.
    have back (cs : List Char) (free : '_' ∉ cs) :
        ((cs.map fun c => if c = '/' then '_' else c).map fun c => if c = '_' then '/' else c) =
          cs := by
      rw [List.map_map]
      refine (List.map_congr_left fun c mem => ?_).trans (List.map_id' _)
      have other : c ≠ '_' := ne_of_mem_of_not_mem mem free
      simp only [Function.comp]
      grind
    rw [← back first here, ← back second there, same]
  · have kept (cs : List Char) (free : '/' ∉ cs) :
        (cs.map fun c => if c = '/' then '_' else c) = cs := by
      refine (List.map_congr_left fun c mem => ?_).trans (List.map_id' _)
      exact if_neg (ne_of_mem_of_not_mem mem free)
    rwa [kept first here, kept second there] at same

/-- Files have different names if no namespace has an underscore in it, and the paths have no
underscores or no slashes. -/
theorem eq_of_fileStem_eq (spaces : '_' ∉ a.space.toList ∧ '_' ∉ b.space.toList)
    (paths : ('_' ∉ a.path.toList ∧ '_' ∉ b.path.toList) ∨
      ('/' ∉ a.path.toList ∧ '/' ∉ b.path.toList))
    (same : a.fileStem = b.fileStem) : a = b := by
  have stem (id : Identifier) : id.fileStem.toList =
      id.space.toList ++ '_' :: id.path.toList.map fun c => if c = '/' then '_' else c := by
    simp [fileStem]
  have cut (id : Identifier) (free : '_' ∉ id.space.toList) :
      id.fileStem.toList.takeWhile (· ≠ '_') = id.space.toList := by
    rw [stem]
    exact takeWhile_run (forall_ne_of_notMem free) (by simp)
  have space : a.space.toList = b.space.toList := by
    rw [← cut a spaces.1, ← cut b spaces.2, same]
  have lists := congrArg String.toList same
  rw [stem, stem, space, List.append_cancel_left_eq, List.cons.injEq] at lists
  exact eq_of_toList_eq space (eq_of_map_slash paths lists.2)

end Storyboard.Identifier
