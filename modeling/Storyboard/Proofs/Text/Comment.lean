import Storyboard.Proofs.Text.Line

/-!
# Texts in comments

A comment that quotes a text is still one exactly if each line of the quoted text but the first is a
comment by itself. Words around the quoted text change nothing about that, as long as they end no
line and cannot complete the start of a comment.

## Main definitions

* `IsComment`: every line of the text is a comment.
* `Fits`: the text may follow the start of a comment.
* `Solid`: a text that cannot complete the start of a comment.

## Main statements

* `isComment_append_iff`: a comment is one exactly if what follows its start fits.
* `fits_append`, `fits_around`: a text fits exactly if the texts that it quotes do.
-/

namespace Storyboard

/-- Every line of the text is a comment, with or without blanks in front. -/
def IsComment (text : String) : Prop :=
  ∀ line ∈ text.toList.splitOnP isLineEnd, ['/', '/'] <+: line.dropWhile isBlank

instance (text : String) : Decidable (IsComment text) :=
  inferInstanceAs (Decidable (∀ line ∈ _, _))

/-- The text may follow the start of a comment: its other lines are comments by themselves. -/
def Fits (text : String) : Prop :=
  IsComment ("//" ++ text)

instance (text : String) : Decidable (Fits text) :=
  inferInstanceAs (Decidable (IsComment _))

/-- The text is one line, and its first character that is no blank is no slash. -/
def Solid (text : String) : Prop :=
  OneLine text ∧ (text.toList.find? (!isBlank ·)).any (· ≠ '/')

instance (text : String) : Decidable (Solid text) :=
  inferInstanceAs (Decidable (_ ∧ _))

/-! ## Lines one by one -/

/-- The first line of a text. -/
def firstLine (cs : List Char) : List Char :=
  cs.takeWhile (!isLineEnd ·)

/-- The first line is a comment. -/
def opensComment : List Char → Bool
  | [] => false
  | c :: cs =>
    if isLineEnd c then false
    else if isBlank c then opensComment cs
    else c = '/' && cs.head? = some '/'

/-- Every line but the first is a comment. -/
def goesOn : List Char → Bool
  | [] => true
  | c :: cs => (!isLineEnd c || opensComment cs) && goesOn cs

variable {c : Char} {cs front : List Char} {s t mid indent : String}

theorem opensComment_iff : opensComment cs ↔ ['/', '/'] <+: (firstLine cs).dropWhile isBlank := by
  induction cs with
  | nil => simp [opensComment, firstLine]
  | cons c cs ih =>
    rw [opensComment, firstLine, List.takeWhile_cons]
    cases stops : isLineEnd c with
    | true => simp
    | false =>
      cases blank : isBlank c with
      | true => simpa [blank, firstLine] using ih
      | false =>
        have second : ['/'] <+: firstLine cs ↔ cs.head? = some '/' := by
          have slash : isLineEnd '/' = false := by decide
          cases cs with
          | nil => simp [firstLine]
          | cons d ds =>
            cases stops : isLineEnd d with
            | true =>
              have other : d ≠ '/' := by
                rintro rfl
                rw [slash] at stops
                cases stops
              simp [firstLine, stops, other]
            | false => simp [firstLine, stops, eq_comm]
        rw [firstLine] at second
        simp [blank, second, @eq_comm _ '/' c]

theorem exists_splitOnP (cs : List Char) :
    ∃ rest, cs.splitOnP isLineEnd = firstLine cs :: rest ∧
      (goesOn cs ↔ ∀ line ∈ rest, ['/', '/'] <+: line.dropWhile isBlank) := by
  induction cs with
  | nil => exact ⟨[], by simp [firstLine], by simp [goesOn]⟩
  | cons c cs ih =>
    obtain ⟨rest, split, more⟩ := ih
    rw [List.splitOnP_cons_eq_if_modifyHead, split]
    cases stops : isLineEnd c with
    | true =>
      refine ⟨firstLine cs :: rest, by simp [firstLine, stops], ?_⟩
      rw [List.forall_mem_cons, ← opensComment_iff, ← more]
      simp [goesOn, stops]
    | false => exact ⟨rest, by simp [firstLine, stops], by simp [goesOn, stops, more]⟩

theorem isComment_iff : IsComment s ↔ opensComment s.toList ∧ goesOn s.toList := by
  obtain ⟨rest, split, more⟩ := exists_splitOnP s.toList
  rw [IsComment, split, List.forall_mem_cons, ← opensComment_iff, ← more]

theorem goesOn_append (one : ∀ c ∈ front, isLineEnd c = false) :
    goesOn (front ++ cs) = goesOn cs := by
  induction front with
  | nil => rfl
  | cons c front ih =>
    obtain ⟨first, one⟩ := List.forall_mem_cons.1 one
    rw [List.cons_append, goesOn, first, ih one]
    rfl

theorem opensComment_indent (blank : ∀ c ∈ front, isBlank c)
    (one : ∀ c ∈ front, isLineEnd c = false) : opensComment (front ++ '/' :: '/' :: cs) := by
  induction front with
  | nil => rfl
  | cons c front ih =>
    obtain ⟨first, blank⟩ := List.forall_mem_cons.1 blank
    obtain ⟨inside, one⟩ := List.forall_mem_cons.1 one
    rw [List.cons_append, opensComment, inside, first]
    exact ih blank one

theorem isComment_append_iff_goesOn (blank : ∀ c ∈ indent.toList, isBlank c)
    (one : OneLine indent) : IsComment (indent ++ ("//" ++ s)) ↔ goesOn s.toList := by
  have text : (indent ++ ("//" ++ s)).toList = indent.toList ++ '/' :: '/' :: s.toList := by simp
  rw [isComment_iff, text, goesOn_append (oneLine_iff.1 one),
    and_iff_right (opensComment_indent blank (oneLine_iff.1 one))]
  rfl

theorem fits_iff_goesOn : Fits s ↔ goesOn s.toList := by
  have bare := @isComment_append_iff_goesOn s "" (by simp) (by decide)
  rwa [String.empty_append] at bare

/-! ## Texts that fit -/

/-- A comment is one exactly if what follows its start fits. -/
theorem isComment_append_iff (blank : ∀ c ∈ indent.toList, isBlank c) (one : OneLine indent) :
    IsComment (indent ++ ("//" ++ s)) ↔ Fits s := by
  rw [isComment_append_iff_goesOn blank one, fits_iff_goesOn]

/-- One line in front of a text changes nothing. -/
theorem fits_append (one : OneLine s) : Fits (s ++ t) ↔ Fits t := by
  rw [fits_iff_goesOn, fits_iff_goesOn, String.toList_append, goesOn_append (oneLine_iff.1 one)]

theorem fits_of_oneLine (one : OneLine s) : Fits s := by
  have empty : Fits (s ++ "") := (fits_append one).2 (by decide)
  rwa [String.append_empty] at empty

namespace Solid

theorem append (solid : Solid s) (one : OneLine t) : Solid (s ++ t) := by
  refine ⟨oneLine_append.2 ⟨solid.1, one⟩, ?_⟩
  obtain ⟨-, solid⟩ := solid
  rw [String.toList_append, List.find?_append]
  cases found : s.toList.find? (!isBlank ·) with
  | none => simp [found] at solid
  | some c => simpa [found] using solid

theorem opensComment_eq_false (solid : Solid mid) (rest : List Char) :
    opensComment (mid.toList ++ rest) = false ∧ (mid.toList ++ rest).head? ≠ some '/' := by
  obtain ⟨one, solid⟩ := solid
  have one := oneLine_iff.1 one
  generalize mid.toList = cs at one solid
  induction cs with
  | nil => simp at solid
  | cons c cs ih =>
    obtain ⟨first, one⟩ := List.forall_mem_cons.1 one
    have other : c ≠ '/' := by
      rintro rfl
      have slash : isBlank '/' = false := by decide
      simp [slash] at solid
    refine ⟨?_, by simpa using other⟩
    rw [List.cons_append, opensComment]
    cases blank : isBlank c with
    | true => simpa [first] using (ih one (by simpa [blank] using solid)).1
    | false => simp [other]

/-- A line that goes on with something solid starts as a comment if it did so before. -/
theorem opensComment_append (solid : Solid mid) (cs rest : List Char) :
    opensComment (cs ++ (mid.toList ++ rest)) = opensComment cs := by
  induction cs with
  | nil => exact (solid.opensComment_eq_false rest).1
  | cons c cs ih =>
    have next : (cs ++ (mid.toList ++ rest)).head? = some '/' ↔ cs.head? = some '/' := by
      cases cs with
      | nil => simpa using (solid.opensComment_eq_false rest).2
      | cons d ds => rfl
    simp only [List.cons_append, opensComment, ih, next]

end Solid

/-- What stands before something solid fits or not by itself, and so does what stands behind. -/
theorem fits_around (solid : Solid mid) : Fits (s ++ mid ++ t) ↔ Fits s ∧ Fits t := by
  have chars (cs : List Char) :
      goesOn (cs ++ (mid.toList ++ t.toList)) = (goesOn cs && goesOn t.toList) := by
    induction cs with
    | nil =>
      rw [List.nil_append, goesOn_append (oneLine_iff.1 solid.1)]
      rfl
    | cons c cs ih =>
      rw [List.cons_append, goesOn, solid.opensComment_append, ih, goesOn, Bool.and_assoc]
  rw [fits_iff_goesOn, fits_iff_goesOn, fits_iff_goesOn, String.toList_append,
    String.toList_append, List.append_assoc, chars, Bool.and_eq_true]

example : Fits "lid\n  // open" ∧ ¬Fits "lid\nopen" := by
  decide

theorem fits_append_solid (solid : Solid mid) : Fits (s ++ mid) ↔ Fits s := by
  have around := @fits_around s "" mid solid
  rw [String.append_empty] at around
  exact around.trans (and_iff_left (by decide))

end Storyboard
