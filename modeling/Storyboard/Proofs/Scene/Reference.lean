import Storyboard.Compile
import Storyboard.Proofs.Outcome
import Storyboard.Proofs.Text.Comment

/-!
# Reports about names

A text that is no identifier is quoted in the report about it, and so is a reference that names no
structure. A comment holds such a report exactly if it holds the texts that the report quotes.

## Main definitions

* `Identifier.Error.quotes`, `Structure.Error.quotes`: the texts that a report quotes.
* `Structure.Tells`: a failure that quotes one line if the name that it is about is one.

## Main statements

* `Identifier.Error.fits_message`, `Structure.Error.fits_message`: reports in comments.
* `Identifier.meets_parse`: what reports about identifiers quote.
* `Structure.meets_resolve`: what reports about references quote.
-/

namespace Storyboard

/-! ## Identifiers -/

namespace Identifier

theorem Part.oneLine_name (part : Part) : OneLine part.name := by
  cases part <;> decide

/-- The texts that the report quotes. -/
def Error.quotes : Error → List String
  | .empty => []
  | .tooManySeparators text => [text]
  | .emptyPart _ text => [text]
  | .invalidChar c _ text => [c.toString, text]

theorem Error.fits_message (e : Error) : Fits e.message ↔ ∀ text ∈ e.quotes, Fits text := by
  cases e with
  | empty =>
    have one : OneLine "identifier is empty" := by decide
    exact iff_of_true (fits_of_oneLine one) (by simp [quotes])
  | tooManySeparators text =>
    unfold message quotes
    rw [List.forall_mem_singleton]
    exact (fits_append_solid (by decide)).trans (fits_append (by decide))
  | emptyPart part text =>
    unfold message quotes
    rw [List.forall_mem_singleton]
    exact (fits_around (by decide)).trans
      ((and_iff_left (fits_of_oneLine part.oneLine_name)).trans (fits_append (by decide)))
  | invalidChar c part text =>
    have mid : Solid ("` in " ++ part.name ++ " of `") := by cases part <;> decide
    have parts : (invalidChar c part text).message =
        "invalid character `" ++ c.toString ++ ("` in " ++ part.name ++ " of `") ++ text ++
          "`" := by
      unfold message
      simp only [String.append_assoc]
    unfold quotes
    rw [parts, List.forall_mem_cons, List.forall_mem_singleton]
    exact (fits_append_solid (by decide)).trans
      ((fits_around mid).trans (and_congr_left' (fits_append (by decide))))

theorem meets_make {space path : String} (first : OneLine space) (second : OneLine path) :
    Meets (fun e : Error => ∀ text ∈ e.quotes, OneLine text) (fun _ => True) (make space path) := by
  have text : OneLine (space ++ ":" ++ path) :=
    oneLine_append.2 ⟨oneLine_append.2 ⟨first, by decide⟩, second⟩
  have invalid {c : Char} {s : String} {p : Char → Bool} (part : Part) (one : OneLine s)
      (found : s.toList.find? p = some c) :
      ∀ t ∈ (Error.invalidChar c part (space ++ ":" ++ path)).quotes, OneLine t := by
    have char := oneLine_toString_char.2 (oneLine_iff.1 one c (List.mem_of_find?_eq_some found))
    simpa only [Error.quotes, List.forall_mem_cons, List.not_mem_nil, false_imp_iff, implies_true,
      and_true] using ⟨char, text⟩
  have empty (part : Part) :
      ∀ t ∈ (Error.emptyPart part (space ++ ":" ++ path)).quotes, OneLine t := by
    simpa only [Error.quotes, List.forall_mem_singleton] using text
  unfold make
  split
  · exact .error (empty .space)
  split
  · exact .error (empty .path)
  split
  next c found => exact .error (invalid .space first found)
  split
  next c found => exact .error (invalid .path second found)
  · exact .ok trivial

theorem meets_parse {s : String} (one : OneLine s) :
    Meets (fun e : Error => ∀ text ∈ e.quotes, OneLine text) (fun _ => True) (parse s) := by
  have chars : ∀ c ∈ [':'].intercalate (s.toList.splitOn ':'), isLineEnd c = false := by
    rw [List.intercalate_splitOn]
    exact oneLine_iff.1 one
  unfold parse
  split
  · exact .error (by simp [Error.quotes])
  split
  next path split =>
    rw [split] at chars
    exact meets_make (by decide) (oneLine_ofList.2 (by simpa using chars))
  next space path split =>
    have text : [':'].intercalate [space, path] = space ++ ':' :: path := by simp
    rw [split, text, List.forall_mem_append, List.forall_mem_cons] at chars
    exact meets_make (oneLine_ofList.2 chars.1) (oneLine_ofList.2 chars.2.2)
  next =>
    exact .error (by simpa [Error.quotes] using one)

theorem meets_parseIn {space s : String} (first : OneLine space) (one : OneLine s) :
    Meets (fun e : Error => ∀ text ∈ e.quotes, OneLine text) (fun _ => True) (parseIn space s) := by
  unfold parseIn
  split
  · exact meets_parse one
  · exact meets_make first one

end Identifier

/-! ## Structures -/

namespace Structure

/-- The texts that the report quotes. -/
def Error.quotes : Error → List String
  | .empty => []
  | .outOfRange index _ => [index]
  | .badIndex reference => [reference]
  | .badName reference cause => reference :: cause.quotes

theorem Error.fits_message (e : Error) : Fits e.message ↔ ∀ text ∈ e.quotes, Fits text := by
  cases e with
  | empty =>
    exact iff_of_true (fits_of_oneLine (by decide : OneLine "structure reference is empty"))
      (by simp [quotes])
  | outOfRange index poolSize =>
    unfold message quotes
    rw [List.forall_mem_singleton]
    exact (fits_around (by decide)).trans
      ((and_iff_left (fits_of_oneLine (oneLine_toString poolSize))).trans (fits_append (by decide)))
  | badIndex reference =>
    unfold message quotes
    rw [List.forall_mem_singleton]
    exact (fits_append_solid (by decide)).trans (fits_append (by decide))
  | badName reference cause =>
    unfold message quotes
    rw [List.forall_mem_cons, ← cause.fits_message]
    exact (fits_around (by decide)).trans (and_congr_left' (fits_append (by decide)))

/-- The texts that the report quotes are one line each if the name that it is about is. It may also
be about an index, which is always one line. -/
def Tells (cause : Error) : Prop :=
  (∀ name why, cause = .badName name why → OneLine name) → ∀ text ∈ cause.quotes, OneLine text

theorem tells_empty : Tells .empty := by
  simp [Tells, Error.quotes]

theorem meets_ofName (name : String) : Meets Tells (fun _ => True) (ofName name) := by
  unfold ofName
  simp only
  split
  · exact .error tells_empty
  have parsed (one : OneLine (trim name)) :=
    Identifier.meets_parseIn (by decide : OneLine defaultSpace) one
  split
  · exact .ok trivial
  next cause failed =>
    refine .error fun quotes => ?_
    have one := quotes _ _ rfl
    exact List.forall_mem_cons.2 ⟨one, (parsed one).of_error failed⟩

theorem meets_ofNumber (pool : List String) {reference : String} (one : OneLine reference) :
    Meets Tells (fun _ => True) (ofNumber pool reference) := by
  have quoted : ∀ text ∈ [reference], OneLine text := by simpa using one
  unfold ofNumber
  split
  · split
    · exact meets_ofName _
    · exact .error fun _ => quoted
  · split <;> exact .error fun _ => quoted

theorem meets_resolve (pool : List String) (reference : String) :
    Meets Tells (fun _ => True) (resolve pool reference) := by
  unfold resolve
  simp only
  split
  · exact .error tells_empty
  split
  next numeric =>
    have read : (Binary.read? .double (trim reference).toList).isSome := by
      unfold isNumeric at numeric
      exact (Bool.and_eq_true_iff.1 numeric).2
    exact meets_ofNumber pool (oneLine_of_read? read)
  next => exact meets_ofName (trim reference)

/-- Every reference that failed has a comment of this kind. -/
theorem tells_of_assigned {pool : List String} {segments : List Segment} {current : Identifier}
    {assigned : Identifier} {cause : Error}
    (h : (assigned, some cause) ∈ assignStructures pool current segments) : Tells cause := by
  induction segments generalizing current with
  | nil => cases h
  | cons segment segments ih =>
    rcases List.mem_cons.1 h with first | later
    · cases asked : reference? segment with
      | none => simp [asked, advance] at first
      | some reference =>
        rw [asked, advance] at first
        split at first
        next => cases first
        next failed =>
          cases first
          exact (meets_resolve pool reference).of_error failed
    · exact ih later

end Structure

end Storyboard
