import Mathlib.Data.List.TakeWhile
import Mathlib.Tactic

/-!
# Runs of characters

Readers take the longest run of characters of a class. Such a run is found again in front of a text
that does not go on with the class.

## Main definitions

* `Stops`: a text does not start with a character of a class.
* `callee`: the function that a line calls.

## Main statements

* `takeWhile_run`, `dropWhile_run`: a run is found again.
* `exists_run`: every text starts with a run.
-/

namespace Storyboard

/-- The text does not start with a character of the class `p`. -/
def Stops (p : Char → Bool) (rest : List Char) : Prop :=
  ∀ c ∈ rest.head?, p c = false

variable {p q : Char → Bool} {c : Char} {cs rest : List Char}

@[simp] theorem stops_nil : Stops p [] := by
  simp [Stops]

@[simp] theorem stops_cons : Stops p (c :: rest) ↔ p c = false := by
  simp [Stops]

theorem Stops.imp (stop : Stops p rest) (h : ∀ c, q c → p c) : Stops q rest := by
  intro c hc
  by_contra hq
  have hp := h c (by simpa using hq)
  simp [stop c hc] at hp

theorem takeWhile_of_stops (stop : Stops p rest) : rest.takeWhile p = [] := by
  cases rest with
  | nil => rfl
  | cons c rest => simp [stops_cons.1 stop]

theorem dropWhile_of_stops (stop : Stops p rest) : rest.dropWhile p = rest := by
  cases rest with
  | nil => rfl
  | cons c rest => simp [stops_cons.1 stop]

theorem takeWhile_run (run : ∀ c ∈ cs, p c) (stop : Stops p rest) :
    (cs ++ rest).takeWhile p = cs := by
  rw [List.takeWhile_append_of_pos run, takeWhile_of_stops stop, List.append_nil]

theorem dropWhile_run (run : ∀ c ∈ cs, p c) (stop : Stops p rest) :
    (cs ++ rest).dropWhile p = rest := by
  rw [List.dropWhile_append_of_pos run, dropWhile_of_stops stop]

theorem stops_dropWhile (p : Char → Bool) (text : List Char) : Stops p (text.dropWhile p) := by
  intro c front
  have stop := List.head?_dropWhile_not p text
  rwa [Option.mem_def.1 front] at stop

/-- Every text is a run, in front of one that does not go on with the class. -/
theorem exists_run (p : Char → Bool) (text : List Char) :
    ∃ run rest, text = run ++ rest ∧ (∀ c ∈ run, p c) ∧ Stops p rest :=
  ⟨text.takeWhile p, text.dropWhile p, List.takeWhile_append_dropWhile.symm,
    fun _ => List.mem_takeWhile_imp, stops_dropWhile p text⟩

/-! ## Lines that call functions -/

theorem forall_ne_of_notMem {stop : Char} (free : stop ∉ cs) :
    ∀ c ∈ cs, decide (c ≠ stop) = true := by
  intro c mem
  simpa using ne_of_mem_of_not_mem mem free

/-- The function that a line calls: what stands before the first parenthesis. -/
def callee (line : String) : String :=
  String.ofList (line.toList.takeWhile (· ≠ '('))

theorem callee_append {name : String} (free : '(' ∉ name.toList) (rest : String) :
    callee (name ++ "(" ++ rest) = name := by
  have text : (name ++ "(" ++ rest).toList = name.toList ++ '(' :: rest.toList := by simp
  rw [callee, text, takeWhile_run (forall_ne_of_notMem free) (by simp), String.ofList_toList]

end Storyboard
