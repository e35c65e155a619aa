import Mathlib
import Storyboard.Proofs.Tag.Word
import Storyboard.Text.Quoted

/-!
# Lines of text

Escaped text never ends a line; quoted text ends one when the text between the quotes does.

## Main definitions

* `OneLine`: nothing in the text ends a line.

## Main statements

* `oneLine_quoted`, `oneLine_shown`: lines of quoted and of escaped text.
* `oneLine_of_read?`: a numeral is one line.
-/

namespace Storyboard

/-- The character ends a line of a script. -/
def isLineEnd (c : Char) : Bool :=
  c = '\n' || c = '\r' || c = '\u2028' || c = '\u2029'

/-- Nothing in the text ends a line. -/
def OneLine (s : String) : Prop :=
  s.toList.all (!isLineEnd ·) = true

instance (s : String) : Decidable (OneLine s) :=
  inferInstanceAs (Decidable (_ = true))

variable {c : Char} {cs : List Char} {s t : String}

theorem isLineEnd_iff :
    isLineEnd c ↔ c = '\n' ∨ c = '\r' ∨ c = '\u2028' ∨ c = '\u2029' := by
  simp [isLineEnd, or_assoc]

theorem oneLine_iff : OneLine s ↔ ∀ c ∈ s.toList, isLineEnd c = false := by
  simp [OneLine]

theorem oneLine_ofList : OneLine (String.ofList cs) ↔ ∀ c ∈ cs, isLineEnd c = false := by
  rw [oneLine_iff, String.toList_ofList]

@[simp] theorem oneLine_append : OneLine (s ++ t) ↔ OneLine s ∧ OneLine t := by
  simp [OneLine]

theorem OneLine.between (h : OneLine s) {front back : String} (first : OneLine front)
    (last : OneLine back) : OneLine (front ++ s ++ back) :=
  oneLine_append.2 ⟨oneLine_append.2 ⟨first, h⟩, last⟩

theorem oneLine_toString_char : OneLine c.toString ↔ isLineEnd c = false := by
  simp [oneLine_iff, Char.toString_eq_singleton]

/-! ## Words -/

theorem isBlank_of_isLineEnd (h : isLineEnd c) : isBlank c := by
  rcases isLineEnd_iff.1 h with rfl | rfl | rfl | rfl <;> decide

theorem isLineEnd_of_isBlank (h : isBlank c = false) : isLineEnd c = false := by
  by_contra stops
  rw [isBlank_of_isLineEnd (by simpa using stops)] at h
  cases h

theorem isLineEnd_of_isWordChar (h : Token.isWordChar c) : isLineEnd c = false :=
  isLineEnd_of_isBlank (Token.isBlank_of_isWordChar h)

theorem isLineEnd_of_isDigit (h : c.isDigit) : isLineEnd c = false :=
  isLineEnd_of_isWordChar (Token.isWordChar_of_isDigit h)

theorem oneLine_toString (n : Nat) : OneLine (toString n) := by
  rw [oneLine_iff]
  intro c mem
  refine isLineEnd_of_isDigit (isDigit_digitsOf n c ?_)
  simpa [digitsOf] using mem

theorem oneLine_intercalate {ss : List String} (sep : OneLine s) (h : ∀ t ∈ ss, OneLine t) :
    OneLine (s.intercalate ss) := by
  induction ss with
  | nil => rfl
  | cons t ss ih =>
    have rest := ih fun t mem => h t (List.mem_cons_of_mem _ mem)
    cases ss with
    | nil => simpa using h t List.mem_cons_self
    | cons u ss =>
      rw [String.intercalate_cons_cons]
      simp [h t List.mem_cons_self, sep, rest]

/-! ## Quoted and escaped text -/

theorem oneLine_quoted (h : OneLine s) : OneLine (quoted s) := by
  have mark : isLineEnd '"' = false := by decide
  have escaped (cs : List Char) (free : ∀ c ∈ cs, isLineEnd c = false) :
      ∀ c ∈ escapeQuotes cs, isLineEnd c = false := by
    have backslash : isLineEnd '\\' = false := by decide
    induction cs with
    | nil => exact free
    | cons d cs ih =>
      obtain ⟨first, rest⟩ := List.forall_mem_cons.1 free
      rw [escapeQuotes]
      split <;> simpa [first, backslash] using ih rest
  rw [quoted, oneLine_ofList, quotedChars]
  simpa [mark, or_imp, forall_and] using escaped s.toList (oneLine_iff.1 h)

theorem isHidden_of_isLineEnd (h : isLineEnd c) : isHidden c := by
  rcases isLineEnd_iff.1 h with rfl | rfl | rfl | rfl <;> decide +kernel

theorem isLineEnd_digitChar {n : Nat} (h : n < 16) : isLineEnd n.digitChar = false := by
  interval_cases n <;> rfl

theorem isLineEnd_of_mem_toDigits {n : Nat} (h : c ∈ Nat.toDigits 16 n) : isLineEnd c = false := by
  induction n using Nat.strong_induction_on with
  | _ n ih =>
    rw [Nat.toDigits_eq_if (by decide)] at h
    split at h
    next small =>
      rw [List.mem_singleton.1 h]
      exact isLineEnd_digitChar small
    next large =>
      rcases List.mem_append.1 h with front | last
      · exact ih _ (by omega) front
      · rw [List.mem_singleton.1 last]
        exact isLineEnd_digitChar (Nat.mod_lt _ (by decide))

/-- What ends a line does not show by itself, so it is written out. -/
theorem all_showChar (c : Char) : (showChar c).all (!isLineEnd ·) := by
  unfold showChar
  split
  · rfl
  split
  · rfl
  split
  · rfl
  split
  · rfl
  split
  next mark => rcases mark with rfl | rfl <;> rfl
  split
  · have digits : (Nat.toDigits 16 c.toNat).all (!isLineEnd ·) :=
      List.all_eq_true.2 fun d mem => by rw [isLineEnd_of_mem_toDigits mem]; rfl
    rw [List.all_append, List.all_append, digits]
    rfl
  next shows =>
    rw [List.all_cons, List.all_nil, Bool.and_true, Bool.not_eq_true']
    by_contra stops
    exact shows (isHidden_of_isLineEnd (by simpa using stops))

theorem oneLine_shown (s : String) : OneLine (shown s) := by
  have shows : (s.toList.flatMap showChar).all (!isLineEnd ·) := by
    simp only [List.all_flatMap, all_showChar, List.all_eq_true, implies_true]
  have mark : isLineEnd '"' = false := rfl
  rw [OneLine, shown, String.toList_ofList, List.all_cons, List.all_append, shows]
  simp [mark]

/-! ## Numerals -/

section Numeral

variable {text : List Char}

theorem isLineEnd_of_digits (digits : ∀ c ∈ text, c.isDigit) : ∀ c ∈ text, isLineEnd c = false :=
  fun c mem => isLineEnd_of_isDigit (digits c mem)

theorem isLineEnd_of_writesInt {n : Int} (h : WritesInt text n) :
    ∀ c ∈ text, isLineEnd c = false := by
  cases h with
  | plain digits => exact isLineEnd_of_digits digits.2
  | plus digits | minus digits =>
    exact List.forall_mem_cons.2 ⟨rfl, isLineEnd_of_digits digits.2⟩

theorem isLineEnd_of_isNumeral (h : IsNumeral text) : ∀ c ∈ text, isLineEnd c = false := by
  obtain ⟨first, second⟩ := h
  refine List.forall_mem_append.2 ⟨?_, ?_⟩
  · cases first with
    | whole digits => exact isLineEnd_of_digits digits.2
    | point digits =>
      obtain ⟨before, behind⟩ := List.forall_mem_append.1 (isLineEnd_of_digits digits.2)
      exact List.forall_mem_append.2 ⟨before, List.forall_mem_cons.2 ⟨rfl, behind⟩⟩
  · cases second with
    | none => simp
    | some letter writes =>
      refine List.forall_mem_cons.2 ⟨?_, isLineEnd_of_writesInt writes⟩
      rcases letter with rfl | rfl <;> rfl

theorem isLineEnd_toLower (h : isLineEnd c) : isLineEnd c.toLower := by
  rcases isLineEnd_iff.1 h with rfl | rfl | rfl | rfl <;> rfl

theorem isLineEnd_of_isNumberText (h : IsNumberText text) : ∀ c ∈ text, isLineEnd c = false := by
  have signed {sign : List Char} (is : IsSign sign) : ∀ c ∈ sign, isLineEnd c = false := by
    rcases is with rfl | rfl | rfl <;> simp [isLineEnd]
  cases h with
  | numeral is number =>
    exact List.forall_mem_append.2 ⟨signed is, isLineEnd_of_isNumeral number⟩
  | @word sign body is named =>
    refine List.forall_mem_append.2 ⟨signed is, fun c mem => ?_⟩
    have words : ∀ word ∈ ["inf", "infinity", "nan"], OneLine word := by decide
    have one := oneLine_ofList.1 (words _ named)
    by_contra stops
    have lower := isLineEnd_toLower (by simpa using stops : isLineEnd c)
    rw [one _ (List.mem_map_of_mem mem)] at lower
    cases lower

/-- A numeral is one line. -/
theorem oneLine_of_read? {f : Format} (h : (Binary.read? f s.toList).isSome) : OneLine s :=
  oneLine_iff.2 (isLineEnd_of_isNumberText (Binary.isSome_read?_iff.1 h))

end Numeral

end Storyboard
