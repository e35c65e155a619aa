import Storyboard.Proofs.Call.Naming
import Storyboard.Proofs.Number.Digits
import Storyboard.Script.Variable

/-!
# Variables tell sections apart

A script may give a new section a variable that an older one has had, but only if both are made for
the same named link. So no two sections that can be looked up at one time share a variable.

## Main definitions

* `Script.IsVariable`: a word that can be read back as a variable.
* `Script.Names.Valid`: different links have different variables.

## Main statements

* `Script.exists_untaken`: the search for a candidate that is not taken ends.
* `Script.link_eq_of_name_eq`: sections that share a variable share a named link.
-/

namespace Storyboard.Script

open Naming (Making)

/-- A word that can be read back as a variable. -/
structure IsVariable (x : String) : Prop where
  ne_empty : x ≠ ""
  ne_let : x ≠ "let"
  chars : ∀ c ∈ x.toList, isVariableChar c

/-! ## Candidates -/

theorem isVariableChar_of_mem_toString {n : Nat} {c : Char} (h : c ∈ (toString n).toList) :
    isVariableChar c := by
  rw [toList_toString_nat] at h
  simp [isVariableChar, Char.isAlphanum, isDigit_digitsOf n c h]

theorem candidate_injective (base : String) : Function.Injective (candidate base) := by
  have longer (n : Nat) : candidate base (n + 1) ≠ base := fun h => by
    have texts := congrArg String.toList h
    simp [candidate] at texts
  rintro (_ | m) (_ | n) h
  · rfl
  · exact absurd h.symm (longer n)
  · exact absurd h (longer m)
  · simp only [candidate, String.append_right_inj] at h
    have := toString_nat_injective h
    omega

/-- The search ends at the first candidate that is not taken, after at most as many others as there
are variables. -/
theorem exists_untaken (taken : List String) (base : String) :
    ∃ n ≤ taken.length, untaken taken base = candidate base n ∧ candidate base n ∉ taken ∧
      ∀ m < n, candidate base m ∈ taken := by
  have search : untaken taken base =
      (((List.range (taken.length + 1)).find? fun n => !taken.contains (candidate base n)).map
        (candidate base)).getD base := by
    rw [untaken, List.find?_map]
    rfl
  cases found : (List.range (taken.length + 1)).find? fun n =>
      !taken.contains (candidate base n) with
  | some n =>
    obtain ⟨free, upto, before⟩ := List.find?_range_eq_some.1 found
    refine ⟨n, by simpa [Nat.lt_succ_iff] using upto, by rw [search, found]; rfl, ?_, ?_⟩
    · simpa using free
    · simpa using before
  | none =>
    -- All candidates would be among the variables that are taken, and there are too many of them.
    let candidates := (List.range (taken.length + 1)).map (candidate base)
    have subset : ∀ name ∈ candidates, name ∈ taken := by simpa [candidates] using found
    have nodup : candidates.Nodup := List.nodup_range.map (candidate_injective base)
    have lengths := (nodup.subperm fun name => subset name).length_le
    simp [candidates] at lengths

example : untaken ["sec_a_b_2", "sec_a_b"] (variableOf "a-b") = "sec_a_b_3" := by
  decide

/-! ## Shapes -/

theorem chars_variableOf (link : String) : ∀ c ∈ (variableOf link).toList, isVariableChar c := by
  simp only [variableOf, String.toList_append, String.toList_ofList, List.mem_append, List.mem_map]
  rintro c (mem | ⟨d, -, rfl⟩)
  · exact List.all_eq_true.1 (by decide) c mem
  · split <;> simp_all [isVariableChar]

/-- The words that links with a name get. -/
structure IsSectionWord (x : String) : Prop where
  start : ['s', 'e', 'c', '_'] <+: x.toList
  chars : ∀ c ∈ x.toList, isVariableChar c

theorem IsSectionWord.isVariable {x : String} (word : IsSectionWord x) : IsVariable x where
  ne_empty := by
    rintro rfl
    exact absurd word.start (by decide)
  ne_let := by
    rintro rfl
    exact absurd word.start (by decide)
  chars := word.chars

theorem isSectionWord_candidate (link : String) (n : Nat) :
    IsSectionWord (candidate (variableOf link) n) := by
  cases n with
  | zero => exact ⟨by simp [candidate, variableOf], chars_variableOf link⟩
  | succ n =>
    refine ⟨by simp [candidate, variableOf], fun c mem => ?_⟩
    simp only [candidate, String.toList_append, List.mem_append] at mem
    rcases mem with (mem | mem) | mem
    · exact chars_variableOf link c mem
    · exact List.all_eq_true.1 (by decide) c mem
    · exact isVariableChar_of_mem_toString mem

theorem isVariable_numbered (n : Nat) : IsVariable ("link" ++ toString n) where
  ne_empty h := by simpa using congrArg String.toList h
  ne_let h := by simpa using congrArg String.toList h
  chars c mem := by
    rw [String.toList_append, List.mem_append] at mem
    rcases mem with mem | mem
    · exact List.all_eq_true.1 (by decide) c mem
    · exact isVariableChar_of_mem_toString mem

theorem not_isSectionWord_numbered (n : Nat) : ¬ IsSectionWord ("link" ++ toString n) := by
  rintro ⟨⟨rest, text⟩, -⟩
  simp at text

/-! ## Single sections -/

section Next

variable {names : Names} {link x : String}

theorem Names.mem_named_of_lookup (h : names.named.lookup link = some x) :
    (link, x) ∈ names.named := by
  obtain ⟨before, after, named, -⟩ := List.lookup_eq_some_iff.1 h
  rw [named]
  simp

theorem next_of_lookup (h : names.named.lookup link = some x) :
    naming.next names (some link) = (x, { names with declared := x :: names.declared }) := by
  simp [naming, h]

/-- A link that has no variable yet gets one that no other link has. -/
theorem next_of_lookup_eq_none (h : names.named.lookup link = none) :
    ∃ x, IsSectionWord x ∧ x ∉ names.named.map (·.2) ∧
      naming.next names (some link) =
        (x, { names with named := (link, x) :: names.named, declared := x :: names.declared }) := by
  obtain ⟨n, -, untaken, free, -⟩ := exists_untaken (names.named.map (·.2)) (variableOf link)
  refine ⟨candidate (variableOf link) n, isSectionWord_candidate link n, free, ?_⟩
  simp [naming, h, untaken]

/-- Links keep their variables and numbers go up. -/
structure Names.Extends (names later : Names) : Prop where
  lookup : ∀ link x, names.named.lookup link = some x → later.named.lookup link = some x
  unnamed : names.unnamed ≤ later.unnamed

/-- Different links have different variables. -/
structure Names.Valid (names : Names) : Prop where
  nodup : (names.named.map (·.2)).Nodup
  words : ∀ x ∈ names.named.map (·.2), IsSectionWord x

theorem extends_next (names : Names) (link : Link) : names.Extends (naming.next names link).2 := by
  cases link with
  | none => exact ⟨fun _ _ => id, Nat.le_succ _⟩
  | some link =>
    cases known : names.named.lookup link with
    | some x =>
      rw [next_of_lookup known]
      exact ⟨fun _ _ => id, le_rfl⟩
    | none =>
      obtain ⟨x, -, -, next⟩ := next_of_lookup_eq_none known
      rw [next]
      refine ⟨fun other y found => ?_, le_rfl⟩
      have different : other ≠ link := by
        rintro rfl
        simp [known] at found
      simpa [List.lookup_cons, beq_eq_false_iff_ne.2 different] using found

theorem Names.Valid.next (valid : names.Valid) (link : Link) :
    (naming.next names link).2.Valid := by
  cases link with
  | none => exact ⟨valid.nodup, valid.words⟩
  | some link =>
    cases known : names.named.lookup link with
    | some x =>
      rw [next_of_lookup known]
      exact ⟨valid.nodup, valid.words⟩
    | none =>
      obtain ⟨x, word, new, next⟩ := next_of_lookup_eq_none known
      rw [next]
      exact ⟨List.nodup_cons.2 ⟨new, valid.nodup⟩, List.forall_mem_cons.2 ⟨word, valid.words⟩⟩

theorem lookup_next (names : Names) (link : String) :
    (naming.next names (some link)).2.named.lookup link =
      some (naming.next names (some link)).1 := by
  cases known : names.named.lookup link with
  | some x => simpa [next_of_lookup known] using known
  | none =>
    obtain ⟨x, -, -, next⟩ := next_of_lookup_eq_none known
    simp [next]

theorem Names.Valid.isSectionWord_next (valid : names.Valid) (link : String) :
    IsSectionWord (naming.next names (some link)).1 :=
  (valid.next (some link)).words _
    (List.mem_map_of_mem (Names.mem_named_of_lookup (lookup_next names link)))

/-- Two links with one variable are the same link. -/
theorem Names.Valid.eq_of_lookup {other : String} (valid : names.Valid)
    (h : names.named.lookup link = some x) (h' : names.named.lookup other = some x) :
    link = other :=
  congrArg Prod.fst (List.inj_on_of_nodup_map valid.nodup (Names.mem_named_of_lookup h)
    (Names.mem_named_of_lookup h') rfl)

end Next

/-! ## Histories -/

section Makings

variable {links later : List Link} {link link' : Link}

theorem valid_state (links : List Link) : (naming.state links).Valid := by
  induction links using List.reverseRecOn with
  | nil => exact ⟨List.nodup_nil, by simp [Naming.state, naming]⟩
  | append_singleton links link ih =>
    rw [Naming.state_concat]
    exact ih.next link

theorem state_extends (h : links <+: later) :
    (naming.state links).Extends (naming.state later) := by
  obtain ⟨rest, rfl⟩ := h
  induction rest using List.reverseRecOn with
  | nil =>
    rw [List.append_nil]
    exact ⟨fun _ _ => id, le_rfl⟩
  | append_singleton rest link ih =>
    rw [← List.append_assoc, Naming.state_concat]
    have step := extends_next (naming.state (links ++ rest)) link
    exact ⟨fun link x found => step.lookup link x (ih.lookup link x found),
      ih.unnamed.trans step.unnamed⟩

theorem isSectionWord_name (links : List Link) (link : String) :
    IsSectionWord (naming.name (links, some link)) :=
  (valid_state links).isSectionWord_next link

theorem isVariable_name (making : Making) : IsVariable (naming.name making) := by
  obtain ⟨links, _ | link⟩ := making
  · exact isVariable_numbered _
  · exact (isSectionWord_name links link).isVariable

/-- The variable of a named link stays the same. -/
theorem lookup_state {link : String} (h : links ++ [some link] <+: later) :
    (naming.state later).named.lookup link = some (naming.name (links, some link)) := by
  refine (state_extends h).lookup _ _ ?_
  rw [Naming.state_concat]
  exact lookup_next _ _

/-- Numbers go up. -/
theorem unnamed_lt (h : links ++ [none] <+: later) :
    (naming.state links).unnamed < (naming.state later).unnamed := by
  have numbers := (state_extends h).unnamed
  rwa [Naming.state_concat] at numbers

/-- A named link gets the variable of another section only if that has the same link. -/
theorem eq_of_name_eq {name name' : String} (h : links ++ [some name] <+: later)
    (same : naming.name (links, some name) = naming.name (later, some name')) : name = name' := by
  have taken := lookup_state h
  cases known : (naming.state later).named.lookup name' with
  | some x =>
    have called : naming.name (later, some name') = x := by
      rw [Naming.name, next_of_lookup known]
    rw [same, called] at taken
    exact (valid_state later).eq_of_lookup taken known
  | none =>
    obtain ⟨x, -, new, next⟩ := next_of_lookup_eq_none known
    have called : naming.name (later, some name') = x := by rw [Naming.name, next]
    rw [same, called] at taken
    exact absurd (List.mem_map_of_mem (Names.mem_named_of_lookup taken)) new

/-- Of two sections, the later one gets the variable of the earlier one only if both are made for
the same named link. -/
theorem link_eq_of_name_eq (h : links ++ [link] <+: later)
    (same : naming.name (links, link) = naming.name (later, link')) :
    ∃ name, link = some name ∧ link' = some name := by
  cases link with
  | none =>
    cases link' with
    | none =>
      have numbers := toString_nat_injective ((String.append_right_inj _).1 same)
      have higher := unnamed_lt h
      exact absurd (Nat.succ.inj numbers) higher.ne
    | some name =>
      have word := isSectionWord_name later name
      rw [← same] at word
      exact absurd word (not_isSectionWord_numbered _)
  | some name =>
    cases link' with
    | none =>
      have word := isSectionWord_name links name
      rw [same] at word
      exact absurd word (not_isSectionWord_numbered _)
    | some name' => exact ⟨name, rfl, congrArg some (eq_of_name_eq h same).symm⟩

end Makings

end Storyboard.Script
