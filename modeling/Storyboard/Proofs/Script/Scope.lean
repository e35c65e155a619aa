import Storyboard.Proofs.Script.Assignment

/-!
# Variables are declared once and never shared

The first line that assigns a variable declares it, and no later one does. Each link with a name has
a variable of its own, and each section without a link has a new one.

## Main definitions

* `Script.declared`: the variables that the lines of a step declare.
* `Script.linkAt`: the link of a step.
* `Script.IsVariableOf`: the variable of a link with a name.
* `Script.unnamedBefore`: how many sections without a link there were before a step.

## Main statements

* `Script.mem_declared_iff`: a variable is declared where it is first assigned.
* `Script.exists_declaration`: one declaration comes before everything else.
* `Script.isVariableOf_iff`: links with names and their variables.
* `Script.variables_declared_once`: all of this for every list of steps.
-/

namespace Storyboard

open Naming (Making)

namespace Makings

variable {steps : List Step} {links : List Link} {link : Link} {j : Nat}

theorem concat_prefix_concat_iff {before : List Link} {last : Link} :
    links ++ [link] <+: before ++ [last] ↔
      (links = before ∧ link = last) ∨ links ++ [link] <+: before := by
  rw [List.prefix_concat_iff]
  refine or_congr_left ⟨fun same => ?_, fun ⟨rfl, rfl⟩ => rfl⟩
  obtain ⟨front, single⟩ := List.append_inj' same rfl
  exact ⟨front, List.singleton_inj.1 single⟩

/-- Every link of a history is that of a section that was made. -/
theorem exists_made_of_prefix (h : links ++ [link] <+: (stage steps j).names) :
    ∃ i < j, made? steps i = some (links, link) := by
  induction j with
  | zero =>
    have empty : (stage steps 0).names = [] := rfl
    simp [empty] at h
  | succ j ih =>
    cases makes : made? steps j with
    | none =>
      rw [stage_succ_of_made?_eq_none makes] at h
      obtain ⟨i, lt, made⟩ := ih h
      exact ⟨i, by omega, made⟩
    | some last =>
      obtain ⟨-, before, names, -⟩ := stage_succ_of_made makes
      rw [names, concat_prefix_concat_iff] at h
      rcases h with ⟨rfl, rfl⟩ | earlier
      · exact ⟨j, by omega, makes⟩
      · rw [before] at earlier
        obtain ⟨i, lt, made⟩ := ih earlier
        exact ⟨i, by omega, made⟩

end Makings

namespace Script

/-! ## Declarations -/

/-- The variable that a line declares. -/
def declared? (line : String) : Option String :=
  if ['l', 'e', 't', ' '] <+: line.toList then assigned? line else none

/-- The variables that the lines of the step at an index declare. -/
def declared (steps : List Step) (i : Nat) : List String :=
  ((lines steps)[i]?.getD []).filterMap declared?

theorem declared?_of_scene {line : String}
    (scene : ['s', 'c', 'e', 'n', 'e', '.'] <+: (callee line).toList) : declared? line = none := by
  rw [declared?, assigned?_of_scene scene, ite_self]

theorem IsPlain.declared?_eq_none {line : String} (plain : IsPlain line) :
    declared? line = none := by
  rw [declared?, plain.assigned?_eq_none, ite_self]

/-- An assignment declares its variable unless that has been assigned. -/
theorem declared?_assignment {x : String} (var : IsVariable x) (names : Names) (line : String) :
    declared? (assignment names x ++ line) = if x ∈ names.declared then none else some x := by
  by_cases old : x ∈ names.declared
  · have start : (assignment names x ++ line).toList =
        x.toList ++ ' ' :: '=' :: ' ' :: line.toList := by
      simp [assignment, old]
    rw [declared?, start, if_neg, if_pos old]
    rintro ⟨rest, word⟩
    -- The word in front would be taken off, but the line is an assignment as it stands.
    have same := withoutLet_append var line.toList
    rw [← word] at same
    have taken : withoutLet (['l', 'e', 't', ' '] ++ rest) = rest := rfl
    rw [taken] at same
    have lengths := congrArg List.length same
    rw [List.length_append] at lengths
    simp at lengths
  · have start : (assignment names x ++ line).toList =
        ['l', 'e', 't', ' '] ++ (x.toList ++ ' ' :: '=' :: ' ' :: line.toList) := by
      simp [assignment, old]
    rw [declared?, start, if_pos (List.prefix_append _ _), assigned?_assignment var, if_neg old]

theorem declared?_linkedLine {call : LinkedCall String} (var : IsVariable call.target)
    (names : Names) :
    declared? (linkedLine names call) =
      if call.makes ∧ call.target ∉ names.declared then some call.target else none := by
  cases call with
  | detach blocks direction target =>
    have var : IsVariable target := var
    rw [linkedLine, declared?_assignment var]
    simp [LinkedCall.makes, LinkedCall.target]
  | merge | hide | rotate | move =>
    rw [if_neg (by simp [LinkedCall.makes])]
    refine declared?_of_scene ?_
    rw [linkedLine, callee_statement (by decide)]
    decide

/-- The variables in use are those of the sections that have been made. -/
theorem mem_declared_state {links : List Link} {x : String} :
    x ∈ (naming.state links).declared ↔
      ∃ making : Making, making.1 ++ [making.2] <+: links ∧ naming.name making = x := by
  have declared_next (names : Names) (link : Link) :
      (naming.next names link).2.declared = (naming.next names link).1 :: names.declared := by
    cases link with
    | none => rfl
    | some link => cases known : names.named.lookup link <;> simp [naming, known]
  induction links using List.reverseRecOn with
  | nil => simp [Naming.state, naming]
  | append_singleton links link ih =>
    have known : x ∈ (naming.state links).declared ↔ _ := ih
    rw [Naming.state_concat, declared_next, List.mem_cons, known]
    constructor
    · rintro (rfl | ⟨making, earlier, rfl⟩)
      · exact ⟨(links, link), List.prefix_rfl, rfl⟩
      · exact ⟨making, earlier.trans (List.prefix_append _ _), rfl⟩
    · rintro ⟨⟨before, last⟩, upto, rfl⟩
      rcases Makings.concat_prefix_concat_iff.1 upto with ⟨rfl, rfl⟩ | earlier
      · exact .inl rfl
      · exact .inr ⟨(before, last), earlier, rfl⟩

variable {steps : List Step} {i : Nat} {x : String}

theorem mem_assigned_iff :
    x ∈ assigned steps i ↔
      ∃ making, Makings.made? steps i = some making ∧ naming.name making = x := by
  rw [assigned_eq, Option.mem_toList, Option.map_eq_some_iff]

theorem mem_used_iff :
    x ∈ used steps i ↔
      ∃ making, Makings.used? steps i = some making ∧ naming.name making = x := by
  rw [used_eq, Option.mem_toList, Option.map_eq_some_iff]

/-- The variables in use before a step are those that have been assigned. -/
theorem mem_declared_stage :
    x ∈ (naming.state (Makings.stage steps i).names).declared ↔ ∃ m < i, x ∈ assigned steps m := by
  simp only [mem_declared_state, mem_assigned_iff]
  constructor
  · rintro ⟨making, earlier, rfl⟩
    obtain ⟨m, lt, made⟩ := Makings.exists_made_of_prefix earlier
    exact ⟨m, lt, making, made, rfl⟩
  · rintro ⟨m, lt, making, made, rfl⟩
    obtain ⟨-, -, names, -⟩ := Makings.stage_succ_of_made made
    refine ⟨making, ?_, rfl⟩
    rw [← names]
    exact Makings.names_mono lt

/-- A step declares at most one variable: one that it assigns and no step before it has. -/
theorem declared_eq (steps : List Step) (i : Nat) :
    declared steps i = (((Makings.made? steps i).map naming.name).filter fun x =>
      x ∉ (naming.state (Makings.stage steps i).names).declared).toList := by
  rw [declared, filterMap_lines steps i (by decide) fun line => IsPlain.declared?_eq_none]
  congr 1
  simp only [declared?_linkedLine (isVariable_target_map _), LinkedCall.makes_map,
    LinkedCall.target_map, Makings.made?, Event.made?]
  cases (Makings.events steps)[i]? with
  | none => rfl
  | some event =>
    simp only [Option.bind_some, Event.made?]
    cases event.linked? with
    | none => rfl
    | some call => cases makes : call.makes <;> simp [makes, Option.filter]

theorem mem_declared_iff :
    x ∈ declared steps i ↔ x ∈ assigned steps i ∧ ∀ m < i, x ∉ assigned steps m := by
  rw [declared_eq, assigned_eq, Option.mem_toList, Option.mem_toList]
  simp [Option.filter_eq_some_iff, mem_declared_stage]

theorem exists_assigned_of_used (h : x ∈ used steps i) : ∃ m < i, x ∈ assigned steps m := by
  obtain ⟨making, uses, rfl⟩ := mem_used_iff.1 h
  obtain ⟨m, lt, made, -⟩ := Makings.exists_maker uses
  exact ⟨m, lt, mem_assigned_iff.2 ⟨making, made, rfl⟩⟩

/-- One declaration comes before all other assignments of a variable and before all its uses. -/
theorem exists_declaration (h : x ∈ assigned steps i ∨ x ∈ used steps i) :
    ∃ d, declared steps d = [x] ∧ (∀ e, x ∈ declared steps e → e = d) ∧
      (∀ m, x ∈ assigned steps m → d ≤ m) ∧ ∀ m, x ∈ used steps m → d < m := by
  have somewhere : ∃ m, x ∈ assigned steps m := by
    rcases h with here | uses
    · exact ⟨i, here⟩
    · obtain ⟨m, -, before⟩ := exists_assigned_of_used uses
      exact ⟨m, before⟩
  -- The first assignment is the declaration.
  obtain ⟨d, first, least⟩ : ∃ d, x ∈ assigned steps d ∧ ∀ m, x ∈ assigned steps m → d ≤ m :=
    ⟨Nat.find somewhere, Nat.find_spec somewhere, fun m => Nat.find_min' somewhere⟩
  have declares : x ∈ declared steps d :=
    mem_declared_iff.2 ⟨first, fun m lt here => absurd (least m here) (by omega)⟩
  refine ⟨d, ?_, ?_, least, ?_⟩
  · rw [declared_eq, Option.mem_toList] at declares
    rw [declared_eq, declares, Option.toList_some]
  · intro e also
    obtain ⟨here, before⟩ := mem_declared_iff.1 also
    have := least e here
    by_contra other
    exact before d (by omega) first
  · intro m uses
    obtain ⟨k, lt, here⟩ := exists_assigned_of_used uses
    exact (least k here).trans_lt lt

/-! ## Links -/

/-- The link of the step at an index, if the step is about an independent section. -/
def linkAt (steps : List Step) (i : Nat) : Option Link :=
  steps[i]?.bind fun step => step.op.link?

/-- A section made for the link is assigned to the variable. -/
def IsVariableOf (steps : List Step) (link x : String) : Prop :=
  ∃ i, linkAt steps i = some (some link) ∧ x ∈ assigned steps i

theorem linkAt_of_made {making : Making} (h : Makings.made? steps i = some making) :
    linkAt steps i = some making.2 := by
  obtain ⟨step, at_, makes⟩ := Makings.exists_step_of_made h
  obtain ⟨link, asked, next, -⟩ := Stage.after_of_made makes
  obtain ⟨rfl, -⟩ := Prod.mk.inj next
  simpa [linkAt, at_] using asked

theorem isVariableOf_iff {link : String} :
    IsVariableOf steps link x ↔
      ∃ i links, Makings.made? steps i = some (links, some link) ∧
        naming.name (links, some link) = x := by
  simp only [IsVariableOf, mem_assigned_iff]
  constructor
  · rintro ⟨i, asked, ⟨links, link'⟩, made, rfl⟩
    obtain rfl : link' = some link := Option.some.inj ((linkAt_of_made made).symm.trans asked)
    exact ⟨i, links, made, rfl⟩
  · rintro ⟨i, links, made, rfl⟩
    exact ⟨i, linkAt_of_made made, _, made, rfl⟩

theorem IsVariableOf.isSectionWord {link : String} (h : IsVariableOf steps link x) :
    IsSectionWord x := by
  obtain ⟨i, links, -, rfl⟩ := isVariableOf_iff.1 h
  exact isSectionWord_name links link

/-- A later section has the variable of an earlier one if and only if it is made for the same
link. -/
theorem name_eq_name_iff {links later : List Link} {a b : String}
    (h : links ++ [some a] <+: later) :
    naming.name (links, some a) = naming.name (later, some b) ↔ a = b := by
  constructor
  · exact eq_of_name_eq h
  · rintro rfl
    rw [Naming.name.eq_def naming (later, some a)]
    simp only [next_of_lookup (lookup_state h)]

/-- A link with a name keeps its variable, and no other link gets it. -/
theorem IsVariableOf.eq_iff {a b y : String} (ha : IsVariableOf steps a x)
    (hb : IsVariableOf steps b y) : x = y ↔ a = b := by
  obtain ⟨i, links, made, rfl⟩ := isVariableOf_iff.1 ha
  obtain ⟨j, later, made', rfl⟩ := isVariableOf_iff.1 hb
  rcases Nat.lt_trichotomy i j with lt | rfl | lt
  · exact name_eq_name_iff (Makings.concat_prefix_of_made lt made made')
  · cases made.symm.trans made'
    exact ⟨fun _ => rfl, fun _ => rfl⟩
  · rw [eq_comm, name_eq_name_iff (Makings.concat_prefix_of_made lt made' made), eq_comm]

/-- A step uses the variable of its link, unless it reaches a section without a link by the name of
the default link. -/
theorem isVariableOf_of_used {link : String} (asked : linkAt steps i = some (some link))
    (uses : x ∈ used steps i) :
    IsVariableOf steps link x ∨
      link = defaultLink ∧ ∃ m < i, linkAt steps m = some none ∧ x ∈ assigned steps m := by
  obtain ⟨⟨links, own⟩, used, rfl⟩ := mem_used_iff.1 uses
  obtain ⟨m, lt, made, key, -⟩ := Makings.exists_maker used
  have same : link = linkKey own := by
    rw [keyAt, ← linkAt, asked] at key
    exact Option.some.inj key
  have here : naming.name (links, own) ∈ assigned steps m :=
    mem_assigned_iff.2 ⟨_, made, rfl⟩
  cases own with
  | none => exact .inr ⟨same, m, lt, linkAt_of_made made, here⟩
  | some own =>
    obtain rfl : link = own := same
    exact .inl ⟨m, linkAt_of_made made, here⟩

/-! ## Sections without a link -/

/-- How many sections without a link were made before the step at an index. -/
def unnamedBefore (steps : List Step) (i : Nat) : Nat :=
  (List.range i).countP fun m => linkAt steps m = some none ∧ assigned steps m ≠ []

theorem unnamed_state (links : List Link) : (naming.state links).unnamed = links.count none := by
  induction links using List.reverseRecOn with
  | nil => rfl
  | append_singleton links link ih =>
    have known : (naming.state links).unnamed = _ := ih
    rw [Naming.state_concat, List.count_append, ← known]
    cases link with
    | none => rfl
    | some link =>
      cases lookup : (naming.state links).named.lookup link with
      | some x => simp [next_of_lookup lookup]
      | none =>
        obtain ⟨x, -, -, next⟩ := next_of_lookup_eq_none lookup
        simp [next]

theorem count_none_stage (steps : List Step) (i : Nat) :
    (Makings.stage steps i).names.count none = unnamedBefore steps i := by
  induction i with
  | zero => rfl
  | succ i ih =>
    rw [unnamedBefore, List.range_succ, List.countP_append, ← unnamedBefore, ← ih]
    cases made : Makings.made? steps i with
    | none =>
      have nothing : assigned steps i = [] := by rw [assigned_eq, made]; rfl
      simp [Makings.stage_succ_of_made?_eq_none made, nothing]
    | some making =>
      obtain ⟨-, before, names, -⟩ := Makings.stage_succ_of_made made
      have something : assigned steps i ≠ [] := by rw [assigned_eq, made]; simp
      rw [names, before, List.count_append]
      simp [linkAt_of_made made, something, List.count_singleton, List.countP_singleton]

/-- A section without a link gets the next number, which no line before has in a variable. -/
theorem unnamed_variable (asked : linkAt steps i = some none) (h : x ∈ assigned steps i) :
    x = "link" ++ toString (unnamedBefore steps i + 1) ∧
      ∀ m < i, x ∉ assigned steps m ∧ x ∉ used steps m := by
  obtain ⟨⟨links, own⟩, made, rfl⟩ := mem_assigned_iff.1 h
  obtain rfl : own = none := Option.some.inj ((linkAt_of_made made).symm.trans asked)
  have fresh : ∀ m < i, naming.name (links, none) ∉ assigned steps m := by
    intro m lt also
    obtain ⟨earlier, made', same⟩ := mem_assigned_iff.1 also
    obtain ⟨name, -, impossible⟩ :=
      link_eq_of_name_eq (Makings.concat_prefix_of_made lt made' made) same
    cases impossible
  refine ⟨?_, fun m lt => ⟨fresh m lt, fun uses => ?_⟩⟩
  · obtain ⟨-, before, -⟩ := Makings.stage_succ_of_made made
    rw [← count_none_stage, ← before, ← unnamed_state]
    rfl
  · obtain ⟨k, earlier, here⟩ := exists_assigned_of_used uses
    exact fresh k (by omega) here

/-! ## Scripts -/

theorem isSectionWord_or_numbered (h : x ∈ assigned steps i ∨ x ∈ used steps i) :
    IsSectionWord x ∨ ∃ n, x = "link" ++ toString (n + 1) := by
  obtain ⟨⟨links, own⟩, rfl⟩ : ∃ making, naming.name making = x := by
    rcases h with here | uses
    · obtain ⟨making, -, name⟩ := mem_assigned_iff.1 here
      exact ⟨making, name⟩
    · obtain ⟨making, -, name⟩ := mem_used_iff.1 uses
      exact ⟨making, name⟩
  cases own with
  | none => exact .inr ⟨_, rfl⟩
  | some link => exact .inl (isSectionWord_name links link)

/-- Every variable in the lines of a script is a word for a link or the word for a number. One line
declares it, before any other assigns or uses it. Links with names have the same variable if and
only if they are the same link; a step uses the variable of its link, except that the default link
also leads to sections without a link. No variable of a link is the word for a number: sections
without a link get these in order, each for the first time. The search for a variable that no other
link has ends, at the latest after as many candidates as there are variables. -/
theorem variables_declared_once (steps : List Step) :
    (∀ i x, x ∈ assigned steps i ∨ x ∈ used steps i →
      (IsSectionWord x ∨ ∃ n, x = "link" ++ toString (n + 1)) ∧
        ∃ d, declared steps d = [x] ∧ (∀ e, x ∈ declared steps e → e = d) ∧
          (∀ m, x ∈ assigned steps m → d ≤ m) ∧ ∀ m, x ∈ used steps m → d < m) ∧
      (∀ a b x y, IsVariableOf steps a x → IsVariableOf steps b y → (x = y ↔ a = b)) ∧
      (∀ i link x, linkAt steps i = some (some link) → x ∈ used steps i →
        IsVariableOf steps link x ∨
          link = defaultLink ∧ ∃ m < i, linkAt steps m = some none ∧ x ∈ assigned steps m) ∧
      (∀ link x (n : Nat), IsVariableOf steps link x → x ≠ "link" ++ toString n) ∧
      (∀ i x, linkAt steps i = some none → x ∈ assigned steps i →
        x = "link" ++ toString (unnamedBefore steps i + 1) ∧
          ∀ m < i, x ∉ assigned steps m ∧ x ∉ used steps m) ∧
      ∀ taken base, ∃ n ≤ taken.length, untaken taken base = candidate base n ∧
        candidate base n ∉ taken ∧ ∀ m < n, candidate base m ∈ taken := by
  refine ⟨fun i x occurs => ⟨isSectionWord_or_numbered occurs, exists_declaration occurs⟩,
    fun a b x y ha hb => ha.eq_iff hb, fun i link x => isVariableOf_of_used, ?_,
    fun i x => unnamed_variable, exists_untaken⟩
  rintro link x n named rfl
  exact not_isSectionWord_numbered n named.isSectionWord

end Script

end Storyboard
