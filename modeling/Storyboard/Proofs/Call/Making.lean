import Storyboard.Proofs.Call.Naming

/-!
# Making and using sections

A run makes sections one after the other. A call that uses a section uses the one that was made last
under the key of its link, whatever sections are called.

## Main definitions

* `Op.link?`: the link of an instruction about an independent section.
* `Event.made?`, `Event.used?`: the section that a step makes or uses.
* `keyAt`: the key of the link of a step.

## Main statements

* `Stage.follow_eq_ok`: what a call about a section does on a stage.
* `Makings.concat_prefix_of_made`: later sections have longer histories.
* `Makings.exists_maker`: the step that made the section that a step uses.
-/

namespace Storyboard

variable {σ τ S T : Type}

/-- The link of an instruction about an independent section. -/
def Op.link? : Op → Option Link
  | .showIndependentSection _ _ link => some link
  | .mergeSection _ _ link => some link
  | .hideIndependentSection link _ => some link
  | .rotateSection link _ _ _ _ => some link
  | .moveSection link _ _ => some link
  | _ => none

namespace LinkedCall

/-- The section that a call is about. -/
def target : LinkedCall σ → σ
  | .detach _ _ target | .merge _ _ target | .hide target _ | .rotate target _ _
  | .move target _ _ => target

/-- The call makes a section. -/
def makes : LinkedCall σ → Bool
  | .detach .. => true
  | _ => false

@[simp] theorem target_map (f : σ → τ) (call : LinkedCall σ) :
    (call.map f).target = f call.target := by
  cases call <;> rfl

@[simp] theorem makes_map (f : σ → τ) (call : LinkedCall σ) : (call.map f).makes = call.makes := by
  cases call <;> rfl

end LinkedCall

namespace Event

/-- The call of a step about an independent section. -/
def linked? (event : Event σ S) : Option (LinkedCall σ) :=
  match event.result with
  | .ok (some (.linked call)) => some call
  | _ => none

/-- The section that a step makes. -/
def made? (event : Event σ S) : Option σ :=
  event.linked?.bind fun call => if call.makes then some call.target else none

/-- The section that a step uses. -/
def used? (event : Event σ S) : Option σ :=
  event.linked?.bind fun call => if call.makes then none else some call.target

theorem made?_eq_some {event : Event σ S} {target : σ} :
    event.made? = some target ↔
      ∃ call, event.linked? = some call ∧ call.makes ∧ call.target = target := by
  simp [made?, Option.bind_eq_some_iff]

theorem used?_eq_some {event : Event σ S} {target : σ} :
    event.used? = some target ↔
      ∃ call, event.linked? = some call ∧ call.makes = false ∧ call.target = target := by
  simp [used?, Option.bind_eq_some_iff]

/-- A step that uses a section makes none. -/
theorem made?_eq_none_of_used {event : Event σ S} {target : σ} (h : event.used? = some target) :
    event.made? = none := by
  obtain ⟨call, linked, uses, -⟩ := used?_eq_some.1 h
  simp [made?, linked, uses]

theorem linked?_map (f : σ → τ) (g : S → T) (event : Event σ S) :
    (event.map f g).linked? = event.linked?.map (LinkedCall.map f) := by
  obtain ⟨before, step, result⟩ := event
  rcases result with fault | (_ | (call | call)) <;> rfl

theorem made?_map (f : σ → τ) (g : S → T) (event : Event σ S) :
    (event.map f g).made? = event.made?.map f := by
  simp only [made?, linked?_map, Option.bind_map, Option.map_bind, Function.comp_def,
    LinkedCall.makes_map, LinkedCall.target_map, apply_ite (Option.map f), Option.map_some,
    Option.map_none]

theorem used?_map (f : σ → τ) (g : S → T) (event : Event σ S) :
    (event.map f g).used? = event.used?.map f := by
  simp only [used?, linked?_map, Option.bind_map, Option.map_bind, Function.comp_def,
    LinkedCall.makes_map, LinkedCall.target_map, apply_ite (Option.map f), Option.map_some,
    Option.map_none]

end Event

/-! ## Single steps -/

/-- A call that is about a section has the link of its instruction. -/
theorem Op.link?_of_call {op : Op} {call : LinkedCall Link}
    (h : op.call = .ok (some (.linked call))) : op.link? = some call.target := by
  cases op with
  | showIndependentSection | mergeSection | hideIndependentSection | rotateSection | moveSection =>
    simp only [Op.call, bind_eq_ok_iff, pure, Except.pure, Except.ok.injEq, Option.some.injEq,
      Call.linked.injEq] at h
    grind [Op.link?, LinkedCall.target]
  | _ => simp [Op.call, bind_eq_ok_iff, pure, Except.pure] at h

/-- An instruction about a section asks for a call about it. -/
theorem Op.exists_linked_of_call {op : Op} {call : Option (Call Link)} {link : Link}
    (h : op.call = .ok call) (about : op.link? = some link) :
    ∃ linked, call = some (.linked linked) := by
  cases op with
  | showIndependentSection | mergeSection | hideIndependentSection | rotateSection | moveSection =>
    simp only [Op.call, bind_eq_ok_iff, pure, Except.pure, Except.ok.injEq] at h
    grind
  | _ => cases about

namespace Stage

variable {n : Naming σ S} {stage : Stage σ S} {step : Step} {op : Op}

/-- A call about a section either makes one under the key of its link, or uses the one that is there
and changes nothing. -/
theorem follow_eq_ok {linked : LinkedCall Link} {call : LinkedCall σ} {after : Stage σ S}
    (h : stage.follow n linked = .ok (call, after)) :
    (call.makes ∧ n.next stage.names linked.target = (call.target, after.names) ∧
        after.sections = (linkKey linked.target, call.target) :: stage.sections) ∨
      (call.makes = false ∧ stage.find? linked.target = some call.target ∧ after = stage) := by
  cases linked with
  | detach selection direction link =>
    cases h
    exact .inl ⟨rfl, rfl, rfl⟩
  | merge selection direction link =>
    simp only [follow] at h
    split at h
    next target found =>
      cases h
      exact .inr ⟨rfl, found, rfl⟩
    next =>
      cases h
      exact .inl ⟨rfl, rfl, rfl⟩
  | hide link | rotate link | move link =>
    simp only [follow, find] at h
    cases found : stage.find? link with
    | none => simp [found, Except.map] at h
    | some target =>
      rw [found] at h
      cases h
      exact .inr ⟨rfl, found, rfl⟩

theorem apply_eq_ok_linked {call : LinkedCall σ} {after : Stage σ S}
    (h : stage.apply n op = .ok (some (.linked call), after)) :
    ∃ link, op.link? = some link ∧
      ((call.makes ∧ n.next stage.names link = (call.target, after.names) ∧
          after.sections = (linkKey link, call.target) :: stage.sections) ∨
        (call.makes = false ∧ stage.find? link = some call.target ∧ after = stage)) := by
  unfold apply at h
  rcases asked : op.call with fault | (_ | (plain | linked)) <;> rw [asked] at h
  · cases h
  · cases h
  · cases h
  · refine ⟨linked.target, Op.link?_of_call asked, ?_⟩
    rcases followed : stage.follow n linked with fault | ⟨call, after⟩ <;>
      simp only [followed] at h <;> cases h
    exact follow_eq_ok followed

theorem apply_eq_ok_other {call : Option (Call σ)} {after : Stage σ S}
    (h : stage.apply n op = .ok (call, after)) (other : ∀ linked, call ≠ some (.linked linked)) :
    after = stage := by
  unfold apply at h
  rcases asked : op.call with fault | (_ | (plain | linked)) <;> rw [asked] at h
  · cases h
  · cases h
    rfl
  · cases h
    rfl
  · simp only at h
    split at h <;> cases h
    exact absurd rfl (other _)

theorem exists_linked_of_apply {call : Option (Call σ)} {after : Stage σ S} {link : Link}
    (h : stage.apply n op = .ok (call, after)) (about : op.link? = some link) :
    ∃ linked, call = some (.linked linked) := by
  unfold apply at h
  rcases asked : op.call with fault | call' <;> rw [asked] at h
  · cases h
  · obtain ⟨linked, rfl⟩ := Op.exists_linked_of_call asked about
    simp only at h
    split at h <;> cases h
    exact ⟨_, rfl⟩

theorem linked?_event {call : LinkedCall σ} :
    (stage.event n step).linked? = some call ↔
      ∃ after, stage.apply n step.op = .ok (some (.linked call), after) := by
  rcases applied : stage.apply n step.op with fault | ⟨_ | (plain | call), after⟩ <;>
    simp [Event.linked?, event, applied, Except.map]

/-- A step that makes a section puts it under the key of its link. -/
theorem after_of_made {target : σ} (h : (stage.event n step).made? = some target) :
    ∃ link, step.op.link? = some link ∧
      n.next stage.names link = (target, (stage.after n step.op).names) ∧
        (stage.after n step.op).sections = (linkKey link, target) :: stage.sections := by
  obtain ⟨call, linked, makes, rfl⟩ := Event.made?_eq_some.1 h
  obtain ⟨after, applied⟩ := linked?_event.1 linked
  obtain ⟨link, asked, ⟨-, next, sections⟩ | ⟨uses, -⟩⟩ := apply_eq_ok_linked applied
  · refine ⟨link, asked, ?_⟩
    simp only [Stage.after, applied, next, sections, and_self]
  · simp [makes] at uses

/-- A step that makes no section changes nothing. -/
theorem after_of_made?_eq_none (h : (stage.event n step).made? = none) :
    stage.after n step.op = stage := by
  rcases applied : stage.apply n step.op with fault | ⟨_ | (plain | call), after⟩ <;>
    simp only [Stage.after, applied]
  · exact apply_eq_ok_other applied (by simp)
  · exact apply_eq_ok_other applied (by simp)
  · obtain ⟨link, asked, ⟨makes, -⟩ | ⟨-, -, same⟩⟩ := apply_eq_ok_linked applied
    · have made := Event.made?_eq_some.2 ⟨call, linked?_event.2 ⟨after, applied⟩, makes, rfl⟩
      simp [h] at made
    · exact same

/-- A step about a section that is not left out makes or uses one. -/
theorem exists_used {link : Link} (about : step.op.link? = some link)
    (applied : ∀ fault, stage.apply n step.op ≠ .error fault)
    (consumes : (stage.event n step).made? = none) :
    ∃ target, (stage.event n step).used? = some target := by
  rcases outcome : stage.apply n step.op with fault | ⟨call, after⟩
  · exact absurd outcome (applied fault)
  · obtain ⟨linked, rfl⟩ := exists_linked_of_apply outcome about
    have called := linked?_event.2 ⟨after, outcome⟩
    cases makes : linked.makes with
    | true =>
      have made := Event.made?_eq_some.2 ⟨linked, called, makes, rfl⟩
      simp [consumes] at made
    | false => exact ⟨linked.target, Event.used?_eq_some.2 ⟨linked, called, makes, rfl⟩⟩

/-- A step that uses a section finds it by its link. -/
theorem find?_of_used {target : σ} (h : (stage.event n step).used? = some target) :
    ∃ link, step.op.link? = some link ∧ stage.find? link = some target := by
  obtain ⟨call, linked, uses, rfl⟩ := Event.used?_eq_some.1 h
  obtain ⟨after, applied⟩ := linked?_event.1 linked
  obtain ⟨link, asked, ⟨makes, -⟩ | ⟨-, found, -⟩⟩ := apply_eq_ok_linked applied
  · simp [uses] at makes
  · exact ⟨link, asked, found⟩

end Stage

/-! ## Runs over histories -/

/-- The key of the link of the step at an index, if the step is about an independent section. -/
def keyAt (steps : List Step) (i : Nat) : Option String :=
  (steps[i]?.bind fun step => step.op.link?).map linkKey

namespace Makings

open Naming (Making history)

/-- What each step of a list does, with sections called by their histories. -/
def events (steps : List Step) : List (Event Making (List Link)) :=
  (Stage.start history).run history steps

/-- The stage before the step at an index. -/
def stage (steps : List Step) (i : Nat) : Stage Making (List Link) :=
  (Stage.start history).afterAll history (steps.take i)

/-- The section that the step at an index makes. -/
def made? (steps : List Step) (i : Nat) : Option Making :=
  (events steps)[i]?.bind Event.made?

/-- The section that the step at an index uses. -/
def used? (steps : List Step) (i : Nat) : Option Making :=
  (events steps)[i]?.bind Event.used?

variable {steps : List Step} {i j : Nat} {made : Making}

theorem getElem?_events (steps : List Step) (i : Nat) :
    (events steps)[i]? = steps[i]?.map ((stage steps i).event history) :=
  Stage.getElem?_run history _ steps i

theorem stage_succ {step : Step} (h : steps[i]? = some step) :
    stage steps (i + 1) = (stage steps i).after history step.op :=
  Stage.afterAll_take_succ h

theorem exists_step_of_made (h : made? steps i = some made) :
    ∃ step, steps[i]? = some step ∧ ((stage steps i).event history step).made? = some made := by
  simpa [made?, getElem?_events, Option.bind_map, Option.bind_eq_some_iff] using h

theorem exists_step_of_used (h : used? steps i = some made) :
    ∃ step, steps[i]? = some step ∧ ((stage steps i).event history step).used? = some made := by
  simpa [used?, getElem?_events, Option.bind_map, Option.bind_eq_some_iff] using h

/-- A section is called by the links of the sections before it and by its own link, and it is put
under the key of its link. -/
theorem stage_succ_of_made (h : made? steps i = some made) :
    keyAt steps i = some (linkKey made.2) ∧ made.1 = (stage steps i).names ∧
      (stage steps (i + 1)).names = made.1 ++ [made.2] ∧
        (stage steps (i + 1)).sections = (linkKey made.2, made) :: (stage steps i).sections := by
  obtain ⟨step, at_, makes⟩ := exists_step_of_made h
  obtain ⟨link, asked, next, sections⟩ := Stage.after_of_made makes
  obtain ⟨rfl, names⟩ := Prod.mk.inj next
  rw [stage_succ at_]
  exact ⟨by simp [keyAt, at_, asked], rfl, names.symm, sections⟩

/-- A step that makes no section leaves the stage as it is. -/
theorem stage_succ_of_made?_eq_none (h : made? steps i = none) :
    stage steps (i + 1) = stage steps i := by
  cases at_ : steps[i]? with
  | none =>
    rw [List.getElem?_eq_none_iff] at at_
    rw [stage, stage, List.take_of_length_le at_, List.take_of_length_le (by omega)]
  | some step =>
    rw [stage_succ at_]
    refine Stage.after_of_made?_eq_none ?_
    simpa [made?, getElem?_events, at_] using h

/-- Histories grow. -/
theorem names_mono (le : i ≤ j) : (stage steps i).names <+: (stage steps j).names := by
  induction j, le using Nat.le_induction with
  | base => exact List.prefix_rfl
  | succ j le ih =>
    cases makes : made? steps j with
    | none => rwa [stage_succ_of_made?_eq_none makes]
    | some made =>
      obtain ⟨-, links, names, -⟩ := stage_succ_of_made makes
      rw [names, links]
      exact ih.trans (List.prefix_append _ _)

/-- A section that is made later has all earlier ones in its history. -/
theorem concat_prefix_of_made {later : Making} (lt : i < j) (h : made? steps i = some made)
    (h' : made? steps j = some later) : made.1 ++ [made.2] <+: later.1 := by
  obtain ⟨-, -, names, -⟩ := stage_succ_of_made h
  obtain ⟨-, links, -⟩ := stage_succ_of_made h'
  rw [← names, links]
  exact names_mono lt

theorem length_lt_of_made {later : Making} (lt : i < j) (h : made? steps i = some made)
    (h' : made? steps j = some later) : made.1.length < later.1.length := by
  have longer := (concat_prefix_of_made lt h h').length_le
  rw [List.length_append, List.length_singleton] at longer
  omega

theorem made?_eq_none_of_used {used : Making} (h : used? steps i = some used) :
    made? steps i = none := by
  obtain ⟨step, at_, uses⟩ := exists_step_of_used h
  simpa [made?, getElem?_events, at_] using Event.made?_eq_none_of_used uses

/-- The section under a key was made by an earlier step, and none was made under this key since. -/
theorem exists_maker_of_lookup {key : String}
    (h : (stage steps j).sections.lookup key = some made) :
    ∃ i < j, made? steps i = some made ∧ linkKey made.2 = key ∧
      ∀ m, i < m → m < j → ∀ other, made? steps m = some other → linkKey other.2 ≠ key := by
  induction j with
  | zero => simp [stage, Stage.afterAll, Stage.start] at h
  | succ j ih =>
    -- The last step decides whether the maker is that step or one before it.
    cases new : made? steps j with
    | none =>
      rw [stage_succ_of_made?_eq_none new] at h
      obtain ⟨i, lt, makes, same, since⟩ := ih h
      exact ⟨i, by omega, makes, same, by grind⟩
    | some last =>
      obtain ⟨-, -, -, sections⟩ := stage_succ_of_made new
      rw [sections, List.lookup_cons] at h
      split at h
      next same =>
        obtain rfl := Option.some.inj h
        exact ⟨j, by omega, new, (beq_iff_eq.1 same).symm, by omega⟩
      next different =>
        obtain ⟨i, lt, makes, same, since⟩ := ih h
        exact ⟨i, by omega, makes, same, by grind⟩

/-- The section that a step uses was made by an earlier step under the key of its link, and none was
made under this key since. -/
theorem exists_maker {used : Making} (h : used? steps j = some used) :
    ∃ i < j, made? steps i = some used ∧ keyAt steps j = some (linkKey used.2) ∧
      ∀ m, i < m → m < j → ∀ other, made? steps m = some other →
        linkKey other.2 ≠ linkKey used.2 := by
  obtain ⟨step, at_, uses⟩ := exists_step_of_used h
  obtain ⟨link, asked, found⟩ := Stage.find?_of_used uses
  obtain ⟨i, lt, makes, key, since⟩ := exists_maker_of_lookup found
  rw [key]
  exact ⟨i, lt, makes, by simp [keyAt, at_, asked], since⟩

end Makings

end Storyboard
