import Mathlib.Tactic

/-!
# Outcomes

How a computation that may fail comes to an end, in terms of its parts.

## Main definitions

* `Meets`: a condition on the error or on the value of a computation.

## Main statements

* `bind_eq_ok_iff`: a chain gives a value when both of its parts do.
* `mapM_eq_ok_iff`: a list of computations gives values when each of them does.
* `mapM_eq_error_iff`: otherwise it fails as the first of them that fails.
* `exists_forall₂_iff`: a list has results when each of its items has one.
* `toOption_bind`, `toOption_map`: the value of a chain, whatever the failures are.
* `Meets.bind`, `Meets.mapM`: a condition on a chain and on a list, from its parts.
-/

namespace Storyboard

variable {ε α β : Type}

theorem bind_eq_ok_iff {x : Except ε α} {f : α → Except ε β} {b : β} :
    x >>= f = .ok b ↔ ∃ a, x = .ok a ∧ f a = .ok b := by
  cases x with
  | error e => exact ⟨fun h => (nomatch h), fun ⟨_, h, _⟩ => (nomatch h)⟩
  | ok a => exact ⟨fun h => ⟨a, rfl, h⟩, fun ⟨_, h, h'⟩ => Except.ok.inj h ▸ h'⟩

theorem bind_eq_error_iff {x : Except ε α} {f : α → Except ε β} {e : ε} :
    x >>= f = .error e ↔ x = .error e ∨ ∃ a, x = .ok a ∧ f a = .error e := by
  cases x with
  | error e' => simp [Except.bind, bind]
  | ok a => simp [Except.bind, bind]

theorem map_eq_error_iff {x : Except ε α} {f : α → β} {e : ε} :
    x.map f = .error e ↔ x = .error e := by
  cases x <;> simp [Except.map]

theorem mapM_eq_ok_iff {f : α → Except ε β} {as : List α} {bs : List β} :
    as.mapM f = .ok bs ↔ List.Forall₂ (fun a b => f a = .ok b) as bs := by
  induction as generalizing bs with
  | nil => simp [pure, Except.pure, eq_comm]
  | cons a as ih =>
    rw [List.mapM_cons, List.forall₂_cons_left_iff, bind_eq_ok_iff]
    simp only [bind_eq_ok_iff, ih]
    constructor
    · rintro ⟨b, one, more, rest, done⟩
      cases done
      exact ⟨b, more, one, rest, rfl⟩
    · rintro ⟨b, more, one, rest, rfl⟩
      exact ⟨b, one, more, rest, rfl⟩

theorem mapM_eq_error_iff {f : α → Except ε β} {as : List α} {e : ε} :
    as.mapM f = .error e ↔
      ∃ before a after, as = before ++ a :: after ∧ (∀ b ∈ before, ∃ v, f b = .ok v) ∧
        f a = .error e := by
  induction as with
  | nil => simp [pure, Except.pure]
  | cons a as ih =>
    rw [List.mapM_cons, bind_eq_error_iff]
    simp only [bind_eq_error_iff, ih]
    constructor
    · rintro (failed | ⟨v, done, ⟨before, b, after, rfl, fine, failed⟩ | ⟨_, -, done'⟩⟩)
      · exact ⟨[], a, as, rfl, by simp, failed⟩
      · exact ⟨a :: before, b, after, rfl, List.forall_mem_cons.2 ⟨⟨v, done⟩, fine⟩, failed⟩
      · cases done'
    · rintro ⟨_ | ⟨first, before⟩, b, after, split, fine, failed⟩
      · obtain ⟨rfl, rfl⟩ := List.cons.inj split
        exact .inl failed
      · obtain ⟨rfl, rfl⟩ := List.cons.inj split
        obtain ⟨⟨v, done⟩, fine⟩ := List.forall_mem_cons.1 fine
        exact .inr ⟨v, done, .inl ⟨before, b, after, rfl, fine, failed⟩⟩

theorem exists_forall₂_iff {R : α → β → Prop} {as : List α} :
    (∃ bs, List.Forall₂ R as bs) ↔ ∀ a ∈ as, ∃ b, R a b := by
  induction as with
  | nil => simp
  | cons a as ih =>
    rw [List.forall_mem_cons, ← ih]
    constructor
    · rintro ⟨_, _ | ⟨one, rest⟩⟩
      exact ⟨⟨_, one⟩, _, rest⟩
    · rintro ⟨⟨b, one⟩, bs, rest⟩
      exact ⟨b :: bs, .cons one rest⟩

/-! ## Values without failures -/

@[simp] theorem toOption_ok (a : α) : (.ok a : Except ε α).toOption = some a :=
  rfl

@[simp] theorem toOption_error (e : ε) : (.error e : Except ε α).toOption = none :=
  rfl

@[simp] theorem toOption_pure (a : α) : (pure a : Except ε α).toOption = some a :=
  rfl

@[simp] theorem toOption_bind (x : Except ε α) (f : α → Except ε β) :
    (x >>= f).toOption = x.toOption.bind fun a => (f a).toOption := by
  cases x <;> rfl

@[simp] theorem toOption_map (x : Except ε α) (f : α → β) :
    (x.map f).toOption = x.toOption.map f := by
  cases x <;> rfl

@[simp] theorem toOption_functor_map (x : Except ε α) (f : α → β) :
    (f <$> x).toOption = x.toOption.map f := by
  cases x <;> rfl

theorem toOption_eq_some_iff {x : Except ε α} {a : α} : x.toOption = some a ↔ x = .ok a := by
  cases x <;> simp

theorem toOption_eq_none_iff {x : Except ε α} : x.toOption = none ↔ ∃ e, x = .error e := by
  cases x <;> simp

/-! ## Conditions on outcomes -/

/-- The computation fails with an error that meets `P`, or it gives a value that meets `Q`. -/
inductive Meets (P : ε → Prop) (Q : α → Prop) : Except ε α → Prop
  | error {e : ε} (h : P e) : Meets P Q (.error e)
  | ok {a : α} (h : Q a) : Meets P Q (.ok a)

namespace Meets

variable {P : ε → Prop} {Q : α → Prop} {R : β → Prop} {x : Except ε α}

theorem of_error {e : ε} (h : Meets P Q x) (failed : x = .error e) : P e := by
  subst failed
  cases h with
  | error h => exact h

theorem bind {f : α → Except ε β} (h : Meets P Q x) (rest : ∀ a, Q a → Meets P R (f a)) :
    Meets P R (x >>= f) := by
  cases h with
  | error h => exact .error h
  | ok h => exact rest _ h

theorem map {f : α → β} (h : Meets P Q x) (rest : ∀ a, Q a → R (f a)) : Meets P R (x.map f) := by
  cases h with
  | error h => exact .error h
  | ok h => exact .ok (rest _ h)

theorem mapM {f : α → Except ε β} {as : List α} (h : ∀ a ∈ as, Meets P (fun _ => True) (f a)) :
    Meets P (fun _ => True) (as.mapM f) := by
  induction as with
  | nil => exact .ok trivial
  | cons a as ih =>
    rw [List.mapM_cons]
    refine (h a List.mem_cons_self).bind fun b _ => ?_
    exact (ih fun a mem => h a (List.mem_cons_of_mem _ mem)).bind fun _ _ => .ok trivial

end Meets

end Storyboard
