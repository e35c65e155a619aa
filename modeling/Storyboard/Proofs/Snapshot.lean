import Storyboard.History
import Storyboard.Proofs.Step.Equality

/-!
# Snapshots are equal when the lists are

Undo compares lists by the texts of their snapshots. A text does not show the sign of a zero, and
neither does the equality of steps; apart from that, different lists have different texts. A list is
got back from its snapshot if its numbers are read as they are written.

## Main definitions

* `Step.IsLoaded`: the lists of steps that come out of storage.

## Main statements

* `Snapshot.restore?_take`: what the snapshot of a list restores.
* `Snapshot.texts_equal_iff`: texts are equal exactly when lists are, and when lists are restored.
-/

namespace Storyboard

/-- The list of steps comes out of storage. -/
def Step.IsLoaded (steps : List Step) : Prop :=
  ∃ value, Step.listOfJson? value = some steps

theorem Step.IsLoaded.stored {steps : List Step} (loaded : IsLoaded steps) :
    ∀ step ∈ steps, step.Stored := by
  obtain ⟨value, read⟩ := loaded
  exact stored_of_listOfJson? read

namespace Snapshot

open Step (IsLoaded)

variable {steps a b : List Step} {snapshot : Snapshot}

/-- The snapshot of a list restores the list with its numbers as they are read. -/
theorem restore?_take (loaded : IsLoaded steps) :
    (take steps).restore? = some (Step.reread steps) := by
  have parsed : Json.parse? (Step.listToJson steps).compact =
      some ((Step.listToJson steps).reread Numeral.quick) :=
    Json.parseWith?_compact Json.accepts_quick
      ((Step.storable_listToJson loaded.stored).mono (by decide))
  rw [restore?, take, parsed, Option.bind_some,
    Step.listOfJson?_reread Json.accepts_quick loaded.stored, Step.reread]

/-- What a snapshot restores comes out of storage. -/
theorem isLoaded_of_restore? (restored : snapshot.restore? = some steps) : IsLoaded steps := by
  obtain ⟨value, -, read⟩ := Option.bind_eq_some_iff.1 restored
  exact ⟨value, read⟩

/-- Lists of steps have the same snapshot exactly when they are equal. -/
theorem take_eq_iff (loadedA : IsLoaded a) (loadedB : IsLoaded b) :
    take a = take b ↔ List.Forall₂ Step.Equal a b := by
  rw [take, take, mk.injEq, ← Step.listToJson_eq_iff loadedA.stored loadedB.stored]
  exact ⟨Json.compact_injective ((Step.storable_listToJson loadedA.stored).mono (by decide))
    ((Step.storable_listToJson loadedB.stored).mono (by decide)), congrArg Json.compact⟩

/-- What is restored has the same snapshot again exactly when the numbers of the list read back. -/
theorem take_reread_iff (loaded : IsLoaded steps) :
    take (Step.reread steps) = take steps ↔ Step.ReadBack steps := by
  rw [take_eq_iff (isLoaded_of_restore? (restore?_take loaded)) loaded,
    Step.forall₂_equal_reread_iff loaded.stored]

/-- Reading again changes a list once at most, if the list reads back. -/
theorem readBack_reread (loaded : IsLoaded steps) (back : Step.ReadBack steps) :
    Step.ReadBack (Step.reread steps) := by
  have loaded' := isLoaded_of_restore? (restore?_take loaded)
  have again := restore?_take loaded'
  rw [(take_reread_iff loaded).2 back, restore?_take loaded] at again
  rw [← take_reread_iff loaded', ← Option.some.inj again]

/-- The snapshots of two lists that come out of storage have the same text exactly when the lists
are equal, whatever their numbers are. Each snapshot restores a list, which equals the list that it
was taken of exactly when every number of this list reads back from its own text. -/
theorem texts_equal_iff (loadedA : IsLoaded a) (loadedB : IsLoaded b) :
    ((take a).text = (take b).text ↔ List.Forall₂ Step.Equal a b) ∧
      ∃ restored, (take a).restore? = some restored ∧
        (List.Forall₂ Step.Equal restored a ↔ Step.ReadBack a) := by
  refine ⟨?_, _, restore?_take loadedA, Step.forall₂_equal_reread_iff loadedA.stored⟩
  rw [← take_eq_iff loadedA loadedB, take, take, mk.injEq]

/-- A turn of the camera by zero degrees, where the zero has the given sign, and a blank step. -/
def stillCamera (negative : Bool) : List Step :=
  [⟨false, .rotateCamera (some (.zero .double negative))⟩, .blank]

theorem texts_equal_iff_stillCamera :
    stillCamera true ≠ stillCamera false ∧
      (take (stillCamera true)).text = (take (stillCamera false)).text ∧
      (take (stillCamera true)).text ≠ (take [.blank]).text ∧
      (take (stillCamera true)).restore? = some (stillCamera false) ∧
      Step.ReadBack (stillCamera true) := by
  have loaded (negative : Bool) : IsLoaded (stillCamera negative) := by
    refine ⟨.array [.object [("type", .string "rotate_camera"),
      ("degrees", .string (if negative then "-0" else "0"))], .null], ?_⟩
    cases negative <;> decide +kernel
  have blank : IsLoaded [.blank] := ⟨.array [.null], rfl⟩
  have equal : List.Forall₂ Step.Equal (stillCamera false) (stillCamera true) :=
    .cons rfl (.cons rfl .nil)
  have restored : (take (stillCamera true)).restore? = some (stillCamera false) := by
    decide +kernel
  obtain ⟨same, list, got, back⟩ := texts_equal_iff (loaded true) (loaded false)
  obtain rfl : list = stillCamera false := Option.some.inj (got.symm.trans restored)
  refine ⟨by decide, same.2 (.cons rfl (.cons rfl .nil)), fun text => ?_, restored, back.1 equal⟩
  have lengths := ((texts_equal_iff (loaded true) blank).1.1 text).length_eq
  cases lengths

end Snapshot

end Storyboard
