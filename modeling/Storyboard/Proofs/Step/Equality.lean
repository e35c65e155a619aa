import Storyboard.Proofs.Step.Storage

/-!
# Equality of stored steps

Writing does not look at the signs of zeros, and neither does the equality of steps; apart from that
the numbers of a step are seen in its JSON. So steps are equal exactly when their JSON is the same.
A step that is read again equals the step that was written exactly when its numbers read back.

## Main definitions

* `Step.Every`: the numbers of the step have a property.
* `Step.reread`, `Step.ReadBack`: the steps as they are read again, and whether their numbers read
  back.

## Main statements

* `Step.Stored.mapNumbers_eq_iff`: two functions do the same to a step if they do to its numbers.
* `Step.listToJson_eq_iff`: equality seen in JSON.
* `Step.equal_reread_iff`, `Step.forall₂_equal_reread_iff`: equality after reading again.
-/

namespace Storyboard

/-! ## Writing -/

namespace Json

/-- A zero is written as the integer. -/
theorem ofNumber_dropZeroSign (x : Double) : ofNumber x.dropZeroSign = ofNumber x := by
  obtain ⟨⟩ | ⟨⟩ | ⟨negative, _ | m, q, canonical⟩ := x
  · rfl
  · rfl
  · simp [ofNumber, Binary.dropZeroSign, Binary.whole?, Binary.toRat?, exactBound]
  · rfl

theorem ofVec3_dropZeroSign (v : Vec3) : ofVec3 (v.map Binary.dropZeroSign) = ofVec3 v := by
  simp only [ofVec3, Vec3.map, ofNumber_dropZeroSign]

end Json

namespace Record

theorem toJson_dropZeroSign (r : Record) :
    (r.mapNumbers Binary.dropZeroSign).toJson = r.toJson := by
  have fields : (r.mapNumbers Binary.dropZeroSign).fields = r.fields := by
    simp only [Record.fields, mapNumbers, Option.map_map, Function.comp_def,
      Json.ofNumber_dropZeroSign, Json.ofVec3_dropZeroSign]
    rfl
  rw [toJson, toJson, fields]

theorem every_congr {r : Record} {given p q : Double → Prop} (h : ∀ x, given x → (p x ↔ q x))
    (all : r.Every given) : r.Every p ↔ r.Every q := by
  have numbers {field : Option Double} (all : Holds given field) :
      Holds p field ↔ Holds q field := by
    cases field with
    | none => simp
    | some x => simpa using h x (holds_some.1 all)
  have points {field : Option Vec3} (all : Holds (Vec3.Every given) field) :
      Holds (Vec3.Every p) field ↔ Holds (Vec3.Every q) field := by
    cases field with
    | none => simp
    | some v =>
      obtain ⟨x, y, z⟩ := holds_some.1 all
      simp [Vec3.Every, h _ x, h _ y, h _ z]
  exact and_congr (forall₂_congr fun field mem => numbers (all.1 field mem))
    (forall₂_congr fun field mem => points (all.2 field mem))

end Record

theorem Vec3.map_comp_map (f g : Double → Double) : map g ∘ map f = map (g ∘ f) :=
  rfl

theorem Op.mapNumbers_mapNumbers (f g : Double → Double) (op : Op) :
    (op.mapNumbers f).mapNumbers g = op.mapNumbers (g ∘ f) := by
  cases op <;>
    simp only [mapNumbers, Caption.mapNumbers, Placement.mapNumbers, Area.mapNumbers,
      Record.mapNumbers, Option.map_map, Vec3.map_comp_map]

/-! ## Steps -/

namespace Step

/-- The numbers of the step have the property. A tick count is a number of its record, too. -/
def Every (property : Double → Prop) (step : Step) : Prop :=
  step.toRecord.Every property

instance {property : Double → Prop} [DecidablePred property] (step : Step) :
    Decidable (step.Every property) :=
  inferInstanceAs (Decidable (step.toRecord.Every property))

variable {step : Step} {f g : Double → Double} {round : Json.Rounding}

theorem mapNumbers_mapNumbers (step : Step) :
    (step.mapNumbers f).mapNumbers g = step.mapNumbers (g ∘ f) := by
  simp only [mapNumbers, Op.mapNumbers_mapNumbers]

/-- Two functions do the same to a step exactly if they do the same to each of its numbers. -/
theorem Stored.mapNumbers_eq_iff (stored : step.Stored) (ticks : KeepsTicks f)
    (ticks' : KeepsTicks g) :
    step.mapNumbers f = step.mapNumbers g ↔ step.Every fun x => f x = g x := by
  rw [Every, ← Record.mapNumbers_eq_iff, ← toRecord_mapNumbers ticks, ← toRecord_mapNumbers ticks']
  constructor
  · exact congrArg toRecord
  · intro same
    rw [← stored.back f, same, stored.back g]

theorem isBlank_mapNumbers (step : Step) : (step.mapNumbers f).isBlank = step.isBlank := by
  obtain ⟨mark, op⟩ := step
  cases op <;> rfl

/-- Writing does not look at the signs of zeros. -/
theorem toJson_dropZeroSign (step : Step) :
    (step.mapNumbers Binary.dropZeroSign).toJson = step.toJson := by
  rw [toJson, toJson, isBlank_mapNumbers, toRecord_mapNumbers keepsTicks_dropZeroSign,
    Record.toJson_dropZeroSign]
  rfl

/-- Where numbers are read as the nearest ones, a step loses the signs of its zeros only. -/
theorem Stored.mapNumbers_nearest (stored : step.Stored) :
    step.mapNumbers (Json.settle Numeral.nearest) = step.mapNumbers Binary.dropZeroSign := by
  rw [stored.mapNumbers_eq_iff (keepsTicks_settle _) keepsTicks_dropZeroSign, Every,
    Record.every_congr (fun x finite => iff_of_true (Json.settle_nearest finite) finite)
      stored.finite]
  exact stored.finite

/-- A step that is read again equals the step exactly when its numbers read back. -/
theorem equal_reread_iff (stored : step.Stored) :
    Equal (step.mapNumbers (Json.settle Numeral.quick)) step ↔ step.Every Json.ReadsBack := by
  have ticks : KeepsTicks (Binary.dropZeroSign ∘ Json.settle Numeral.quick) := fun n => by
    rw [Function.comp, keepsTicks_settle, keepsTicks_dropZeroSign]
  rw [Equal, mapNumbers_mapNumbers, stored.mapNumbers_eq_iff ticks keepsTicks_dropZeroSign]
  exact Record.every_congr (fun x finite => (Json.readsBack_iff finite).symm) stored.finite

/-! ## Lists -/

variable {list list' : List Step}

/-- The steps as they come back from their text. -/
def reread (list : List Step) : List Step :=
  list.map (mapNumbers (Json.settle Numeral.quick))

/-- Every number of the steps reads back from its own text. -/
def ReadBack (list : List Step) : Prop :=
  ∀ step ∈ list, step.Every Json.ReadsBack

instance (list : List Step) : Decidable (ReadBack list) :=
  inferInstanceAs (Decidable (∀ step ∈ list, _))

theorem forall₂_equal_iff :
    List.Forall₂ Equal list list' ↔
      list.map (mapNumbers Binary.dropZeroSign) = list'.map (mapNumbers Binary.dropZeroSign) := by
  rw [← List.forall₂_eq_eq_eq, List.forall₂_map_left_iff, List.forall₂_map_right_iff]
  rfl

theorem listToJson_dropZeroSign (list : List Step) :
    listToJson (list.map (mapNumbers Binary.dropZeroSign)) = listToJson list := by
  rw [listToJson, List.map_map]
  exact congrArg Json.array (List.map_congr_left fun step _ => toJson_dropZeroSign step)

/-- Lists of steps have the same JSON exactly when they are equal. -/
theorem listToJson_eq_iff (stored : ∀ step ∈ list, step.Stored)
    (stored' : ∀ step ∈ list', step.Stored) :
    listToJson list = listToJson list' ↔ List.Forall₂ Equal list list' := by
  have nearest {steps : List Step} (stored : ∀ step ∈ steps, step.Stored) :
      listOfJson? ((listToJson steps).reread Numeral.nearest) =
        some (steps.map (mapNumbers Binary.dropZeroSign)) := by
    rw [listOfJson?_reread Json.accepts_nearest stored]
    exact congrArg some (List.map_congr_left fun step mem => (stored step mem).mapNumbers_nearest)
  rw [forall₂_equal_iff]
  constructor
  · intro same
    have read := nearest stored
    rw [same, nearest stored'] at read
    exact (Option.some.inj read).symm
  · intro equal
    rw [← listToJson_dropZeroSign list, equal, listToJson_dropZeroSign]

/-- A list of steps that is read again equals the list exactly when its numbers read back. -/
theorem forall₂_equal_reread_iff (stored : ∀ step ∈ list, step.Stored) :
    List.Forall₂ Equal (reread list) list ↔ ReadBack list := by
  rw [reread, List.forall₂_map_left_iff, List.forall₂_same]
  exact forall₂_congr fun step mem => equal_reread_iff (stored step mem)

end Step

end Storyboard
