import Storyboard.Proofs.Json.Fields
import Storyboard.Step.Record

/-!
# Step records in storage

A record whose numbers are finite is got back from its JSON, its numbers as they are rounded, and
every record that is read has finite numbers only.

## Main definitions

* `Record.Every`: the numbers of the record have a property.

## Main statements

* `Record.every_ofFields`: records that are read have finite numbers.
* `Record.ofJson?_reread`: records with finite numbers are got back.
* `Record.storable_toJson`: the JSON of such a record can be stored.
* `Record.mapNumbers_eq_iff`: two functions do the same to a record if they do to its numbers.
-/

namespace Storyboard

/-- The value of the field, if there is one, has the property. -/
def Holds {α : Type} (property : α → Prop) (field : Option α) : Prop :=
  ∀ a ∈ field, property a

section Holds

variable {α : Type} {property : α → Prop}

instance [DecidablePred property] (field : Option α) : Decidable (Holds property field) :=
  inferInstanceAs (Decidable (∀ a ∈ field, property a))

@[simp] theorem holds_none : Holds property none := by simp [Holds]

@[simp] theorem holds_some {a : α} : Holds property (some a) ↔ property a := by simp [Holds]

/-- A field is got back if each value is. -/
theorem bind_map {write : α → Json} {read : Json → Option α} {f : α → α} {field : Option α}
    (back : ∀ a, property a → read (write a) = some (f a)) (h : Holds property field) :
    (field.map write).bind read = field.map f := by
  cases field with
  | none => rfl
  | some a => exact back a (holds_some.1 h)

theorem map_eq_map_iff {β : Type} {f g : α → β} {field : Option α} :
    field.map f = field.map g ↔ Holds (fun a => f a = g a) field := by
  cases field <;> simp

theorem Holds.map {β : Type} {property' : β → Prop} {f : α → β} {field : Option α}
    (h : Holds property field) (imp : ∀ a, property a → property' (f a)) :
    Holds property' (field.map f) := by
  intro b hb
  obtain ⟨a, rfl, rfl⟩ := Option.map_eq_some_iff.1 hb
  exact imp a (h a rfl)

end Holds

namespace Record

/-- The fields that hold a number. -/
def scalars (r : Record) : List (Option Double) :=
  [r.duration, r.degrees, r.volume, r.pitch, r.rotX, r.rotY, r.rotZ, r.yaw, r.count, r.height,
   r.scale]

/-- The fields that hold a point or an offset. -/
def vectors (r : Record) : List (Option Vec3) :=
  [r.point, r.pos, r.pos2, r.offset, r.lookAt, r.motion]

/-- The numbers of the record have the property. -/
def Every (property : Double → Prop) (r : Record) : Prop :=
  (∀ field ∈ r.scalars, Holds property field) ∧
    ∀ field ∈ r.vectors, Holds (Vec3.Every property) field

instance {property : Double → Prop} [DecidablePred property] (r : Record) :
    Decidable (r.Every property) :=
  inferInstanceAs (Decidable (_ ∧ _))

theorem every_empty (property : Double → Prop) : Every property {} := by
  simp [Every, scalars, vectors]

/-- Whatever a field holds, its reader gives finite numbers. -/
theorem every_ofFields (get : String → Option Json) : (ofFields get).Every (·.isFinite) := by
  have scalars : (ofFields get).scalars =
      ["duration", "degrees", "volume", "pitch", "rotX", "rotY", "rotZ", "yaw", "count", "height",
        "scale"].map fun name => (get name).bind Json.number? := rfl
  have vectors : (ofFields get).vectors =
      ["point", "pos", "pos2", "offset", "lookAt", "motion"].map
        fun name => (get name).bind Json.vec3? := rfl
  constructor
  · intro field mem x hx
    rw [scalars] at mem
    obtain ⟨name, -, rfl⟩ := List.mem_map.1 mem
    obtain ⟨value, -, read⟩ := Option.bind_eq_some_iff.1 hx
    exact Json.isFinite_of_number? read
  · intro field mem v hv
    rw [vectors] at mem
    obtain ⟨name, -, rfl⟩ := List.mem_map.1 mem
    obtain ⟨value, -, read⟩ := Option.bind_eq_some_iff.1 hv
    exact Json.every_of_vec3? read

/-- Two functions do the same to a record exactly if they do the same to each of its numbers. -/
theorem mapNumbers_eq_iff {f g : Double → Double} {r : Record} :
    r.mapNumbers f = r.mapNumbers g ↔ r.Every fun x => f x = g x := by
  have points (v : Vec3) : v.map f = v.map g ↔ v.Every fun x => f x = g x := by
    simp [Vec3.map, Vec3.Every]
  simp only [mapNumbers, mk.injEq, map_eq_map_iff, points, Every, scalars, vectors,
    List.forall_mem_cons, List.not_mem_nil, false_imp_iff, implies_true, true_and, and_true]
  tauto

theorem nodup_fields (r : Record) : (r.fields.map Prod.fst).Nodup :=
  (by decide : fieldNames.Nodup)

variable {round : Json.Rounding}

/-- Each field stands under its own name, in the form that its reader takes. -/
theorem ofFields_reread (accepts : round.Accepts) {r : Record} (finite : r.Every (·.isFinite)) :
    ofFields (fun name =>
      ((r.fields.map fun f => (f.1, f.2.map (Json.reread round))).lookup name).join) =
        r.mapNumbers (Json.settle round) := by
  simp only [Every, scalars, vectors, List.forall_mem_cons] at finite
  have texts (s : Option String) :
      ((s.map Json.string).map (Json.reread round)).bind Json.text? = s := by
    cases s with
    | none => rfl
    | some s => simp [Json.reread, Json.text?]
  have flags (b : Option Bool) :
      ((b.map Json.bool).map (Json.reread round)).bind Json.flag? = b := by
    cases b with
    | none => rfl
    | some b => simp [Json.reread, Json.flag?]
  have numbers {o : Option Double} (h : Holds (·.isFinite) o) :
      ((o.map Json.ofNumber).map (Json.reread round)).bind Json.number? =
        o.map (Json.settle round) := by
    rw [Option.map_map]
    exact bind_map (fun _ => Json.number?_reread accepts) h
  have points {o : Option Vec3} (h : Holds (Vec3.Every (·.isFinite)) o) :
      ((o.map Json.ofVec3).map (Json.reread round)).bind Json.vec3? =
        o.map (Vec3.map (Json.settle round)) := by
    rw [Option.map_map]
    exact bind_map (fun _ => Json.vec3?_reread accepts) h
  have dictionaries (e : Option Dictionary) :
      ((e.map Json.ofDictionary).map (Json.reread round)).bind Json.dictionary? = e := by
    cases e with
    | none => rfl
    | some e => simp [Json.reread_ofDictionary, Json.dictionary?_ofDictionary]
  have mark : ((if r.attachKeyFrame then some ((Json.bool true).reread round) else none).bind
      Json.flag?).getD false = r.attachKeyFrame := by
    cases r.attachKeyFrame with
    | false => rfl
    | true => simp [Json.reread, Json.flag?]
  simp only [Option.map_map] at texts flags numbers points dictionaries
  simp [ofFields, fields, mapNumbers, List.lookup_cons, texts, flags, numbers, points,
    dictionaries, mark, finite]

theorem ofJson?_reread (accepts : round.Accepts) {r : Record} (finite : r.Every (·.isFinite)) :
    ofJson? (r.toJson.reread round) = some (r.mapNumbers (Json.settle round)) := by
  have distinct :
      ((r.fields.map fun f => (f.1, f.2.map (Json.reread round))).map Prod.fst).Nodup := by
    rw [List.map_map]
    exact r.nodup_fields
  rw [ofJson?, toJson, Json.reread_ofFields, Json.fields?_ofFields distinct, Option.map_some,
    ofFields_reread accepts finite]

theorem storable_toJson {r : Record} (finite : r.Every (·.isFinite)) : r.toJson.Storable 2 := by
  simp only [Every, scalars, vectors, List.forall_mem_cons] at finite
  have texts (s : Option String) : Holds (Json.Storable 1) (s.map .string) := by
    cases s <;> simp [Json.Storable.string]
  have flags (b : Option Bool) : Holds (Json.Storable 1) (b.map .bool) := by
    cases b <;> simp [Json.Storable.bool]
  have numbers {o : Option Double} (h : Holds (·.isFinite) o) :
      Holds (Json.Storable 1) (o.map .ofNumber) := h.map fun _ => Json.storable_ofNumber
  have points {o : Option Vec3} (h : Holds (Vec3.Every (·.isFinite)) o) :
      Holds (Json.Storable 1) (o.map .ofVec3) := h.map fun _ => Json.storable_ofVec3
  have dictionaries (e : Option Dictionary) : Holds (Json.Storable 1) (e.map .ofDictionary) := by
    cases e <;> simp [Json.storable_ofDictionary]
  have mark : Holds (Json.Storable 1) (if r.attachKeyFrame then some (.bool true) else none) := by
    cases r.attachKeyFrame <;> simp [Json.Storable.bool]
  have all : ∀ f ∈ r.fields, Holds (Json.Storable 1) f.2 := by
    simp [fields, texts, flags, numbers, points, dictionaries, mark, finite]
  exact Json.storable_ofFields r.nodup_fields all

end Record

end Storyboard
