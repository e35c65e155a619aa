import Storyboard.Equality
import Storyboard.Proofs.Json.Value
import Storyboard.Proofs.Number.Whole

/-!
# Fields of JSON

Each reader of a field undoes the writer of the field, but for numbers, which come back as they are
rounded. What a reader gives can be written.

## Main definitions

* `Json.settle`: the number that comes back.
* `Json.ReadsBack`: the number that comes back is the same number.

## Main statements

* `Json.number?_reread`, `Json.vec3?_reread`, `Json.dictionary?_ofDictionary`,
  `Title.ofJson?_toJson`: the fields that are got back.
* `Json.settle_nearest`: rounding to the nearest loses the sign of a zero only.
* `Json.isFinite_of_number?`, `Json.every_of_vec3?`: what a reader gives.
* `Json.fields?_ofFields`: the fields of an object by name.
-/

namespace Storyboard

/-! ## Dictionaries -/

namespace Dictionary

theorem insertEntry_of_forall_lt {name text : String} {entries : List (String × String)}
    (h : ∀ e ∈ entries, e.1 < name) :
    insertEntry name text entries = entries ++ [(name, text)] := by
  induction entries with
  | nil => rfl
  | cons first rest ih =>
    have below : first.1 < name := h first (by simp)
    rw [insertEntry, if_neg (String.lt_asymm below), if_pos below,
      ih fun e he => h e (List.mem_cons_of_mem _ he), List.cons_append]

theorem entries_foldl_insert {entries : List (String × String)} (d : Dictionary)
    (increasing : (d.entries ++ entries).Pairwise fun a b => a.1 < b.1) :
    (entries.foldl (fun d e => d.insert e.1 e.2) d).entries = d.entries ++ entries := by
  induction entries generalizing d with
  | nil => simp
  | cons first rest ih =>
    have next : (d.insert first.1 first.2).entries = d.entries ++ [first] :=
      insertEntry_of_forall_lt fun e he =>
        (List.pairwise_append.1 increasing).2.2 e he first (by simp)
    have increasing' :
        ((d.insert first.1 first.2).entries ++ rest).Pairwise fun a b => a.1 < b.1 := by
      rw [next, List.append_assoc]
      exact increasing
    rw [List.foldl_cons, ih _ increasing', next, List.append_assoc, List.singleton_append]

/-- The entries of a dictionary are in order, so putting them in one by one changes nothing. -/
theorem ofList_entries (d : Dictionary) : ofList d.entries = d := by
  have entries := entries_foldl_insert empty d.increasing
  obtain ⟨list, increasing⟩ := d
  generalize all : ofList list = e
  obtain ⟨_, _⟩ := e
  simp only [mk.injEq]
  exact (congrArg Dictionary.entries all).symm.trans entries

theorem nodup_names (d : Dictionary) : (d.entries.map Prod.fst).Nodup := by
  refine List.pairwise_map.2 (d.increasing.imp ?_)
  intro a b below same
  exact String.lt_irrefl _ (same ▸ below)

end Dictionary

/-- The coordinates have the property. -/
def Vec3.Every (property : Double → Prop) (v : Vec3) : Prop :=
  property v.x ∧ property v.y ∧ property v.z

instance {property : Double → Prop} [DecidablePred property] (v : Vec3) :
    Decidable (v.Every property) :=
  inferInstanceAs (Decidable (_ ∧ _))

namespace Json

variable {round : Rounding} {depth : Nat} {value : Json}

theorem Storable.mono {depth' : Nat} (h : Storable depth value) (le : depth ≤ depth') :
    Storable depth' value := by
  induction h generalizing depth' with
  | null => exact .null
  | bool b => exact .bool b
  | number h => exact .number h
  | string s => exact .string s
  | array h ih =>
    obtain ⟨d, rfl⟩ : ∃ d, depth' = d + 1 := ⟨depth' - 1, by omega⟩
    exact .array fun v hv => ih v hv (by omega)
  | object distinct h ih =>
    obtain ⟨d, rfl⟩ : ∃ d, depth' = d + 1 := ⟨depth' - 1, by omega⟩
    exact .object distinct fun m hm => ih m hm (by omega)

/-! ## Numbers -/

theorem isFinite_of_number? {x : Double} (h : value.number? = some x) : x.isFinite :=
  (Option.filter_eq_some_iff.1 h).2

theorem toRat?_of_whole? {f : Format} {x : Binary f} {bound : Nat} {n : Int}
    (h : x.whole? bound = some n) : x.toRat? = some (n : ℚ) ∧ n.natAbs < bound := by
  simp only [Binary.whole?] at h
  split at h
  next r value =>
    split at h
    next whole =>
      obtain rfl := Option.some.inj h
      exact ⟨value.trans (congrArg some (Rat.ext (by simp) (by simp [whole.1]))), whole.2⟩
    next => cases h
  next => cases h

/-- The number that comes back when a number is written to a field and read again. -/
def settle (round : Rounding) (x : Double) : Double :=
  ((ofNumber x).reread round).number?.getD x

/-- What is written for a whole number that is small enough is the integer. -/
theorem reread_ofNumber {x : Double} (finite : x.isFinite) :
    (∃ n : Int, n.natAbs < 2 ^ 53 ∧ x.toRat? = some (n : ℚ) ∧
        (ofNumber x).reread round = .number (.int n)) ∨
      x.whole? exactBound = none ∧ ∃ negative m q canonical, x = .finite negative m q canonical ∧
        (ofNumber x).reread round =
          .number (.float (round (floatNumeral negative m q canonical))) := by
  rw [ofNumber]
  cases whole : x.whole? exactBound with
  | some n =>
    obtain ⟨value, small⟩ := toRat?_of_whole? whole
    exact .inl ⟨n, small, value, by rw [reread]; rfl⟩
  | none =>
    obtain ⟨⟩ | ⟨⟩ | ⟨negative, m, q, canonical⟩ := x
    · cases finite
    · cases finite
    · exact .inr ⟨rfl, negative, m, q, canonical, rfl, by rw [reread]; rfl⟩

theorem number?_int {n : Int} (small : n.natAbs < 2 ^ 53) :
    (number (.int n)).number? = some (.ofInt n) := by
  simp [number?, JsonNumber.toDouble, (Double.isPlain_ofInt small).1]

theorem number?_float {x : Double} (finite : x.isFinite) :
    (number (.float x)).number? = some x := by
  simp [number?, JsonNumber.toDouble, finite]

/-- A finite number comes back as a number. -/
theorem number?_reread (accepts : round.Accepts) {x : Double} (finite : x.isFinite) :
    ((ofNumber x).reread round).number? = some (settle round x) := by
  rw [settle]
  obtain ⟨n, small, -, read⟩ | ⟨-, negative, m, q, canonical, -, read⟩ := reread_ofNumber finite
  · rw [read, number?_int small]
    rfl
  · rw [read, number?_float (accepts negative m q canonical)]
    rfl

/-- A whole number that is small enough comes back as it is. -/
theorem settle_ofInt {n : Int} (small : n.natAbs < 2 ^ 53) :
    settle round (.ofInt n) = .ofInt n := by
  have value := Double.toRat?_ofInt small
  have whole : Binary.whole? exactBound (.ofInt n : Double) = some n := by
    simpa [Binary.whole?, value, exactBound] using small
  rw [settle, ofNumber, whole, reread, JsonNumber.reread, number?_int small, Option.getD_some]
  · simp

/-- Rounding to the nearest loses the sign of a zero only. -/
theorem settle_nearest {x : Double} (finite : x.isFinite) :
    settle Numeral.nearest x = x.dropZeroSign := by
  obtain ⟨n, small, value, read⟩ | ⟨other, negative, m, q, canonical, rfl, read⟩ :=
    @reread_ofNumber Numeral.nearest _ finite
  · rw [settle, read, number?_int small, Option.getD_some]
    refine Binary.ofInt_of_toRat? (Binary.isPlain_dropZeroSign finite) ?_
    rw [Binary.toRat?_dropZeroSign, value]
  · rw [settle, read, nearest_floatNumeral, number?_float rfl, Option.getD_some]
    refine (Binary.isPlain_finite fun _ => ?_).2.symm
    rintro rfl
    simp [Binary.whole?, Binary.toRat?, exactBound] at other

theorem storable_ofNumber {x : Double} (finite : x.isFinite) : Storable depth (ofNumber x) := by
  rw [ofNumber]
  split
  next n whole =>
    have small : n.natAbs < 9007199254740992 := (toRat?_of_whole? whole).2
    exact .number ⟨by omega, by omega⟩
  next => exact .number finite

/-- The number is read from its text, but for the sign of a zero. -/
def ReadsBack (x : Double) : Prop :=
  ((parse? (ofNumber x).compact).bind number?).map Binary.dropZeroSign = some x.dropZeroSign

instance (x : Double) : Decidable (ReadsBack x) :=
  inferInstanceAs (Decidable (_ = _))

theorem readsBack_iff {x : Double} (finite : x.isFinite) :
    ReadsBack x ↔ (settle Numeral.quick x).dropZeroSign = x.dropZeroSign := by
  rw [ReadsBack, parse?, parseWith?_compact accepts_quick (storable_ofNumber finite),
    Option.bind_some, number?_reread accepts_quick finite, Option.map_some, Option.some.injEq]

/-! ## Vectors and dictionaries -/

theorem every_of_vec3? {v : Vec3} (h : value.vec3? = some v) : v.Every (·.isFinite) := by
  unfold vec3? at h
  split at h
  · simp only [Option.bind_eq_bind, Option.bind_eq_some_iff, Option.pure_def,
      Option.some.injEq] at h
    obtain ⟨x, hx, y, hy, z, hz, rfl⟩ := h
    exact ⟨isFinite_of_number? hx, isFinite_of_number? hy, isFinite_of_number? hz⟩
  · simp only [Option.bind_eq_bind, Option.bind_eq_some_iff, Option.pure_def,
      Option.some.injEq] at h
    obtain ⟨_, -, x, hx, _, -, y, hy, _, -, z, hz, rfl⟩ := h
    exact ⟨isFinite_of_number? hx, isFinite_of_number? hy, isFinite_of_number? hz⟩
  · cases h

theorem vec3?_reread (accepts : round.Accepts) {v : Vec3} (finite : v.Every (·.isFinite)) :
    ((ofVec3 v).reread round).vec3? = some (v.map (settle round)) := by
  rw [ofVec3, reread]
  simp [vec3?, Vec3.map, number?_reread accepts finite.1, number?_reread accepts finite.2.1,
    number?_reread accepts finite.2.2]

theorem storable_ofVec3 {v : Vec3} (finite : v.Every (·.isFinite)) :
    Storable (depth + 1) (ofVec3 v) := by
  refine .array fun item mem => ?_
  simp only [List.mem_cons, List.not_mem_nil, or_false] at mem
  rcases mem with rfl | rfl | rfl
  · exact storable_ofNumber finite.1
  · exact storable_ofNumber finite.2.1
  · exact storable_ofNumber finite.2.2

theorem reread_ofDictionary (d : Dictionary) : (ofDictionary d).reread round = ofDictionary d := by
  rw [ofDictionary, reread, List.map_map]
  refine congrArg Json.object (List.map_congr_left fun e _ => ?_)
  simp only [Function.comp, reread]

theorem dictionary?_ofDictionary (d : Dictionary) : (ofDictionary d).dictionary? = some d := by
  have entries : (d.entries.map fun e => (e.1, Json.string e.2)).filterMap
      (fun m => m.2.text?.map (m.1, ·)) = d.entries := by
    rw [List.filterMap_map]
    exact List.filterMap_some
  change some (Dictionary.ofList _) = _
  rw [entries, Dictionary.ofList_entries]

theorem storable_ofDictionary (d : Dictionary) : Storable (depth + 1) (ofDictionary d) := by
  refine .object ?_ fun m hm => ?_
  · simpa [List.map_map, Function.comp_def] using d.nodup_names
  · obtain ⟨e, -, rfl⟩ := List.mem_map.1 hm
    exact .string e.2

/-! ## Lists -/

section Lists

variable {α : Type} {write : α → Json} {list : List α}

/-- A list is got back item by item. -/
theorem list?_reread {item : Json → Option α} {f : α → α}
    (back : ∀ a ∈ list, item ((write a).reread round) = some (f a)) :
    list? item ((array (list.map write)).reread round) = some (list.map f) := by
  rw [reread, list?, List.map_map, List.filterMap_map]
  refine congrArg some ?_
  calc list.filterMap (item ∘ _) = list.filterMap (some ∘ f) := List.filterMap_congr back
    _ = list.map f := by rw [List.filterMap_eq_map]

theorem storable_map (h : ∀ a ∈ list, Storable depth (write a)) :
    Storable (depth + 1) (.array (list.map write)) := by
  refine .array fun item mem => ?_
  obtain ⟨a, inside, rfl⟩ := List.mem_map.1 mem
  exact h a inside

/-- What a list is read as was read from its items. -/
theorem exists_of_list? {item : Json → Option α} (h : value.list? item = some list) :
    ∀ a ∈ list, ∃ v, item v = some a := by
  intro a mem
  unfold list? at h
  split at h
  next items =>
    obtain rfl := Option.some.inj h
    obtain ⟨v, -, read⟩ := List.mem_filterMap.1 mem
    exact ⟨v, read⟩
  next => cases h

end Lists

/-! ## Objects -/

variable {fields : List (String × Option Json)}

theorem lookup_filterMap (distinct : (fields.map Prod.fst).Nodup) (name : String) :
    (fields.filterMap fun f => f.2.map (f.1, ·)).lookup name = (fields.lookup name).join := by
  induction fields with
  | nil => rfl
  | cons first rest ih =>
    obtain ⟨key, value⟩ := first
    obtain ⟨new, tail⟩ := List.nodup_cons.1 distinct
    have tail := ih tail
    by_cases same : name = key
    · subst same
      have none : rest.lookup name = none := by
        simp only [List.lookup_eq_none_iff, bne_iff_ne]
        rintro f hf rfl
        exact new (List.mem_map.2 ⟨f, hf, rfl⟩)
      cases value <;> simp [none, tail]
    · have other : (name == key) = false := by simpa using same
      cases value <;> simp [List.lookup_cons, other, tail]

theorem reread_ofFields :
    (ofFields fields).reread round =
      ofFields (fields.map fun f => (f.1, f.2.map (reread round))) := by
  rw [ofFields, reread, ofFields, List.map_filterMap, List.filterMap_map]
  refine congrArg Json.object (List.filterMap_congr fun f _ => ?_)
  obtain ⟨key, _ | value⟩ := f <;> rfl

/-- The fields of an object that was written from `fields`. -/
theorem fields?_ofFields (distinct : (fields.map Prod.fst).Nodup) (names : List String) :
    (ofFields fields).fields? names = some fun name => (fields.lookup name).join :=
  congrArg some (funext (lookup_filterMap distinct))

theorem storable_ofFields (distinct : (fields.map Prod.fst).Nodup)
    (h : ∀ f ∈ fields, ∀ v ∈ f.2, Storable depth v) : Storable (depth + 1) (ofFields fields) := by
  have present : ∀ m ∈ fields.filterMap fun f => f.2.map (f.1, ·), (m.1, some m.2) ∈ fields := by
    intro m hm
    obtain ⟨⟨key, value⟩, mem, eq⟩ := List.mem_filterMap.1 hm
    obtain ⟨v, rfl, rfl⟩ := Option.map_eq_some_iff.1 eq
    exact mem
  refine .object ?_ fun m hm => h _ (present m hm) m.2 rfl
  -- The keys that are left stand in the order of `fields`.
  have keys : ((fields.filterMap fun f => f.2.map (f.1, ·)).map Prod.fst).Sublist
      (fields.map Prod.fst) := by
    clear distinct h present
    induction fields with
    | nil => simp
    | cons first rest ih =>
      obtain ⟨key, _ | value⟩ := first
      · exact ih.cons _
      · exact ih.cons_cons _
  exact distinct.sublist keys

end Json

/-! ## Titles -/

namespace Title

theorem texts?_strings (entries : List (String × String)) :
    texts? (entries.map fun e => (e.1, .string e.2)) = some entries := by
  induction entries with
  | nil => rfl
  | cons first rest ih => simp [texts?, ih]

theorem reread_toJson {round : Json.Rounding} (title : Title) :
    title.toJson.reread round = title.toJson := by
  cases title with
  | plain text => rw [toJson, Json.reread]
  | localized texts => exact Json.reread_ofDictionary texts

theorem ofJson?_toJson (title : Title) : ofJson? title.toJson = some title := by
  cases title with
  | plain text => rfl
  | localized texts =>
    change (texts? _).map _ = _
    rw [texts?_strings, Option.map_some, Function.comp, Dictionary.ofList_entries]

theorem storable_toJson {depth : Nat} (title : Title) : title.toJson.Storable (depth + 1) := by
  cases title with
  | plain text => exact .string text
  | localized texts => exact Json.storable_ofDictionary texts

end Title

end Storyboard
