import Storyboard.Proofs.Compile
import Storyboard.Proofs.Outcome
import Storyboard.Proofs.Scene.Normal
import Storyboard.Scene.Document

/-!
# What loading accepts

Loading looks at three things only: that the text is JSON, that it has one of the three shapes of a
document, and that every scene in it has a valid identifier. All other fields may hold any value.
They keep their places: one scene for each entry, and one step for each item of a list of steps.
What has been loaded compiles.

## Main definitions

* `Json.field?`, `Json.hasFields`: the fields of a stored thing by name or by place.
* `Document.Lists`: the shapes of a document.
* `Document.IsEntry`: a value that stores a scene, whatever its other fields are.
* `Document.KeepsSlots`: a scene with a step for each item that stores one.

## Main statements

* `Document.load_eq_ok_iff`: what is loaded from which text.
* `exists_compileAll`: scenes with valid identifiers compile.
* `Document.load_strictness`: all of this for every text.
-/

namespace Storyboard

/-! ## Fields -/

namespace Json

/-- The field of a stored thing: the member of an object with a key, or the item of an array at a
place. -/
def field? (name : String) (place : Nat) : Json → Option Json
  | .object members => members.lookup name
  | .array items => items[place]?
  | _ => none

/-- An object, or an array with at most `size` items. -/
def hasFields (size : Nat) : Json → Bool
  | .object _ => true
  | .array items => items.length ≤ size
  | _ => false

theorem isSome_fields? (value : Json) (names : List String) :
    (value.fields? names).isSome = value.hasFields names.length := by
  cases value with
  | array items => by_cases le : items.length ≤ names.length <;> simp [fields?, hasFields, le]
  | _ => rfl

variable {names : List String} {value : Json}

theorem lookup_zip (distinct : names.Nodup) (items : List Json) {place : Nat} {name : String}
    (here : names[place]? = some name) : (names.zip items).lookup name = items[place]? := by
  induction names generalizing items place with
  | nil => simp at here
  | cons first names ih =>
    obtain ⟨new, distinct⟩ := List.nodup_cons.1 distinct
    cases items with
    | nil => simp
    | cons item items =>
      cases place with
      | zero =>
        obtain rfl : first = name := by simpa using here
        simp
      | succ place =>
        have later : names[place]? = some name := by simpa using here
        have other : (name == first) = false := by
          simpa using ne_of_mem_of_not_mem (List.mem_of_getElem? later) new
        simpa [List.lookup_cons, other] using ih distinct items later

/-- A field is found by its name in an object, and by the place of its name in an array. -/
theorem get_of_fields? {get : String → Option Json} (h : value.fields? names = some get)
    (distinct : names.Nodup) {place : Nat} {name : String} (here : names[place]? = some name) :
    get name = value.field? name place := by
  unfold fields? at h
  split at h
  next members => exact (congrFun (Option.some.inj h) name).symm
  next items =>
    split at h
    next =>
      obtain rfl := Option.some.inj h
      exact lookup_zip distinct items here
    next => cases h
  next => cases h

end Json

/-! ## Lists -/

section Lists

variable {α β : Type}

/-- What a reader makes of a list, next to the items that it reads. -/
theorem forall₂_filterMap (read : α → Option β) (items : List α) :
    List.Forall₂ (fun item b => read item = some b) (items.filter fun item => (read item).isSome)
      (items.filterMap read) := by
  induction items with
  | nil => exact .nil
  | cons item items ih =>
    cases result : read item with
    | none => simpa [List.filter_cons, List.filterMap_cons, result] using ih
    | some b => simpa [List.filter_cons, List.filterMap_cons, result] using ih

end Lists

/-! ## Steps and segments -/

theorem Step.ofJson_of_not_object {value : Json} (other : ∀ members, value ≠ .object members) :
    ofJson value = .blank := by
  unfold ofJson
  split
  next members => exact absurd rfl (other members)
  next => rfl

/-- Every item of a list of steps is a step, whatever it holds. -/
theorem Step.listOfJson?_array (items : List Json) :
    listOfJson? (.array items) = some (items.map ofJson) :=
  congrArg some (congrFun List.filterMap_eq_map items)

theorem Segment.steps_of_ofJson? {value : Json} {segment : Segment}
    (read : ofJson? value = some segment) {items : List Json}
    (given : value.field? "steps" 2 = some (.array items)) :
    segment.steps = items.map Step.ofJson := by
  obtain ⟨get, fields, rfl⟩ := Option.map_eq_some_iff.1 read
  have steps : get "steps" = value.field? "steps" 2 :=
    Json.get_of_fields? fields (by decide) rfl
  simp [ofFields, steps, given, Step.listOfJson?_array]

theorem Segment.isSome_ofJson? (value : Json) : (ofJson? value).isSome = value.hasFields 3 := by
  rw [ofJson?, Option.isSome_map, Json.isSome_fields?]
  rfl

/-! ## Scenes -/

namespace Document

/-- The value stores a scene whose identifier is the given text: it has the fields of a scene, of
which the identifier is a string, or is absent and stands for the empty one. -/
structure IsEntry (value : Json) (text : String) : Prop where
  hasFields : value.hasFields 7
  id : value.field? "id" 0 = some (.string text) ∨ value.field? "id" 0 = none ∧ text = ""

/-- The scene has the identifier that the value stores and a step for each item of a list of steps,
in its flat list and in each of its segments. Segments are stored by the items that have the fields
of one. -/
structure KeepsSlots (value : Json) (scene : Scene) : Prop where
  id : IsEntry value scene.id
  steps : ∀ items, value.field? "steps" 5 = some (.array items) →
    scene.steps = items.map Step.ofJson
  segments : ∀ items, value.field? "segments" 6 = some (.array items) →
    ∃ segments, scene.segments = some segments ∧
      List.Forall₂ (fun item segment => ∀ steps, item.field? "steps" 2 = some (.array steps) →
        segment.steps = steps.map Step.ofJson) (items.filter (Json.hasFields 3)) segments

variable {value : Json} {scene : Scene}

theorem ofJson?_eq_some_iff :
    Scene.ofJson? value = some scene ↔
      ∃ get text, value.fields? Scene.fieldNames = some get ∧
        (get "id" = some (.string text) ∨ get "id" = none ∧ text = "") ∧
        Scene.ofFields text get = scene := by
  simp only [Scene.ofJson?, Option.bind_eq_bind, Option.bind_eq_some_iff, Option.pure_def]
  constructor
  · rintro ⟨get, fields, read⟩
    split at read
    next absent => exact ⟨get, "", fields, .inr ⟨absent, rfl⟩, Option.some.inj read⟩
    next text given => exact ⟨get, text, fields, .inl given, Option.some.inj read⟩
    next => cases read
  · rintro ⟨get, text, fields, given | ⟨absent, rfl⟩, rfl⟩
    · exact ⟨get, fields, by simp only [given]⟩
    · exact ⟨get, fields, by simp only [absent]⟩

theorem keepsSlots_of_ofJson? (read : Scene.ofJson? value = some scene) :
    KeepsSlots value scene := by
  obtain ⟨get, text, fields, id, rfl⟩ := ofJson?_eq_some_iff.1 read
  have distinct : Scene.fieldNames.Nodup := by decide
  refine ⟨⟨?_, ?_⟩, fun items given => ?_, fun items given => ?_⟩
  · exact (value.isSome_fields? Scene.fieldNames).symm.trans (by rw [fields]; rfl)
  · have field : get "id" = value.field? "id" 0 := Json.get_of_fields? fields distinct rfl
    rwa [field] at id
  · have steps : get "steps" = value.field? "steps" 5 := Json.get_of_fields? fields distinct rfl
    simp [Scene.ofFields, steps, given, Step.listOfJson?_array]
  · have segments : get "segments" = value.field? "segments" 6 :=
      Json.get_of_fields? fields distinct rfl
    refine ⟨items.filterMap Segment.ofJson?, by
      simp [Scene.ofFields, segments, given, Json.list?], ?_⟩
    have readable := forall₂_filterMap Segment.ofJson? items
    simp only [Segment.isSome_ofJson?] at readable
    exact readable.imp fun item segment read steps => Segment.steps_of_ofJson? read

theorem exists_ofJson? {text : String} (h : IsEntry value text) :
    ∃ scene, Scene.ofJson? value = some scene ∧ scene.id = text := by
  obtain ⟨get, fields⟩ := Option.isSome_iff_exists.1
    ((value.isSome_fields? Scene.fieldNames).trans h.hasFields)
  have field : get "id" = value.field? "id" 0 := Json.get_of_fields? fields (by decide) rfl
  have id := h.id
  rw [← field] at id
  exact ⟨_, ofJson?_eq_some_iff.2 ⟨get, text, fields, id, rfl⟩, rfl⟩

/-! ## Documents -/

/-- The values that store the scenes of a document with the given root. -/
inductive Lists : Json → List Json → Prop
  /-- A list of scenes. -/
  | list (values : List Json) : Lists (.array values) values
  /-- An object with a list of scenes. -/
  | under {members : List (String × Json)} {values : List Json}
      (given : members.lookup "scenes" = some (.array values)) : Lists (.object members) values
  /-- A scene by itself. -/
  | single {members : List (String × Json)} (absent : members.lookup "scenes" = none) :
      Lists (.object members) [.object members]

theorem entries_eq_ok_iff {root : Json} {values : List Json} :
    entries root = .ok values ↔ Lists root values := by
  constructor
  · intro h
    unfold entries at h
    split at h
    next items =>
      obtain rfl := Except.ok.inj h
      exact .list items
    next members =>
      split at h
      next items given =>
        obtain rfl := Except.ok.inj h
        exact .under given
      next => cases h
      next absent =>
        obtain rfl := Except.ok.inj h
        exact .single absent
    next => cases h
  · rintro (_ | given | absent)
    · rfl
    · simp only [entries, given]
    · simp only [entries, absent]

theorem Lists.unique {root : Json} {values values' : List Json} (h : Lists root values)
    (h' : Lists root values') : values = values' := by
  rw [← entries_eq_ok_iff] at h h'
  exact Except.ok.inj (h.symm.trans h')

/-- The value stores the scene, and the identifier of the scene is valid. -/
def Reads (value : Json) (scene : Scene) : Prop :=
  Scene.ofJson? value = some scene ∧ ∃ id, scene.identifier = .ok id

theorem readScene_eq_ok_iff {index : Nat} :
    readScene index value = .ok scene ↔ Reads value scene := by
  unfold readScene Reads
  cases read : Scene.ofJson? value with
  | none => simp
  | some other =>
    cases valid : other.identifier with
    | error cause => simp only [Option.some.injEq]; grind
    | ok id => simp only [Option.some.injEq]; grind

theorem readScenes_eq_ok_iff {index : Nat} {values : List Json} {scenes : List Scene} :
    readScenes index values = .ok scenes ↔ List.Forall₂ Reads values scenes := by
  induction values generalizing index scenes with
  | nil => simp [readScenes, eq_comm]
  | cons value values ih =>
    rw [readScenes, bind_eq_ok_iff, List.forall₂_cons_left_iff]
    simp only [bind_eq_ok_iff, readScene_eq_ok_iff, ih]
    constructor
    · rintro ⟨scene, one, scenes, rest, done⟩
      cases done
      exact ⟨scene, scenes, one, rest, rfl⟩
    · rintro ⟨scene, scenes, one, rest, rfl⟩
      exact ⟨scene, one, scenes, rest, rfl⟩

theorem load_eq_ok_iff {s : String} {scenes : List Scene} :
    load s = .ok scenes ↔
      ∃ root values, Json.parse? s = some root ∧ Lists root values ∧
        List.Forall₂ Reads values scenes := by
  unfold load
  cases parsed : Json.parse? s with
  | none => simp
  | some root =>
    simp only [bind_eq_ok_iff, entries_eq_ok_iff, readScenes_eq_ok_iff]
    constructor
    · rintro ⟨values, lists, read⟩
      exact ⟨root, values, rfl, lists, read⟩
    · rintro ⟨root, values, same, lists, read⟩
      obtain rfl := Option.some.inj same
      exact ⟨values, lists, read⟩

theorem exists_reads_iff :
    (∃ scene, Reads value scene) ↔
      ∃ text id, IsEntry value text ∧ Identifier.parse text = .ok id := by
  constructor
  · rintro ⟨scene, read, id, valid⟩
    exact ⟨scene.id, id, (keepsSlots_of_ofJson? read).id, valid⟩
  · rintro ⟨text, id, entry, valid⟩
    obtain ⟨scene, read, rfl⟩ := exists_ofJson? entry
    exact ⟨scene, read, id, valid⟩

end Document

/-! ## Compiling what was loaded -/

/-- Scenes with valid identifiers compile. -/
theorem exists_compileAll (language : String) {scenes : List Scene}
    (valid : ∀ scene ∈ scenes, ∃ id, scene.identifier = .ok id) :
    ∃ compiled, compileAll language scenes = .ok compiled := by
  simp only [compileAll_eq_ok_iff, exists_forall₂_iff]
  intro scene mem
  obtain ⟨id, valid⟩ := valid scene (List.mem_of_mem_filter mem)
  exact Scene.exists_compile language valid

theorem Scene.segments_ne_nil_of_compile {language : String} {scene : Scene}
    {compiled : CompiledScene} (compiles : scene.compile language = .ok compiled) :
    compiled.segments ≠ [] := by
  intro none
  have ids := ids_of_compile compiles
  rw [none, List.map_nil, eq_comm, List.map_eq_nil_iff, List.zipIdx_eq_nil_iff] at ids
  exact scene.normalSegments_ne_nil ids

/-! ## Both -/

namespace Document

/-- A text is loaded if and only if it is JSON with a list of scenes, an object with such a list
under `scenes`, or an object without `scenes`, and each of its entries has the fields of a scene
under a valid identifier; no other field matters. There is one scene for each entry, in order, and
one step for each item of a list of steps, which depends on that item only; an item that is no
object is a blank step. The scenes compile in every language, to one scene with at least one segment
for each of them that some item shows, in order. -/
theorem load_strictness (s : String) :
    ((∃ scenes, load s = .ok scenes) ↔
      ∃ root values, Json.parse? s = some root ∧ Lists root values ∧
        ∀ value ∈ values, ∃ text id, IsEntry value text ∧ Identifier.parse text = .ok id) ∧
    (∀ scenes root values, load s = .ok scenes → Json.parse? s = some root → Lists root values →
      List.Forall₂ KeepsSlots values scenes ∧
      ∀ language, ∃ compiled, compileAll language scenes = .ok compiled ∧
        List.Forall₂ (fun scene c => scene.compile language = .ok c ∧ c.segments ≠ [])
          (scenes.filter fun scene => scene.items ≠ []) compiled) ∧
    ∀ value, (∀ members, value ≠ .object members) → Step.ofJson value = ⟨false, .blank⟩ := by
  refine ⟨?_, ?_, fun value => Step.ofJson_of_not_object⟩
  · simp only [← exists_reads_iff, ← exists_forall₂_iff]
    constructor
    · rintro ⟨scenes, loaded⟩
      obtain ⟨root, values, parsed, lists, read⟩ := load_eq_ok_iff.1 loaded
      exact ⟨root, values, parsed, lists, scenes, read⟩
    · rintro ⟨root, values, parsed, lists, scenes, read⟩
      exact ⟨scenes, load_eq_ok_iff.2 ⟨root, values, parsed, lists, read⟩⟩
  · intro scenes root values loaded parsed lists
    obtain ⟨root', values', parsed', lists', read⟩ := load_eq_ok_iff.1 loaded
    obtain rfl := Option.some.inj (parsed.symm.trans parsed')
    obtain rfl := lists.unique lists'
    refine ⟨read.imp fun value scene h => keepsSlots_of_ofJson? h.1, fun language => ?_⟩
    have valid : ∀ scene ∈ scenes, ∃ id, scene.identifier = .ok id := by
      intro scene mem
      obtain ⟨value, -, valid⟩ := exists_forall₂_iff.1 ⟨values, read.flip⟩ scene mem
      exact valid
    obtain ⟨compiled, all⟩ := exists_compileAll language valid
    have shown : (scenes.filter fun scene => scene.items ≠ []) = scenes.filter (!·.isInert) :=
      List.filter_congr fun scene _ => by cases items : scene.items <;> simp [Scene.isInert, items]
    rw [shown]
    exact ⟨compiled, all, (compileAll_eq_ok_iff.1 all).imp fun scene c compiles =>
      ⟨compiles, Scene.segments_ne_nil_of_compile compiles⟩⟩

/-- A scene as an object with fields of the wrong kind, and one as an array of fields. -/
def mixedText : String :=
  "[\x7b\"id\": \"demo:lid\", \"items\": [\"lid\", 7], \"title\": 9, \"steps\": " ++
    "[42, \x7b\"type\": 5, \"pos\": \"here\"\x7d]\x7d, [\"demo:base\", \"none\", null, true]]"

theorem load_strictness_mixed :
    ∃ root values lid base, Json.parse? mixedText = some root ∧ Lists root values ∧
      load mixedText = .ok [lid, base] ∧ List.Forall₂ KeepsSlots values [lid, base] ∧
      ∃ compiled, compileAll "en_us" [lid, base] = .ok compiled ∧ compiled.length = 1 := by
  have loaded : load mixedText = .ok
      [{ id := "demo:lid"
         items := ["lid"]
         steps := [.blank, .ofOp (.unknown { kind := some "5" })] },
       { id := "demo:base" }] := by
    decide +kernel
  obtain ⟨accepts, keeps, -⟩ := load_strictness mixedText
  obtain ⟨root, values, parsed, lists, -⟩ := accepts.1 ⟨_, loaded⟩
  obtain ⟨slots, compiles⟩ := keeps _ root values loaded parsed lists
  obtain ⟨compiled, all, each⟩ := compiles "en_us"
  exact ⟨root, values, _, _, parsed, lists, loaded, slots, compiled, all, each.length_eq.symm⟩

end Document

end Storyboard
