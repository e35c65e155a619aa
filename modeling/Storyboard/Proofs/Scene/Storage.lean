import Storyboard.Proofs.Outcome
import Storyboard.Proofs.Step.Equality
import Storyboard.Scene.Document
import Storyboard.Scene.Normal

/-!
# Scenes in storage

Loading undoes saving: a scene that came out of a document, or its normal form, is the only scene
of the document that is written for it, if its numbers are read as they are written.

## Main definitions

* `Segment.Stored`, `Scene.Stored`: the steps are stored, and the identifier of a scene is valid.
* `Segment.Every`, `Scene.Every`: the numbers of all steps have a property.

## Main statements

* `Scene.ofJson?_reread`: stored scenes are got back.
* `Scene.toJson_eq_iff`, `Scene.equal_reread_iff`: equality in JSON and after reading.
* `Scene.Stored.normal`: the normal form of a stored scene is stored.
* `Document.stored_of_load`: scenes that are loaded are stored.
* `Document.load_save_of_load`: loading undoes saving.
-/

namespace Storyboard

/-! ## Segments -/

namespace Segment

/-- The steps are stored. -/
def Stored (segment : Segment) : Prop :=
  ∀ step ∈ segment.steps, step.Stored

variable {segment : Segment}

theorem stored_of_ofJson? {value : Json} (h : ofJson? value = some segment) : segment.Stored := by
  obtain ⟨get, -, rfl⟩ := Option.map_eq_some_iff.1 h
  cases read : (get "steps").bind Step.listOfJson? with
  | none => simp [Stored, ofFields, read]
  | some steps =>
    obtain ⟨value, -, list⟩ := Option.bind_eq_some_iff.1 read
    simpa [Stored, ofFields, read] using Step.stored_of_listOfJson? list

theorem ofJson?_reread {round : Json.Rounding} (accepts : round.Accepts) (h : segment.Stored) :
    ofJson? (segment.toJson.reread round) = some (segment.mapNumbers (Json.settle round)) := by
  have texts (s : Option String) :
      (s.map (Json.reread round ∘ Json.string)).bind Json.text? = s := by
    cases s <;> simp [Json.reread, Json.text?]
  have titles (t : Option Title) :
      (t.map (Json.reread round ∘ Title.toJson)).bind Title.ofJson? = t := by
    cases t <;> simp [Title.reread_toJson, Title.ofJson?_toJson]
  rw [ofJson?, toJson, Json.reread_ofFields, Json.fields?_ofFields, Option.map_some]
  · simp [ofFields, mapNumbers, List.lookup_cons, texts, titles, Step.listOfJson?_reread accepts h]
  · exact (by decide : fieldNames.Nodup)

theorem storable_toJson (h : segment.Stored) : segment.toJson.Storable 4 := by
  have texts (s : Option String) : Holds (Json.Storable 3) (s.map .string) := by
    cases s <;> simp [Json.Storable.string]
  have titles (t : Option Title) : Holds (Json.Storable 3) (t.map Title.toJson) := by
    cases t <;> simp [Title.storable_toJson]
  refine Json.storable_ofFields (by decide : fieldNames.Nodup) ?_
  simp only [List.forall_mem_cons]
  exact ⟨texts _, titles _, holds_some.2 (Step.storable_listToJson h), by simp⟩

/-- The numbers of the segment have the property. -/
def Every (property : Double → Prop) (segment : Segment) : Prop :=
  ∀ step ∈ segment.steps, step.Every property

instance {property : Double → Prop} [DecidablePred property] (segment : Segment) :
    Decidable (segment.Every property) :=
  inferInstanceAs (Decidable (∀ step ∈ segment.steps, _))

theorem toJson_dropZeroSign (segment : Segment) :
    (segment.mapNumbers Binary.dropZeroSign).toJson = segment.toJson := by
  simp only [toJson, mapNumbers, Step.listToJson_dropZeroSign]

theorem mapNumbers_nearest (h : segment.Stored) :
    segment.mapNumbers (Json.settle Numeral.nearest) = segment.mapNumbers Binary.dropZeroSign := by
  rw [mapNumbers, List.map_congr_left fun step mem => (h step mem).mapNumbers_nearest, mapNumbers]

theorem equal_reread_iff (h : segment.Stored) :
    (segment.mapNumbers (Json.settle Numeral.quick)).mapNumbers Binary.dropZeroSign =
        segment.mapNumbers Binary.dropZeroSign ↔
      segment.Every Json.ReadsBack := by
  have steps := Step.forall₂_equal_reread_iff h
  rw [Step.forall₂_equal_iff, Step.reread] at steps
  rw [Every, ← Step.ReadBack, ← steps]
  simp [mapNumbers]

end Segment

/-! ## Scenes -/

namespace Scene

/-- The identifier is valid, and the steps are stored. -/
structure Stored (scene : Scene) : Prop where
  identifier : ∃ id, scene.identifier = .ok id
  steps : ∀ step ∈ scene.steps, step.Stored
  segments : Holds (fun segments => ∀ segment ∈ segments, segment.Stored) scene.segments

variable {scene : Scene}

section Reread

variable {round : Json.Rounding}

theorem strings_reread (list : List String) :
    strings (some ((ofStrings list).reread round)) = list := by
  have back : Json.list? Json.string? ((ofStrings list).reread round) = some (list.map (·)) := by
    refine Json.list?_reread fun s _ => ?_
    rw [Json.reread]
    rfl
  rw [strings, Option.bind_some, back, Option.getD_some, List.map_id']

theorem strings_nonEmpty (list : List String) :
    strings ((nonEmpty list).map (Json.reread round ∘ ofStrings)) = list := by
  cases list with
  | nil => rfl
  | cons => exact strings_reread _

theorem ofJson?_reread (accepts : round.Accepts) (h : scene.Stored) :
    ofJson? (scene.toJson.reread round) = some (scene.mapNumbers (Json.settle round)) := by
  have name : (Json.string scene.id).reread round = .string scene.id := by rw [Json.reread]
  have titles (t : Option Title) :
      (t.map (Json.reread round ∘ Title.toJson)).bind Title.ofJson? = t := by
    cases t <;> simp [Title.reread_toJson, Title.ofJson?_toJson]
  have steps : (((nonEmpty scene.steps).map (Json.reread round ∘ Step.listToJson)).bind
      Step.listOfJson?).getD [] = scene.steps.map (Step.mapNumbers (Json.settle round)) := by
    rw [nonEmpty]
    split
    next empty =>
      rw [List.isEmpty_iff.1 empty]
      rfl
    next =>
      rw [Option.map_some, Option.bind_some, Function.comp, Step.listOfJson?_reread accepts h.steps,
        Option.getD_some]
  have segments : (scene.segments.map
      (Json.reread round ∘ fun segments => .array (segments.map Segment.toJson))).bind
        (Json.list? Segment.ofJson?) =
        scene.segments.map (List.map (Segment.mapNumbers (Json.settle round))) :=
    bind_map (fun segments stored =>
      Json.list?_reread fun segment mem => Segment.ofJson?_reread accepts (stored segment mem))
      h.segments
  rw [ofJson?, toJson, Json.reread_ofFields, Json.fields?_ofFields]
  · simp [ofFields, mapNumbers, List.lookup_cons, name, titles, strings_reread, strings_nonEmpty,
      steps, segments]
  · exact (by decide : fieldNames.Nodup)

end Reread

theorem storable_toJson (h : scene.Stored) : scene.toJson.Storable 6 := by
  have titles (t : Option Title) : Holds (Json.Storable 5) (t.map Title.toJson) := by
    cases t <;> simp [Title.storable_toJson]
  have strings (list : List String) : (ofStrings list).Storable 5 :=
    Json.storable_map fun s _ => .string s
  have tags : Holds (Json.Storable 5) ((nonEmpty scene.tags).map ofStrings) := by
    cases nonEmpty scene.tags <;> simp [strings]
  have steps : Holds (Json.Storable 5) ((nonEmpty scene.steps).map Step.listToJson) := by
    rw [nonEmpty]
    split
    · simp
    · simpa using (Step.storable_listToJson h.steps).mono (by omega)
  have segments : Holds (Json.Storable 5)
      (scene.segments.map fun segments => .array (segments.map Segment.toJson)) :=
    h.segments.map fun segments stored =>
      Json.storable_map fun segment mem => Segment.storable_toJson (stored segment mem)
  refine Json.storable_ofFields (by decide : fieldNames.Nodup) ?_
  simp only [List.forall_mem_cons]
  exact ⟨holds_some.2 (.string _), holds_some.2 (strings _), titles _, holds_some.2 (strings _), tags,
    steps, segments, by simp⟩

theorem stored_of_ofJson? {value : Json} (h : ofJson? value = some scene)
    (valid : ∃ id, scene.identifier = .ok id) : scene.Stored := by
  obtain ⟨id, get, rfl⟩ : ∃ id get, ofFields id get = scene := by
    simp only [ofJson?, Option.bind_eq_bind, Option.bind_eq_some_iff, Option.pure_def] at h
    obtain ⟨get, -, h⟩ := h
    split at h
    · exact ⟨_, get, Option.some.inj h⟩
    · exact ⟨_, get, Option.some.inj h⟩
    · cases h
  refine ⟨valid, ?_, ?_⟩
  · cases read : (get "steps").bind Step.listOfJson? with
    | none => simp [ofFields, read]
    | some steps =>
      obtain ⟨value, -, list⟩ := Option.bind_eq_some_iff.1 read
      simpa [ofFields, read] using Step.stored_of_listOfJson? list
  · intro segments read segment mem
    obtain ⟨value, -, list⟩ := Option.bind_eq_some_iff.1 read
    obtain ⟨item, read⟩ := Json.exists_of_list? list segment mem
    exact Segment.stored_of_ofJson? read

/-! ## Equality -/

/-- The numbers of the scene have the property. -/
def Every (property : Double → Prop) (scene : Scene) : Prop :=
  (∀ step ∈ scene.steps, step.Every property) ∧
    Holds (fun segments => ∀ segment ∈ segments, segment.Every property) scene.segments

instance {property : Double → Prop} [DecidablePred property] (scene : Scene) :
    Decidable (scene.Every property) :=
  inferInstanceAs (Decidable (_ ∧ _))

theorem toJson_dropZeroSign (scene : Scene) :
    (scene.mapNumbers Binary.dropZeroSign).toJson = scene.toJson := by
  have steps : nonEmpty (scene.steps.map (Step.mapNumbers Binary.dropZeroSign)) =
      (nonEmpty scene.steps).map (List.map (Step.mapNumbers Binary.dropZeroSign)) := by
    cases scene.steps <;> rfl
  simp only [toJson, mapNumbers, steps, Option.map_map, Function.comp_def, List.map_map,
    Step.listToJson_dropZeroSign, Segment.toJson_dropZeroSign]

theorem mapNumbers_nearest (h : scene.Stored) :
    scene.mapNumbers (Json.settle Numeral.nearest) = scene.mapNumbers Binary.dropZeroSign := by
  have segments : scene.segments.map (List.map (Segment.mapNumbers (Json.settle Numeral.nearest))) =
      scene.segments.map (List.map (Segment.mapNumbers Binary.dropZeroSign)) :=
    map_eq_map_iff.2 fun segments held => List.map_congr_left fun segment mem =>
      Segment.mapNumbers_nearest (h.segments segments held segment mem)
  rw [mapNumbers, List.map_congr_left fun step mem => (h.steps step mem).mapNumbers_nearest,
    segments, mapNumbers]

/-- Scenes have the same JSON exactly when they are equal. -/
theorem toJson_eq_iff {other : Scene} (h : scene.Stored) (h' : other.Stored) :
    scene.toJson = other.toJson ↔ scene.Equal other := by
  constructor
  · intro same
    have read := ofJson?_reread Json.accepts_nearest h
    rw [same, ofJson?_reread Json.accepts_nearest h', mapNumbers_nearest h, mapNumbers_nearest h']
      at read
    exact (Option.some.inj read).symm
  · intro equal
    rw [← toJson_dropZeroSign scene, equal, toJson_dropZeroSign]

/-- A scene that is read again equals the scene exactly when its numbers read back. -/
theorem equal_reread_iff (h : scene.Stored) :
    Equal (scene.mapNumbers (Json.settle Numeral.quick)) scene ↔ scene.Every Json.ReadsBack := by
  have segments :
      (scene.segments.map (List.map (Segment.mapNumbers (Json.settle Numeral.quick)))).map
          (List.map (Segment.mapNumbers Binary.dropZeroSign)) =
        scene.segments.map (List.map (Segment.mapNumbers Binary.dropZeroSign)) ↔
      Holds (fun segments => ∀ segment ∈ segments, segment.Every Json.ReadsBack)
        scene.segments := by
    rw [Option.map_map, map_eq_map_iff]
    refine forall₂_congr fun segments held => ?_
    simp only [Function.comp_apply, List.map_map, List.map_inj_left]
    exact forall₂_congr fun segment mem =>
      Segment.equal_reread_iff (h.segments segments held segment mem)
  have steps := Step.forall₂_equal_reread_iff h.steps
  rw [Step.forall₂_equal_iff, Step.reread] at steps
  rw [Every, ← Step.ReadBack, ← steps, ← segments]
  simp [Equal, mapNumbers]

end Scene

/-! ## Normal form -/

/-- Cutting a flat list keeps its steps, but for marks that move on. -/
theorem Step.stored_splitFrom {steps : List Step} (h : ∀ step ∈ steps, step.Stored) (carry : Bool) :
    (∀ step ∈ (splitFrom carry steps).1, step.Stored) ∧
      ∀ part ∈ (splitFrom carry steps).2, ∀ step ∈ part, step.Stored := by
  induction steps generalizing carry with
  | nil => simp [splitFrom]
  | cons first rest ih =>
    obtain ⟨here, there⟩ := List.forall_mem_cons.1 h
    rw [splitFrom]
    split
    · exact ⟨by simp, List.forall_mem_cons.2 (ih there first.keyframe)⟩
    · split
      · obtain ⟨part, more⟩ := ih there false
        exact ⟨List.forall_mem_cons.2 ⟨here.marked, part⟩, more⟩
      · obtain ⟨part, more⟩ := ih there carry
        exact ⟨List.forall_mem_cons.2 ⟨here, part⟩, more⟩

theorem stored_opening : ∀ step ∈ opening, step.Stored := by
  have reveal : (Step.ofOp (.showStructure none none none)).Stored :=
    Step.stored_op (Record.every_empty _) false .showStructure
  have wait : (Step.ofOp (.idle (some openingTicks))).Stored := by
    have finite : Record.Every (·.isFinite) { duration := some (ofTicks openingTicks) } := by
      simp [Record.Every, Record.scalars, Record.vectors, (isPlain_ofTicks _).1]
    simpa [Record.op, Step.ofOp] using Step.stored_op finite false .idle
  simpa [opening] using ⟨reveal, wait⟩

theorem Segment.Stored.opened {segment : Segment} (h : segment.Stored) : segment.opened.Stored := by
  rw [Segment.opened]
  split
  · intro step mem
    rcases List.mem_append.1 mem with mem | mem
    · exact stored_opening step mem
    · exact h step mem
  · exact h

/-- The normal form of a stored scene is stored. -/
theorem Scene.Stored.normal {scene : Scene} (h : scene.Stored) : scene.normal.Stored := by
  refine ⟨h.identifier, by simp [Scene.normal], holds_some.2 fun segment mem => ?_⟩
  obtain ⟨part, inside, rfl⟩ := List.mem_map.1 mem
  refine Segment.Stored.opened ?_
  split at inside
  next first more some => exact h.segments (first :: more) some part inside
  next =>
    obtain ⟨steps, here, rfl⟩ := List.mem_map.1 inside
    obtain ⟨first, more⟩ := Step.stored_splitFrom h.steps false
    rcases List.mem_cons.1 here with rfl | here
    · exact first
    · exact more steps here

/-! ## Documents -/

namespace Document

theorem stored_of_readScene {index : Nat} {value : Json} {scene : Scene}
    (h : readScene index value = .ok scene) : scene.Stored := by
  rw [readScene] at h
  split at h
  next => cases h
  next read =>
    split at h
    next => cases h
    next id valid =>
      obtain rfl := Except.ok.inj h
      exact Scene.stored_of_ofJson? read ⟨id, valid⟩

theorem stored_of_readScenes {values : List Json} {index : Nat} {scenes : List Scene}
    (h : readScenes index values = .ok scenes) : ∀ scene ∈ scenes, scene.Stored := by
  induction values generalizing index scenes with
  | nil =>
    obtain rfl := Except.ok.inj h
    simp
  | cons value values ih =>
    obtain ⟨first, one, h⟩ := bind_eq_ok_iff.1 h
    obtain ⟨rest, more, h⟩ := bind_eq_ok_iff.1 h
    obtain rfl := Except.ok.inj h
    exact List.forall_mem_cons.2 ⟨stored_of_readScene one, ih more⟩

/-- Scenes that are loaded are stored. -/
theorem stored_of_load {s : String} {scenes : List Scene} (h : load s = .ok scenes) :
    ∀ scene ∈ scenes, scene.Stored := by
  rw [load] at h
  split at h
  next => cases h
  next root _ =>
    obtain ⟨values, -, h⟩ := bind_eq_ok_iff.1 h
    exact stored_of_readScenes h

/-- The document of one scene holds this scene with its numbers as they are read, and none under
another name. -/
theorem load_save {scene : Scene} (h : scene.Stored) :
    load (save scene) = .ok [scene.mapNumbers (Json.settle Numeral.quick)] := by
  have parsed : Json.parse? (save scene) = some (scene.toJson.reread Numeral.quick) :=
    Json.parseWith?_compact Json.accepts_quick ((Scene.storable_toJson h).mono (by decide))
  have single : entries (scene.toJson.reread Numeral.quick) =
      .ok [scene.toJson.reread Numeral.quick] := by
    rw [Scene.toJson, Json.reread_ofFields, Json.ofFields, entries, Json.lookup_filterMap]
    · rfl
    · exact (by decide : Scene.fieldNames.Nodup)
  obtain ⟨id, valid⟩ := h.identifier
  have same : (scene.mapNumbers (Json.settle Numeral.quick)).identifier = .ok id := valid
  have read : readScene 0 (scene.toJson.reread Numeral.quick) =
      .ok (scene.mapNumbers (Json.settle Numeral.quick)) := by
    simp only [readScene, Scene.ofJson?_reread Json.accepts_quick h, same]
  simp only [load, parsed, single]
  change readScenes 0 [scene.toJson.reread Numeral.quick] = _
  rw [readScenes, read]
  rfl

theorem save_eq_iff {a b : Scene} (storedA : a.Stored) (storedB : b.Stored) :
    save a = save b ↔ a.Equal b := by
  rw [← Scene.toJson_eq_iff storedA storedB]
  exact ⟨Json.compact_injective ((Scene.storable_toJson storedA).mono (by decide))
    ((Scene.storable_toJson storedB).mono (by decide)), congrArg Json.compact⟩

/-- The document of a loaded scene, and that of its normal form, holds one scene. This scene equals
the one that was saved exactly when every number of the scene reads back from its own text, and is
written the same way again in exactly this case. -/
theorem load_save_of_load {s : String} {scenes : List Scene} (loaded : load s = .ok scenes)
    {scene : Scene} (mem : scene ∈ scenes) :
    ∀ kept ∈ [scene, scene.normal],
      ∃ back, load (save kept) = .ok [back] ∧
        (back.Equal kept ↔ kept.Every Json.ReadsBack) ∧
        (save back = save kept ↔ kept.Every Json.ReadsBack) := by
  have stored := stored_of_load loaded scene mem
  have reload {kept : Scene} (h : kept.Stored) : ∃ back, load (save kept) = .ok [back] ∧
      (back.Equal kept ↔ kept.Every Json.ReadsBack) ∧
      (save back = save kept ↔ kept.Every Json.ReadsBack) := by
    have again := load_save h
    have stored' := stored_of_load again _ (List.mem_singleton.2 rfl)
    exact ⟨_, again, Scene.equal_reread_iff h,
      (save_eq_iff stored' h).trans (Scene.equal_reread_iff h)⟩
  simpa using ⟨reload stored, reload stored.normal⟩

/-- A scene with half a tick to round, a marked boundary, a keyword in capitals, a zero with a sign
and a step of a kind that is not known. -/
def press : Scene where
  id := "demo:press"
  items := ["demo:press"]
  steps :=
    [.blank, .ofOp (.idle (some 3)), ⟨true, .nextScene⟩,
      .ofOp (.text none ⟨none,
        some ⟨.finite false 4503599627370496 (-53) (by decide), .zero .double true, .ofInt (-2)⟩,
        some (.known .red), none⟩),
      .ofOp (.unknown { kind := some " dance", text := some "7" })]

/-- A document that holds the scene. -/
def pressText : String :=
  "\x7b\"id\": \"demo:press\", \"items\": [\"demo:press\", 1], \"steps\": [null, " ++
    "\x7b\"type\": \"idle\", \"duration\": 2.5\x7d, " ++
    "\x7b\"type\": \"next_scene\", \"attachKeyFrame\": true\x7d, " ++
    "\x7b\"type\": \"text\", \"color\": \" RED\", \"point\": [0.5, -0.0, -2]\x7d, " ++
    "\x7b\"type\": \" dance\", \"text\": 7\x7d]\x7d"

theorem load_save_press :
    load pressText = .ok [press] ∧
      ∀ kept ∈ [press, press.normal],
        ∃ back, load (save kept) = .ok [back] ∧ back.Equal kept ∧ save back = save kept := by
  have loaded : load pressText = .ok [press] := by
    decide +kernel
  have reads : ∀ kept ∈ [press, press.normal], kept.Every Json.ReadsBack := by
    decide +kernel
  refine ⟨loaded, fun kept mem => ?_⟩
  obtain ⟨back, again, equal, same⟩ := load_save_of_load loaded (List.mem_singleton.2 rfl) kept mem
  exact ⟨back, again, equal.2 (reads kept mem), same.2 (reads kept mem)⟩

end Document

end Storyboard
