import Storyboard.Proofs.Step.Record
import Storyboard.Step.Storage

/-!
# Steps in storage

A step that was read from storage is written so that reading gives the step again, its numbers as
they are rounded. Tick counts became whole and keywords got their own spelling when the step was
read, and both are fixed points of the second reading.

## Main definitions

* `KeepsTicks`: a change of numbers that leaves tick counts alone.
* `Step.Stored`: the step is got back from its record, whose numbers are finite.

## Main statements

* `Step.stored_ofJson`: steps that are read are stored.
* `Step.toRecord_mapNumbers`: the record of a step has the numbers of the step.
* `Step.ofJson_reread`: stored steps are got back.
* `Step.Stored.marked`: a mark may be added to a stored step.
-/

namespace Storyboard

/-! ## Keywords and tick counts -/

/-- Each word is found under its own spelling. -/
class LawfulVocabulary (α : Type) [Vocabulary α] : Prop where
  find?_spelling (a : α) : Vocabulary.find? (Vocabulary.spelling a) = some a

instance : LawfulVocabulary Direction := ⟨fun a => by cases a <;> decide +kernel⟩

instance : LawfulVocabulary Palette := ⟨fun a => by cases a <;> decide +kernel⟩

instance : LawfulVocabulary SoundSource := ⟨fun a => by cases a <;> decide +kernel⟩

instance : LawfulVocabulary InputAction := ⟨fun a => by cases a <;> decide +kernel⟩

@[simp]
theorem Keyword.read_text_read {α : Type} [Vocabulary α] [LawfulVocabulary α] (s : String) :
    (read (read s : Keyword α).text : Keyword α) = read s := by
  cases found : (Vocabulary.find? s : Option α) with
  | none => simp [read, found, text]
  | some word => simp [read, found, text, LawfulVocabulary.find?_spelling word]

theorem roundHalfAway_intCast (n : Int) : roundHalfAway n = n := by
  have floor (k : Int) : ((k : ℚ) + 1 / 2).floor = k := by
    change ⌊(k : ℚ) + 1 / 2⌋ = k
    rw [Int.floor_intCast_add]
    norm_num
  rw [roundHalfAway]
  split
  · rw [← Int.cast_neg, floor, neg_neg]
  · exact floor n

theorem natAbs_toInt_lt (n : Int32) : n.toInt.natAbs < 2 ^ 53 := by
  have := n.le_toInt
  have := n.toInt_lt
  omega

theorem Binary.toInt32_of_toRat? {f : Format} {x : Binary f} {r : ℚ} (round : ℚ → Int)
    (h : x.toRat? = some r) : x.toInt32 round = saturate32 (round r) := by
  cases x with
  | nan => cases h
  | infinite => cases h
  | finite => simp only [toInt32, h]

@[simp]
theorem ticksOf_ofTicks (n : Int32) : ticksOf (ofTicks n) = n := by
  have lower := n.le_toInt
  have upper := n.toInt_lt
  have inside : max (-2147483648) (min n.toInt 2147483647) = n.toInt := by omega
  rw [ticksOf, ofTicks, Binary.toInt32_of_toRat? _ (Double.toRat?_ofInt (natAbs_toInt_lt n)),
    roundHalfAway_intCast, saturate32, inside, Int32.ofInt_toInt]

theorem isPlain_ofTicks (n : Int32) : (ofTicks n).IsPlain :=
  Double.isPlain_ofInt (natAbs_toInt_lt n)

/-- The function changes no tick count. -/
def KeepsTicks (f : Double → Double) : Prop :=
  ∀ n : Int32, f (ofTicks n) = ofTicks n

theorem keepsTicks_settle (round : Json.Rounding) : KeepsTicks (Json.settle round) :=
  fun n => Json.settle_ofInt (natAbs_toInt_lt n)

theorem keepsTicks_dropZeroSign : KeepsTicks Binary.dropZeroSign :=
  fun n => (isPlain_ofTicks n).2

/-! ## Instructions -/

namespace Kind

theorem ofName?_name (kind : Kind) : ofName? kind.name = some kind := by
  cases kind <;> decide +kernel

theorem trim_name (kind : Kind) : trim kind.name = kind.name := by
  cases kind <;> decide +kernel

theorem name_ne_empty (kind : Kind) : kind.name ≠ "" := by
  cases kind <;> decide

theorem ofName?_eq_none_iff {name : String} :
    ofName? name = none ↔ ∀ kind : Kind, name ≠ kind.name := by
  constructor
  · rintro none kind rfl
    cases kind.ofName?_name.symm.trans none
  · intro unknown
    refine List.find?_eq_none.2 fun kind _ => ?_
    simpa using (unknown kind).symm

end Kind

namespace Op

variable {f : Double → Double}

theorem mapNumbers_id (op : Op) : op.mapNumbers id = op := by
  have points : Vec3.map id = id := rfl
  cases op <;>
    simp [mapNumbers, Caption.mapNumbers, Placement.mapNumbers, Area.mapNumbers, Record.mapNumbers,
      points]

theorem kind?_mapNumbers (op : Op) : (op.mapNumbers f).kind? = op.kind? := by
  cases op <;> rfl

theorem fields_mapNumbers (ticks : KeepsTicks f) (op : Op) :
    (op.mapNumbers f).fields = op.fields.mapNumbers f := by
  have counts (o : Option Int32) : (o.map ofTicks).map f = o.map ofTicks := by
    rw [Option.map_map]
    exact congrArg (o.map ·) (funext ticks)
  cases op <;>
    simp only [Op.mapNumbers, Op.fields, Record.mapNumbers, captionRecord, placementRecord,
      Caption.mapNumbers, Placement.mapNumbers, Area.mapNumbers, Option.map_none, counts]

end Op

namespace Record

variable {r : Record}

theorem kind?_op (r : Record) (kind : Kind) : (r.op kind).kind? = some kind := by
  cases kind <;> rfl

theorem op_mark (r : Record) (mark : Bool) (kind : Kind) :
    op { r with attachKeyFrame := mark } kind = r.op kind := by
  cases kind <;> rfl

/-- The fields of an instruction make up the instruction again, whatever its numbers are. -/
theorem op_fields (f : Double → Double) (r : Record) (kind : Kind) (name : Option String)
    (mark : Bool) :
    op { ((r.op kind).mapNumbers f).fields with kind := name, attachKeyFrame := mark } kind =
      (r.op kind).mapNumbers f := by
  cases kind <;>
    simp [op, Op.fields, Op.mapNumbers, Caption.mapNumbers, Placement.mapNumbers, Area.mapNumbers,
      caption, placement, area, Op.captionRecord, Op.placementRecord, Option.map_map,
      Function.comp_def]

/-- The numbers of an instruction are those of its record, or whole. -/
theorem every_fields {property : Double → Prop} (whole : ∀ n, property (ofTicks n))
    (every : r.Every property) (kind : Kind) : (r.op kind).fields.Every property := by
  have ticks (o : Option Double) : Holds property (o.map (ofTicks ∘ ticksOf)) := by
    cases o <;> simp [whole]
  simp only [Every, scalars, vectors, List.forall_mem_cons] at every
  cases kind <;>
    simp [Every, scalars, vectors, op, Op.fields, caption, placement, area, Op.captionRecord,
      Op.placementRecord, ticks, every]

end Record

namespace Step

/-- The step is got back from its record, which does not depend on its numbers; and these are
finite. -/
structure Stored (step : Step) : Prop where
  back (f : Double → Double) : ofRecord (step.mapNumbers f).toRecord = step.mapNumbers f
  finite : step.toRecord.Every (·.isFinite)

/-- The record of a step has the numbers of the step, and tick counts. -/
theorem toRecord_mapNumbers {f : Double → Double} (ticks : KeepsTicks f) (step : Step) :
    (step.mapNumbers f).toRecord = step.toRecord.mapNumbers f := by
  simp only [toRecord, mapNumbers, Op.kind?_mapNumbers, Op.fields_mapNumbers ticks]
  split <;> rfl

theorem ofRecord_mark (r : Record) (mark : Bool) :
    ofRecord { r with attachKeyFrame := mark } = { ofRecord r with keyframe := mark } := by
  simp only [ofRecord, Record.op_mark]

theorem toRecord_mark (step : Step) (mark : Bool) :
    toRecord { step with keyframe := mark } = { step.toRecord with attachKeyFrame := mark } := by
  simp only [toRecord]
  split <;> rfl

/-- The mark of a stored step may be set. -/
theorem Stored.marked {step : Step} (h : step.Stored) : Stored { step with keyframe := true } where
  back f := by
    change ofRecord (toRecord { step.mapNumbers f with keyframe := true }) = _
    rw [toRecord_mark, ofRecord_mark, h.back]
    rfl
  finite := by
    rw [toRecord_mark]
    exact h.finite

theorem toRecord_of_kind? {op : Op} {kind : Kind} (known : op.kind? = some kind) (mark : Bool) :
    toRecord ⟨mark, op⟩ = { op.fields with kind := some kind.name, attachKeyFrame := mark } := by
  simp only [toRecord, known]

theorem ofRecord_toRecord_op (f : Double → Double) (r : Record) (mark : Bool) (kind : Kind) :
    ofRecord (toRecord ⟨mark, (r.op kind).mapNumbers f⟩) = ⟨mark, (r.op kind).mapNumbers f⟩ := by
  have known : ((r.op kind).mapNumbers f).kind? = some kind := by
    rw [Op.kind?_mapNumbers, r.kind?_op]
  simp only [toRecord_of_kind? known, ofRecord, Option.getD_some, kind.trim_name,
    kind.name_ne_empty, if_false, kind.ofName?_name, r.op_fields]

/-- An instruction of a known kind with finite numbers is stored. -/
theorem stored_op {r : Record} (finite : r.Every (·.isFinite)) (mark : Bool) (kind : Kind) :
    Stored ⟨mark, r.op kind⟩ := by
  refine ⟨fun f => ofRecord_toRecord_op f r mark kind, ?_⟩
  rw [toRecord_of_kind? (r.kind?_op kind)]
  exact Record.every_fields (fun n => (isPlain_ofTicks n).1) finite kind

section OfRecord

variable {r : Record} {kind : Kind}

theorem ofRecord_of_blank (blank : trim (r.kind.getD "") = "") :
    ofRecord r = ⟨r.attachKeyFrame, .blank⟩ := by
  simp only [ofRecord, blank, if_true]

theorem ofRecord_of_known (known : trim (r.kind.getD "") = kind.name) :
    ofRecord r = ⟨r.attachKeyFrame, r.op kind⟩ := by
  simp only [ofRecord, known, kind.name_ne_empty, if_false, kind.ofName?_name]

theorem ofRecord_of_unknown (named : trim (r.kind.getD "") ≠ "")
    (unknown : ∀ kind : Kind, trim (r.kind.getD "") ≠ kind.name) :
    ofRecord r = ⟨r.attachKeyFrame, .unknown { r with attachKeyFrame := false }⟩ := by
  simp only [ofRecord, if_neg named, Kind.ofName?_eq_none_iff.2 unknown]

/-- Writing the step of a record loses nothing that reading looks at. -/
theorem ofRecord_toRecord_mapNumbers (f : Double → Double) (r : Record) :
    ofRecord ((ofRecord r).mapNumbers f).toRecord = (ofRecord r).mapNumbers f := by
  by_cases blank : trim (r.kind.getD "") = ""
  · rw [ofRecord_of_blank blank]
    rfl
  by_cases known : ∃ kind : Kind, trim (r.kind.getD "") = kind.name
  · obtain ⟨kind, known⟩ := known
    rw [ofRecord_of_known known]
    exact ofRecord_toRecord_op f r r.attachKeyFrame kind
  · rw [not_exists] at known
    rw [ofRecord_of_unknown blank known]
    -- The record is kept whole, so that its kind is as little known as before.
    exact @ofRecord_of_unknown (r.mapNumbers f) blank known

theorem ofRecord_toRecord_ofRecord (r : Record) : ofRecord (ofRecord r).toRecord = ofRecord r := by
  have same : (ofRecord r).mapNumbers id = ofRecord r := by rw [mapNumbers, Op.mapNumbers_id]
  rw [← same, ofRecord_toRecord_mapNumbers]

end OfRecord

theorem stored_ofRecord {r : Record} (finite : r.Every (·.isFinite)) : (ofRecord r).Stored := by
  refine ⟨fun f => ofRecord_toRecord_mapNumbers f r, ?_⟩
  by_cases blank : trim (r.kind.getD "") = ""
  · rw [ofRecord_of_blank blank]
    exact Record.every_empty _
  by_cases known : ∃ kind : Kind, trim (r.kind.getD "") = kind.name
  · obtain ⟨kind, known⟩ := known
    rw [ofRecord_of_known known]
    exact (stored_op finite r.attachKeyFrame kind).finite
  · rw [ofRecord_of_unknown blank (not_exists.1 known)]
    exact finite

theorem stored_blank : blank.Stored :=
  ⟨fun _ => rfl, Record.every_empty _⟩

/-- Every step that is read is stored. -/
theorem stored_ofJson (value : Json) : (ofJson value).Stored := by
  cases value with
  | object members => exact stored_ofRecord (Record.every_ofFields fun name => members.lookup name)
  | _ => exact stored_blank

variable {round : Json.Rounding}

theorem ofJson_reread (accepts : round.Accepts) {step : Step} (h : step.Stored) :
    ofJson (step.toJson.reread round) = step.mapNumbers (Json.settle round) := by
  rw [toJson]
  split
  next unmarked =>
    obtain ⟨mark, op⟩ := step
    have blank : op = .blank := by
      have := unmarked.1
      simp only [isBlank] at this
      split at this
      · rfl
      · cases this
    have mark : mark = false := by simpa using unmarked.2
    rw [blank, mark, Json.reread]
    rfl
  next =>
    have object : ofJson (step.toRecord.toJson.reread round) =
        ofRecord ((Record.ofJson? (step.toRecord.toJson.reread round)).getD {}) := by
      rw [Record.toJson, Json.reread_ofFields]
      rfl
    rw [object, Record.ofJson?_reread accepts h.finite, Option.getD_some,
      ← toRecord_mapNumbers (keepsTicks_settle round), h.back]

theorem storable_toJson {step : Step} (h : step.Stored) : step.toJson.Storable 2 := by
  rw [toJson]
  split
  · exact .null
  · exact Record.storable_toJson h.finite

/-! ## Lists -/

theorem stored_of_listOfJson? {value : Json} {steps : List Step}
    (h : listOfJson? value = some steps) :
    ∀ step ∈ steps, step.Stored := by
  intro step mem
  obtain ⟨v, read⟩ := Json.exists_of_list? h step mem
  exact Option.some.inj read ▸ stored_ofJson v

theorem listOfJson?_reread (accepts : round.Accepts) {steps : List Step}
    (h : ∀ step ∈ steps, step.Stored) :
    listOfJson? ((listToJson steps).reread round) =
      some (steps.map (mapNumbers (Json.settle round))) :=
  Json.list?_reread fun step mem => congrArg some (ofJson_reread accepts (h step mem))

theorem storable_listToJson {steps : List Step} (h : ∀ step ∈ steps, step.Stored) :
    (listToJson steps).Storable 3 :=
  Json.storable_map fun step mem => storable_toJson (h step mem)

end Step

end Storyboard
