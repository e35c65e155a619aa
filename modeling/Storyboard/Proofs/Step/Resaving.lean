import Storyboard.Proofs.Step.Storage

/-!
# Records that are saved again

Reading a record as a step and writing the step gives a record of the same kind. It has the fields
that belong to the kind, each in its own place, and no others. Counts became whole on the way and
known words got their own spelling; everything else is as it was.

## Main definitions

* `Record.Field`, `Record.get`: the fields of a record, and what they hold.
* `Kind.fields`: the fields that belong to a kind.
* `Record.Saved`: what a field holds when it is saved again.

## Main statements

* `Record.fields_eq_map_get`: each field is stored under its own name.
* `Record.fields_op`: writing an instruction leaves the fields of its kind.
* `Record.saved_settled`: what happens to a field, whatever the kind.
* `Record.resaved_fields`: all of this for every record.
-/

namespace Storyboard

namespace Record

/-! ## Fields -/

/-- The fields of a record, apart from its kind and its mark. -/
inductive Field where
  | duration | text | key | point | color | placeNearTarget | degrees | direction | action | item
  | sound | volume | pitch | source | block | properties | pos | pos2 | spawnParticles | linkId
  | rotX | rotY | rotZ | offset | nbt | redraw | entity | yaw | lookAt | motion | count | fullScene
  | template | height | scale
deriving DecidableEq

/-- The fields in the order of writing. -/
def Field.all : List Field :=
  [.duration, .text, .key, .point, .color, .placeNearTarget, .degrees, .direction, .action, .item,
   .sound, .volume, .pitch, .source, .block, .properties, .pos, .pos2, .spawnParticles, .linkId,
   .rotX, .rotY, .rotZ, .offset, .nbt, .redraw, .entity, .yaw, .lookAt, .motion, .count, .fullScene,
   .template, .height, .scale]

/-- The name of a field in storage. -/
def Field.name : Field → String
  | .duration => "duration"
  | .text => "text"
  | .key => "key"
  | .point => "point"
  | .color => "color"
  | .placeNearTarget => "placeNearTarget"
  | .degrees => "degrees"
  | .direction => "direction"
  | .action => "action"
  | .item => "item"
  | .sound => "sound"
  | .volume => "volume"
  | .pitch => "pitch"
  | .source => "source"
  | .block => "block"
  | .properties => "properties"
  | .pos => "pos"
  | .pos2 => "pos2"
  | .spawnParticles => "spawnParticles"
  | .linkId => "linkId"
  | .rotX => "rotX"
  | .rotY => "rotY"
  | .rotZ => "rotZ"
  | .offset => "offset"
  | .nbt => "nbt"
  | .redraw => "redraw"
  | .entity => "entity"
  | .yaw => "yaw"
  | .lookAt => "lookAt"
  | .motion => "motion"
  | .count => "count"
  | .fullScene => "fullScene"
  | .template => "structure"
  | .height => "height"
  | .scale => "scale"

/-- What a field may hold. -/
inductive Value where
  | text (s : String)
  | flag (b : Bool)
  | number (x : Double)
  | point (v : Vec3)
  | dictionary (d : Dictionary)

namespace Value

def toJson : Value → Json
  | .text s => .string s
  | .flag b => .bool b
  | .number x => .ofNumber x
  | .point v => .ofVec3 v
  | .dictionary d => .ofDictionary d

/-- The numbers of the value are finite. -/
def IsFinite : Value → Prop
  | .number x => x.isFinite
  | .point v => v.x.isFinite ∧ v.y.isFinite ∧ v.z.isFinite
  | _ => True

end Value

/-- What a field of the record holds. -/
def get (r : Record) : Field → Option Value
  | .duration => r.duration.map .number
  | .text => r.text.map .text
  | .key => r.key.map .text
  | .point => r.point.map .point
  | .color => r.color.map .text
  | .placeNearTarget => r.placeNearTarget.map .flag
  | .degrees => r.degrees.map .number
  | .direction => r.direction.map .text
  | .action => r.action.map .text
  | .item => r.item.map .text
  | .sound => r.sound.map .text
  | .volume => r.volume.map .number
  | .pitch => r.pitch.map .number
  | .source => r.source.map .text
  | .block => r.block.map .text
  | .properties => r.properties.map .dictionary
  | .pos => r.pos.map .point
  | .pos2 => r.pos2.map .point
  | .spawnParticles => r.spawnParticles.map .flag
  | .linkId => r.linkId.map .text
  | .rotX => r.rotX.map .number
  | .rotY => r.rotY.map .number
  | .rotZ => r.rotZ.map .number
  | .offset => r.offset.map .point
  | .nbt => r.nbt.map .text
  | .redraw => r.redraw.map .flag
  | .entity => r.entity.map .text
  | .yaw => r.yaw.map .number
  | .lookAt => r.lookAt.map .point
  | .motion => r.motion.map .point
  | .count => r.count.map .number
  | .fullScene => r.fullScene.map .flag
  | .template => r.template.map .text
  | .height => r.height.map .number
  | .scale => r.scale.map .number

/-- Each field is stored under its own name. -/
theorem fields_eq_map_get (r : Record) :
    r.fields = ("type", r.kind.map .string) ::
      ("attachKeyFrame", if r.attachKeyFrame then some (.bool true) else none) ::
        Field.all.map fun field => (field.name, (r.get field).map Value.toJson) := by
  simp [fields, Field.all, Field.name, get, Option.map_map, Function.comp_def, Value.toJson]

/-- What is written under the name of a field is what the field holds. -/
theorem lookup_fields (r : Record) (field : Field) :
    r.fields.lookup field.name = some ((r.get field).map Value.toJson) := by
  have others {α : Type} (value : Field → α) :
      (Field.all.map fun field => (field.name, value field)).lookup field.name =
        some (value field) := by
    cases field <;> rfl
  have kind : (field.name == "type") = false := by cases field <;> rfl
  have mark : (field.name == "attachKeyFrame") = false := by cases field <;> rfl
  rw [fields_eq_map_get, List.lookup_cons, kind, List.lookup_cons, mark]
  exact others _

/-- The numbers of the record are finite. -/
def IsFinite (r : Record) : Prop :=
  ∀ field value, r.get field = some value → value.IsFinite

end Record

/-- The fields that belong to a kind. -/
def Kind.fields : Kind → List Record.Field
  | .showStructure => [.template, .height, .scale]
  | .idle => [.duration]
  | .text => [.duration, .text, .point, .color, .placeNearTarget]
  | .sharedText => [.duration, .key, .point, .color, .placeNearTarget]
  | .rotateCamera => [.degrees]
  | .showControls => [.duration, .point, .direction, .action, .item]
  | .playSound => [.sound, .volume, .pitch, .source]
  | .setBlock => [.block, .properties, .pos, .pos2, .spawnParticles]
  | .destroyBlock => [.pos, .spawnParticles]
  | .replaceBlocks => [.block, .properties, .pos, .pos2, .spawnParticles]
  | .showSection => [.pos, .pos2, .direction]
  | .hideSection => [.pos, .pos2, .direction]
  | .showIndependentSection => [.pos, .pos2, .direction, .linkId]
  | .mergeSection => [.pos, .pos2, .direction, .linkId]
  | .hideIndependentSection => [.linkId, .direction]
  | .rotateSection => [.linkId, .rotX, .rotY, .rotZ, .duration]
  | .moveSection => [.linkId, .offset, .duration]
  | .modifyBlockEntity => [.pos, .pos2, .nbt, .redraw]
  | .createEntity => [.entity, .pos, .yaw, .pitch, .lookAt]
  | .createItemEntity => [.item, .pos, .motion, .count]
  | .clearEntities => [.entity, .pos, .pos2, .fullScene]
  | .clearItemEntities => [.item, .pos, .pos2, .fullScene]
  | .showOutline => [.color, .pos, .pos2, .duration]
  | .toggleRedstonePower => [.pos, .pos2]
  | .indicateRedstone => [.pos]
  | .indicateSuccess => [.pos]
  | .keyframe => []
  | .nextScene => []

/-! ## What becomes of a value -/

/-- The whole number is nearest to the number; of two, it is the one farther from zero. -/
structure RoundsAway (r : ℚ) (n : ℤ) : Prop where
  near : |r - n| ≤ 1 / 2
  tie : |r - n| = 1 / 2 → |r| < |(n : ℚ)|

theorem RoundsAway.neg {r : ℚ} {n : ℤ} (h : RoundsAway r n) : RoundsAway (-r) (-n) := by
  have distance : |-r - ((-n : ℤ) : ℚ)| = |r - n| := by
    rw [Int.cast_neg, neg_sub_neg, abs_sub_comm]
  refine ⟨distance ▸ h.near, fun tie => ?_⟩
  rw [Int.cast_neg, abs_neg, abs_neg]
  exact h.tie (distance ▸ tie)

theorem roundsAway_floor {r : ℚ} (nonneg : 0 ≤ r) : RoundsAway r ⌊r + 1 / 2⌋ := by
  have below := Int.floor_le (r + 1 / 2)
  have above := Int.lt_floor_add_one (r + 1 / 2)
  refine ⟨abs_le.2 ⟨by linarith, by linarith⟩, fun tie => ?_⟩
  -- The distance is less than a half above the number.
  rcases abs_cases (r - ⌊r + 1 / 2⌋) with ⟨size, -⟩ | ⟨size, -⟩
  · linarith
  · rw [abs_of_nonneg nonneg]
    exact lt_of_lt_of_le (by linarith) (le_abs_self _)

theorem roundsAway_roundHalfAway (r : ℚ) : RoundsAway r (roundHalfAway r) := by
  unfold roundHalfAway
  split
  next neg =>
    have mirrored := (roundsAway_floor (neg_nonneg.2 neg.le)).neg
    rwa [neg_neg] at mirrored
  next nonneg => exact roundsAway_floor (not_lt.1 nonneg)

/-- The whole number that is nearest to the number, held inside the 32-bit integers. -/
inductive MadeWhole : Double → Double → Prop
  | mk {x y : Double} {r : ℚ} {n : ℤ} (value : x.toRat? = some r) (rounds : RoundsAway r n)
      (plain : y.IsPlain) (held : y.toRat? = some ((max (-2 ^ 31) (min n (2 ^ 31 - 1)) : ℤ) : ℚ)) :
    MadeWhole x y

theorem madeWhole_ofTicks {x : Double} (finite : x.isFinite) :
    MadeWhole x (ofTicks (ticksOf x)) := by
  obtain ⟨r, value⟩ : ∃ r, x.toRat? = some r := by
    cases x with
    | finite negative m q canonical => exact ⟨_, rfl⟩
    | _ => cases finite
  have held : (ticksOf x).toInt = max (-2 ^ 31) (min (roundHalfAway r) (2 ^ 31 - 1)) := by
    rw [ticksOf, Binary.toInt32_of_toRat? _ value, saturate32]
    exact Int32.toInt_ofInt_of_le (by omega) (by omega)
  refine .mk value (roundsAway_roundHalfAway r) (isPlain_ofTicks _) ?_
  rw [ofTicks, Double.toRat?_ofInt (natAbs_toInt_lt _), held]

/-- The text names the word: blanks at its ends and the case of its letters do not count. -/
def Names {α : Type} [Vocabulary α] (s : String) (word : α) : Prop :=
  (Vocabulary.spelling word).toList = (trimChars s.toList).map Char.toLower

instance {α : Type} [Vocabulary α] (s : String) (word : α) : Decidable (Names s word) :=
  inferInstanceAs (Decidable (_ = _))

/-- A text that names a word becomes the spelling of the word, and any other text stays. -/
inductive Respelt (α : Type) [Vocabulary α] : String → String → Prop
  | known {s : String} (word : α) (names : Names s word) :
    Respelt α s (Vocabulary.spelling word)
  | raw {s : String} (none : ∀ word : α, ¬ Names s word) : Respelt α s s

theorem respelt_text_read {α : Type} [Vocabulary α] [LawfulVocabulary α] (s : String) :
    Respelt α s (Keyword.read s : Keyword α).text := by
  cases found : (Vocabulary.find? s : Option α) with
  | some word =>
    have names : Names s word := by simpa [Names] using List.find?_some found
    simpa [Keyword.read, found, Keyword.text] using Respelt.known word names
  | none =>
    have raw : ∀ word : α, ¬ Names s word := by
      intro word
      have mem := List.mem_of_find?_eq_some (LawfulVocabulary.find?_spelling word)
      simpa [Names] using List.find?_eq_none.1 found word mem
    simpa [Keyword.read, found, Keyword.text] using Respelt.raw raw

namespace Record

/-- What is saved for the value of a field. -/
inductive Saved : Field → Value → Value → Prop
  | duration {x y : Double} (whole : MadeWhole x y) : Saved .duration (.number x) (.number y)
  | height {x y : Double} (whole : MadeWhole x y) : Saved .height (.number x) (.number y)
  | count {x y : Double} (whole : MadeWhole x y) : Saved .count (.number x) (.number y)
  | color {s t : String} (respelt : Respelt Palette s t) : Saved .color (.text s) (.text t)
  | direction {s t : String} (respelt : Respelt Direction s t) :
    Saved .direction (.text s) (.text t)
  | action {s t : String} (respelt : Respelt InputAction s t) : Saved .action (.text s) (.text t)
  | source {s t : String} (respelt : Respelt SoundSource s t) : Saved .source (.text s) (.text t)
  /-- The other fields stay as they are. -/
  | same {field : Field} (value : Value)
      (other : field ∉ [.duration, .height, .count, .color, .direction, .action, .source]) :
    Saved field value value

/-- The record with every field as a step saves it, whatever the kind. -/
def settled (r : Record) : Record :=
  { r with
    duration := r.duration.map (ofTicks ∘ ticksOf)
    height := r.height.map (ofTicks ∘ ticksOf)
    count := r.count.map (ofTicks ∘ ticksOf)
    color := r.color.map fun s => (.read s : Keyword Palette).text
    direction := r.direction.map fun s => (.read s : Keyword Direction).text
    action := r.action.map fun s => (.read s : Keyword InputAction).text
    source := r.source.map fun s => (.read s : Keyword SoundSource).text }

section Rel

variable {α : Type} {field : Field} {make : α → Value}

/-- A field is saved as its values are. -/
theorem rel_map {f : α → α} (o : Option α)
    (saved : ∀ a ∈ o, Saved field (make a) (make (f a))) :
    Option.Rel (Saved field) (o.map make) ((o.map f).map make) := by
  cases o with
  | none => exact .none
  | some a => exact .some (saved a rfl)

theorem rel_same
    (other : field ∉ [.duration, .height, .count, .color, .direction, .action, .source])
    (o : Option Value) : Option.Rel (Saved field) o o := by
  cases o with
  | none => exact .none
  | some value => exact .some (.same value other)

end Rel

/-- What happens to a field does not depend on the kind of the record. -/
theorem saved_settled {r : Record} (finite : r.IsFinite) (field : Field) :
    Option.Rel (Saved field) (r.get field) (r.settled.get field) := by
  have whole {o : Option Double} (held : r.get field = o.map .number) (x : Double) (mem : x ∈ o) :
      MadeWhole x (ofTicks (ticksOf x)) :=
    madeWhole_ofTicks (finite field (.number x) (held.trans (congrArg _ mem)))
  cases field with
  | duration => exact rel_map _ fun x mem => .duration (whole rfl x mem)
  | height => exact rel_map _ fun x mem => .height (whole rfl x mem)
  | count => exact rel_map _ fun x mem => .count (whole rfl x mem)
  | color => exact rel_map _ fun s _ => .color (respelt_text_read s)
  | direction => exact rel_map _ fun s _ => .direction (respelt_text_read s)
  | action => exact rel_map _ fun s _ => .action (respelt_text_read s)
  | source => exact rel_map _ fun s _ => .source (respelt_text_read s)
  | _ => exact rel_same (by decide) _

/-! ## Fields of a kind -/

/-- The value of a field that is among those to keep. -/
def keep {α : Type} (fields : List Field) (field : Field) (value : Option α) : Option α :=
  if field ∈ fields then value else none

/-- The record with the given fields only. -/
def only (fields : List Field) (r : Record) : Record where
  duration := keep fields .duration r.duration
  text := keep fields .text r.text
  key := keep fields .key r.key
  point := keep fields .point r.point
  color := keep fields .color r.color
  placeNearTarget := keep fields .placeNearTarget r.placeNearTarget
  degrees := keep fields .degrees r.degrees
  direction := keep fields .direction r.direction
  action := keep fields .action r.action
  item := keep fields .item r.item
  sound := keep fields .sound r.sound
  volume := keep fields .volume r.volume
  pitch := keep fields .pitch r.pitch
  source := keep fields .source r.source
  block := keep fields .block r.block
  properties := keep fields .properties r.properties
  pos := keep fields .pos r.pos
  pos2 := keep fields .pos2 r.pos2
  spawnParticles := keep fields .spawnParticles r.spawnParticles
  linkId := keep fields .linkId r.linkId
  rotX := keep fields .rotX r.rotX
  rotY := keep fields .rotY r.rotY
  rotZ := keep fields .rotZ r.rotZ
  offset := keep fields .offset r.offset
  nbt := keep fields .nbt r.nbt
  redraw := keep fields .redraw r.redraw
  entity := keep fields .entity r.entity
  yaw := keep fields .yaw r.yaw
  lookAt := keep fields .lookAt r.lookAt
  motion := keep fields .motion r.motion
  count := keep fields .count r.count
  fullScene := keep fields .fullScene r.fullScene
  template := keep fields .template r.template
  height := keep fields .height r.height
  scale := keep fields .scale r.scale

/-- Writing an instruction leaves the fields of its kind, each in its place. -/
theorem fields_op (r : Record) (kind : Kind) :
    (r.op kind).fields = r.settled.only kind.fields := by
  cases kind <;>
    simp [op, Op.fields, caption, placement, area, Op.captionRecord, Op.placementRecord, only, keep,
      Kind.fields, settled, Option.map_map, Function.comp_def]

theorem get_only (fields : List Field) (r : Record) (field : Field) :
    (r.only fields).get field = if field ∈ fields then r.get field else none := by
  cases field <;> exact apply_ite (Option.map _) _ _ _

theorem get_kind (r : Record) (kind : Option String) (mark : Bool) (field : Field) :
    get { r with kind, attachKeyFrame := mark } field = r.get field := by
  cases field <;> rfl

/-- The record of the step that a record stores. -/
def resaved (r : Record) : Record :=
  (Step.ofRecord r).toRecord

section Resaved

variable {r : Record}

theorem resaved_of_blank (blank : trim (r.kind.getD "") = "") :
    r.resaved = { attachKeyFrame := r.attachKeyFrame } := by
  rw [resaved, Step.ofRecord_of_blank blank]
  rfl

theorem resaved_of_known {kind : Kind} (known : trim (r.kind.getD "") = kind.name) :
    r.resaved.kind = some kind.name ∧ r.resaved.attachKeyFrame = r.attachKeyFrame ∧
      ∀ field, r.resaved.get field =
        if field ∈ kind.fields then r.settled.get field else none := by
  rw [resaved, Step.ofRecord_of_known known, Step.toRecord_of_kind? (r.kind?_op kind)]
  refine ⟨rfl, rfl, fun field => ?_⟩
  exact (get_kind _ _ _ field).trans (by rw [fields_op, get_only])

theorem resaved_of_unknown (named : trim (r.kind.getD "") ≠ "")
    (unknown : ∀ kind : Kind, trim (r.kind.getD "") ≠ kind.name) : r.resaved = r := by
  rw [resaved, Step.ofRecord_of_unknown named unknown]
  rfl

theorem resaved_resaved (r : Record) : r.resaved.resaved = r.resaved :=
  congrArg Step.toRecord (Step.ofRecord_toRecord_ofRecord r)

end Resaved

/-- A record of a known kind is saved under this kind with its mark. The fields that belong to the
kind hold what they held: the nearest whole number inside the 32-bit integers for a duration, a
height and a count, the spelling of its word for a color, a direction, an action and a source that
names one, and otherwise the same. All other fields are absent. A record of an unknown kind is saved
as it is, and one without a kind keeps its mark only. What a field holds is written under its own
name, and saving once more changes nothing. -/
theorem resaved_fields {r : Record} (finite : r.IsFinite) :
    (∀ kind : Kind, trim (r.kind.getD "") = kind.name →
      r.resaved.kind = some kind.name ∧ r.resaved.attachKeyFrame = r.attachKeyFrame ∧
        (∀ field ∈ kind.fields,
          Option.Rel (Saved field) (r.get field) (r.resaved.get field)) ∧
        ∀ field ∉ kind.fields, r.resaved.get field = none) ∧
    (trim (r.kind.getD "") ≠ "" → (∀ kind : Kind, trim (r.kind.getD "") ≠ kind.name) →
      r.resaved = r) ∧
    (trim (r.kind.getD "") = "" → r.resaved = { attachKeyFrame := r.attachKeyFrame }) ∧
    (∀ field,
      r.resaved.fields.lookup field.name = some ((r.resaved.get field).map Value.toJson)) ∧
    r.resaved.resaved = r.resaved := by
  refine ⟨fun kind known => ?_, resaved_of_unknown, resaved_of_blank, lookup_fields _,
    r.resaved_resaved⟩
  obtain ⟨name, mark, held⟩ := resaved_of_known known
  refine ⟨name, mark, fun field own => ?_, fun field other => ?_⟩
  · rw [held, if_pos own]
    exact saved_settled finite field
  · rw [held, if_neg other]

/-- An outline with blanks around its kind and its color, a duration of two ticks and a half, and an
item that outlines do not have. -/
def outlined : Record where
  kind := some " show_outline "
  attachKeyFrame := true
  duration := some (.finite false 5629499534213120 (-51) (by decide))
  color := some " RED "
  item := some "demo:lid"

theorem resaved_fields_outlined :
    outlined.IsFinite ∧ outlined.resaved.kind = some "show_outline" ∧
      outlined.resaved.attachKeyFrame = true ∧ outlined.resaved.get .item = none ∧
      outlined.resaved.get .color = some (.text "red") ∧
      ∃ y, outlined.resaved.get .duration = some (.number y) ∧ y.toRat? = some 3 := by
  have finite : outlined.IsFinite := by
    intro field value held
    cases field <;> cases held <;> trivial
  obtain ⟨known, -⟩ := resaved_fields finite
  obtain ⟨kind, mark, own, other⟩ := known .showOutline (by decide +kernel)
  refine ⟨finite, kind, mark, other .item (by decide), ?_, ?_⟩
  · have held := own .color (by decide)
    generalize outlined.resaved.get .color = saved at held ⊢
    cases held with
    | some held => cases held with
      | color respelt => cases respelt with
        | known word names => cases word with
          | red => rfl
          | _ => exact absurd names (by decide)
        | raw none => exact absurd (by decide) (none .red)
      | same _ other => exact absurd (by decide) other
  · have held := own .duration (by decide)
    generalize outlined.resaved.get .duration = saved at held ⊢
    cases held with
    | some held => cases held with
      | duration whole =>
        obtain @⟨r, n, value, rounds, -, held⟩ := whole
        obtain rfl : r = 5 / 2 := by
          rw [← Option.some.inj value]
          norm_num
        obtain rfl : n = 3 := by
          obtain ⟨low, high⟩ := abs_le.1 rounds.near
          have least : (2 : ℚ) ≤ n := by linarith
          have greatest : (n : ℚ) ≤ 3 := by linarith
          obtain rfl | rfl : n = 2 ∨ n = 3 := by norm_cast at least greatest; omega
          · exact absurd (rounds.tie (by norm_num)) (by norm_num)
          · rfl
        exact ⟨_, rfl, held.trans (by norm_num)⟩
      | same _ other => exact absurd (by decide) other

end Record

end Storyboard
