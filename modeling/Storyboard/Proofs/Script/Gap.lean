import Storyboard.Proofs.Scene.Reference
import Storyboard.Proofs.Tag.Report
import Storyboard.Script.Line

/-!
# Texts of gaps

A gap says which field of a step is missing or wrong, and may quote the field. A comment holds it
exactly if it holds the texts that are quoted. The text of a data patch is never among them.

## Main definitions

* `Op.quotable`: the texts of a step that may be quoted.
* `Script.Gap.quotes`: the texts that a gap does quote.
* `Script.Exact`: a message that a comment holds if it holds what is quoted in it.
* `Script.Tells`: a check whose gaps quote these texts and no others.

## Main statements

* `Script.tells_lower`: the gaps of a step.
-/

namespace Storyboard

/-! ## Quoted texts -/

/-- The spelling of a keyword field that names no word. -/
def Keyword.raw? {α : Type} : Option (Keyword α) → Option String
  | some (.raw spelling) => some spelling
  | _ => none

namespace Op

open Keyword (raw?)

/-- The texts of a step that its comment may quote as they are. -/
def quotable : Op → List String
  | .text _ caption | .sharedText _ caption => (raw? caption.color).toList
  | .showControls _ _ direction action item =>
    (raw? direction).toList ++ (raw? action).toList ++ item.toList
  | .playSound sound _ _ source => sound.toList ++ (raw? source).toList
  | .setBlock placement | .replaceBlocks placement => placement.block.toList
  | .showSection _ direction | .hideSection _ direction => (raw? direction).toList
  | .showIndependentSection _ direction _ | .mergeSection _ direction _ => (raw? direction).toList
  | .hideIndependentSection link direction => link.toList ++ (raw? direction).toList
  | .rotateSection link _ _ _ _ | .moveSection link _ _ => link.toList
  | .createEntity entity _ _ _ _ | .clearEntities entity _ _ => entity.toList
  | .createItemEntity item _ _ _ | .clearItemEntities item _ _ => item.toList
  | .showOutline color _ _ => (raw? color).toList
  | .unknown record => record.kind.toList
  | _ => []

theorem oneLine_kindName {op : Op} (known : ∀ record, op ≠ .unknown record) :
    OneLine op.kindName := by
  have named (kind : Kind) : OneLine kind.name := by cases kind <;> decide
  unfold kindName
  split
  next record => exact absurd rfl (known record)
  next =>
    cases op.kind? with
    | none => decide
    | some kind => exact named kind

end Op

/-- The texts that the report about a text quotes, if the text is no identifier. -/
def Identifier.reported (value : Option String) : List String :=
  match value.map Identifier.parse with
  | some (.error cause) => cause.quotes
  | _ => []

/-- The texts that are quoted when a field is wrong: the spelling of a word that is not known, or
what the report about an identifier quotes. -/
def Record.quotes (r : Record) : String → List String
  | "color" => r.color.toList
  | "direction" => r.direction.toList
  | "action" => r.action.toList
  | "source" => r.source.toList
  | "item" => Identifier.reported r.item
  | "sound" => Identifier.reported r.sound
  | "block" => Identifier.reported r.block
  | "entity" => Identifier.reported r.entity
  | _ => []

namespace Script

open Check
open Keyword (raw?)

/-- The texts that the gap of an instruction quotes. -/
def Gap.quotes (op : Op) : Gap → List String
  | .missing _ => []
  | .invalid field _ => op.fields.quotes field
  | .unlinked key => [key]

/-- A comment holds the message about a step exactly if it holds the texts that are quoted in it,
and these are one line each if all are that might be quoted. -/
structure Exact (op : Op) (message : String) (quotes : List String) : Prop where
  fits : Fits message ↔ ∀ text ∈ quotes, Fits text
  own : (∀ text ∈ op.quotable, OneLine text) → ∀ text ∈ quotes, OneLine text

/-- If there is a gap, its text is made up of what it quotes. -/
abbrev Tells {α : Type} (op : Op) (x : Except Gap α) : Prop :=
  Meets (fun gap => Exact op gap.text (gap.quotes op)) (fun _ => True) x

/-- A message that quotes nothing is one line. -/
theorem Exact.of_oneLine {op : Op} {message : String} (one : OneLine message) :
    Exact op message [] :=
  ⟨iff_of_true (fits_of_oneLine one) (by simp), by simp⟩

/-- A message that quotes one text fits as the text does. -/
theorem Exact.single {op : Op} {message text : String} (fits : Fits message ↔ Fits text)
    (own : (∀ text ∈ op.quotable, OneLine text) → OneLine text) : Exact op message [text] := by
  refine ⟨?_, fun one => ?_⟩
  · rw [List.forall_mem_singleton]
    exact fits
  · rw [List.forall_mem_singleton]
    exact own one

/-- Words around a message change nothing. -/
theorem Exact.congr {op : Op} {message longer : String} {quotes : List String}
    (h : Exact op message quotes) (same : Fits longer ↔ Fits message) : Exact op longer quotes :=
  ⟨same.trans h.fits, h.own⟩

/-! ## Checks -/

section Checks

variable {α β : Type} {op : Op} {x : Except Gap α} {field : String}

theorem tells_pure (a : α) : Tells op (pure a) :=
  .ok trivial

theorem tells_bind {f : α → Except Gap β} (h : Tells op x) (rest : ∀ a, Tells op (f a)) :
    Tells op (x >>= f) :=
  h.bind fun a _ => rest a

theorem tells_map (f : α → β) (h : Tells op x) : Tells op (x.map f) :=
  h.map fun _ _ => trivial

theorem exact_missing (name : OneLine field) : Exact op (Gap.missing field).text [] :=
  .of_oneLine (name.between (by decide) (by decide))

theorem exact_invalid {why : String} {texts : List String} (name : OneLine field)
    (held : op.fields.quotes field = texts) (h : Exact op why texts) :
    Exact op (Gap.invalid field why).text ((Gap.invalid field why).quotes op) := by
  rw [Gap.text, Gap.quotes, held]
  refine h.congr ((fits_append_solid (by decide)).trans (fits_append ?_))
  exact name.between (by decide) (by decide)

theorem tells_need (value : Option α) (name : OneLine field) :
    Tells op (need field value) := by
  cases value with
  | none => exact .error (exact_missing name)
  | some a => exact .ok trivial

theorem tells_identifier {value : String} (name : OneLine field) (own : value ∈ op.quotable)
    (held : op.fields.quotes field = Identifier.reported (some value)) :
    Tells op (identifier field value) := by
  unfold identifier
  split
  · exact .ok trivial
  next cause failed =>
    have quotes : op.fields.quotes field = cause.quotes := by
      simp [held, Identifier.reported, failed]
    exact .error (exact_invalid name quotes ⟨cause.fits_message, fun one =>
      (Identifier.meets_parse (one value own)).of_error failed⟩)

theorem tells_neededIdentifier {value : Option String} (name : OneLine field)
    (own : ∀ text, value = some text → text ∈ op.quotable)
    (held : op.fields.quotes field = Identifier.reported value) :
    Tells op (neededIdentifier field value) := by
  cases value with
  | none => exact .error (exact_missing name)
  | some value => exact tells_identifier name (own value rfl) held

theorem tells_optionalIdentifier {value : Option String} (name : OneLine field)
    (own : ∀ text, value = some text → text ∈ op.quotable)
    (held : op.fields.quotes field = Identifier.reported value) :
    Tells op (optionalIdentifier field value) := by
  cases value with
  | none => exact .ok trivial
  | some value => exact tells_map _ (tells_identifier name (own value rfl) held)

theorem tells_word [Vocabulary α] {value : Option (Keyword α)} (name : OneLine field)
    (own : ∀ text, raw? value = some text → text ∈ op.quotable)
    (held : op.fields.quotes field = (value.map Keyword.text).toList) :
    Tells op (word field value) := by
  rcases value with _ | (known | spelling)
  · exact .ok trivial
  · exact .ok trivial
  · have fits : Fits ("unknown value `" ++ spelling ++ "`") ↔ Fits spelling :=
      (fits_append_solid (by decide)).trans (fits_append (by decide))
    have quotes : op.fields.quotes field = [spelling] := held
    exact .error (exact_invalid name quotes (.single fits fun one => one _ (own spelling rfl)))

theorem tells_neededDirection {value : Option (Keyword Direction)}
    (own : ∀ text, raw? value = some text → text ∈ op.quotable)
    (held : op.fields.quotes "direction" = (value.map Keyword.text).toList) :
    Tells op (neededDirection value) :=
  tells_bind (tells_word (by decide) own held) fun _ => tells_need _ (by decide)

theorem tells_duration (ticks : Option Int32) : Tells op (duration ticks) :=
  tells_map _ (tells_need _ (by decide))

theorem tells_selection (area : Area) : Tells op (selection area) :=
  tells_need _ (by decide)

theorem tells_block (pos : Option Vec3) : Tells op (block pos) :=
  tells_map _ (tells_need _ (by decide))

/-- The text of a data patch is never quoted as it is. -/
theorem tells_patch (nbt : String) : Tells op (patch nbt) := by
  unfold patch
  split
  · exact .ok trivial
  next cause failed =>
    have one : OneLine cause.message := Tag.oneLine_of_parse_error failed
    have quotes : op.fields.quotes "nbt" = [] := rfl
    exact .error (exact_invalid (by decide) quotes (.of_oneLine one))

theorem tells_state {placement : Placement}
    (own : ∀ text, placement.block = some text → text ∈ op.quotable)
    (held : op.fields.quotes "block" = Identifier.reported placement.block) :
    Tells op (state placement) :=
  tells_map _ (tells_neededIdentifier (by decide) own held)

theorem tells_find (context : Context) {link : Link}
    (own : ∀ text, link = some text → text ∈ op.quotable) : Tells op (context.find link) := by
  unfold Stage.find
  split
  · exact .ok trivial
  · have fits : Fits (Gap.unlinked (linkKey link)).text ↔ Fits (linkKey link) := by
      rw [Gap.text]
      exact (fits_append_solid (by decide)).trans (fits_append (by decide))
    have key (one : ∀ text ∈ op.quotable, OneLine text) : OneLine (linkKey link) := by
      cases link with
      | none => decide
      | some key => exact one key (own key rfl)
    exact .error (Exact.single fits key)

theorem tells_clear (name : String) (filter : Option Identifier) (area : Area)
    (fullScene : Option Bool) : Tells op (clear name filter area fullScene) := by
  unfold clear
  simp only
  split
  · exact tells_pure _
  · exact tells_bind (tells_selection area) fun _ => tells_pure _

end Checks

/-! ## Instructions -/

/-- The gap of an instruction is made up of what it quotes. -/
theorem tells_lower (context : Context) (op : Op) : Tells op (lower context op) := by
  cases op with
  | blank | showStructure | rotateCamera | keyframe | nextScene | unknown => exact tells_pure _
  | idle => exact tells_bind (tells_duration _) fun _ => tells_pure _
  | text | sharedText =>
    refine tells_bind (tells_duration _) fun _ => tells_bind (tells_need _ (by decide)) fun _ => ?_
    refine tells_bind (tells_need _ (by decide)) fun _ => tells_bind ?_ fun _ => tells_pure _
    exact tells_word (by decide) (fun _ is => by simp [Op.quotable, is]) rfl
  | showControls =>
    refine tells_bind (tells_duration _) fun _ => tells_bind (tells_need _ (by decide)) fun _ => ?_
    refine tells_bind ?_ fun _ => tells_bind ?_ fun _ => tells_bind ?_ fun _ => tells_pure _
    · exact tells_neededDirection (fun _ is => by simp [Op.quotable, is]) rfl
    · exact tells_word (by decide) (fun _ is => by simp [Op.quotable, is]) rfl
    · exact tells_optionalIdentifier (by decide) (fun _ is => by simp [Op.quotable, is]) rfl
  | playSound =>
    refine tells_bind ?_ fun _ => tells_bind ?_ fun _ => tells_pure _
    · exact tells_neededIdentifier (by decide) (fun _ is => by simp [Op.quotable, is]) rfl
    · exact tells_word (by decide) (fun _ is => by simp [Op.quotable, is]) rfl
  | setBlock =>
    refine tells_bind ?_ fun _ => tells_bind (tells_selection _) fun blocks => ?_
    · exact tells_state (fun _ is => by simp [Op.quotable, is]) rfl
    · cases blocks <;> exact tells_pure _
  | replaceBlocks =>
    refine tells_bind ?_ fun _ => tells_bind (tells_selection _) fun _ => tells_pure _
    exact tells_state (fun _ is => by simp [Op.quotable, is]) rfl
  | destroyBlock | indicateRedstone | indicateSuccess =>
    exact tells_bind (tells_block _) fun _ => tells_pure _
  | toggleRedstonePower => exact tells_bind (tells_selection _) fun _ => tells_pure _
  | showSection | hideSection =>
    refine tells_bind (tells_selection _) fun _ => tells_bind ?_ fun _ => tells_pure _
    exact tells_word (by decide) (fun _ is => by simp [Op.quotable, is]) rfl
  | showIndependentSection =>
    refine tells_bind (tells_selection _) fun _ => tells_bind ?_ fun _ => tells_pure _
    exact tells_neededDirection (fun _ is => by simp [Op.quotable, is]) rfl
  | mergeSection area direction link =>
    refine tells_bind (tells_selection _) fun _ => tells_bind ?_ fun _ => ?_
    · exact tells_neededDirection (fun _ is => by simp [Op.quotable, is]) rfl
    · cases context.find? link <;> exact tells_pure _
  | hideIndependentSection =>
    refine tells_bind ?_ fun _ => tells_bind ?_ fun _ => tells_pure _
    · exact tells_find context (fun _ is => by simp [Op.quotable, is])
    · exact tells_word (by decide) (fun _ is => by simp [Op.quotable, is]) rfl
  | rotateSection =>
    refine tells_bind (tells_duration _) fun _ => tells_bind ?_ fun _ => tells_pure _
    exact tells_find context (fun _ is => by simp [Op.quotable, is])
  | moveSection =>
    refine tells_bind (tells_duration _) fun _ => tells_bind (tells_need _ (by decide)) fun _ => ?_
    refine tells_bind ?_ fun _ => tells_pure _
    exact tells_find context (fun _ is => by simp [Op.quotable, is])
  | modifyBlockEntity =>
    refine tells_bind (tells_selection _) fun _ => tells_bind (tells_need _ (by decide)) fun _ => ?_
    exact tells_bind (tells_patch _) fun _ => tells_pure _
  | createEntity | createItemEntity =>
    refine tells_bind ?_ fun _ => tells_bind (tells_need _ (by decide)) fun _ => tells_pure _
    exact tells_neededIdentifier (by decide) (fun _ is => by simp [Op.quotable, is]) rfl
  | clearEntities | clearItemEntities =>
    refine tells_bind ?_ fun _ => tells_bind (tells_clear _ _ _ _) fun _ => tells_pure _
    exact tells_optionalIdentifier (by decide) (fun _ is => by simp [Op.quotable, is]) rfl
  | showOutline =>
    refine tells_bind (tells_duration _) fun _ => tells_bind (tells_selection _) fun _ => ?_
    refine tells_bind ?_ fun _ => tells_pure _
    exact tells_word (by decide) (fun _ is => by simp [Op.quotable, is]) rfl

end Script

end Storyboard
