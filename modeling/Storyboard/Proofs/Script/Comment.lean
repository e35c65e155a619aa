import Storyboard.Output
import Storyboard.Proofs.Compile
import Storyboard.Proofs.Script.Call
import Storyboard.Proofs.Script.Gap
import Storyboard.Proofs.Trace

/-!
# What is no call stays in a comment

A script has comments for references to structures that failed and for steps that make no call. They
quote what is wrong. A comment goes as far as its line, so it holds what it quotes exactly if each
further line of the quoted text is a comment by itself.

## Main definitions

* `Op.isUnsupported`: the step asks for something that scripts cannot express.
* `Script.quotes`: the texts that the comment of a step quotes.
* `Within`: a text is a part of another.

## Main statements

* `Script.exists_comment`: the comment of a step that makes no call.
* `comments_hold`: the comments of a compiled scene.
-/

namespace Storyboard

/-- The step asks for something that scripts cannot express. -/
def Op.isUnsupported : Op → Bool
  | .toggleRedstonePower _ | .indicateRedstone _ | .indicateSuccess _ => true
  | _ => false

namespace Script

/-! ## Steps -/

/-- The texts that the comment of an instruction quotes. -/
def quotes (context : Context) (op : Op) : List String :=
  match lower context op with
  | .error gap => gap.quotes op
  | .ok _ => match op with
    | .unknown record => [quoted (record.kind.getD "")]
    | _ => []

theorem oneLine_of_all {text : String} (places : text.toList.all isPlaceChar) : OneLine text := by
  rw [oneLine_iff]
  intro c mem
  by_contra stops
  have place := List.all_eq_true.1 places c mem
  rcases isLineEnd_iff.1 (by simpa using stops : isLineEnd c) with rfl | rfl | rfl | rfl <;>
    revert place <;> decide

theorem oneLine_blockText (p : BlockPos) : OneLine (blockText p) :=
  (oneLine_of_all (all_pos p)).between (by decide) (by decide)

section Quotes

variable {context after : Context} {op : Op} {lines : List String} {gap : Gap}

theorem quotes_of_error (lowered : lower context op = .error gap) :
    quotes context op = gap.quotes op := by
  simp only [quotes, lowered]

theorem quotes_of_ok (lowered : lower context op = .ok (lines, after))
    (known : ∀ record, op ≠ .unknown record) : quotes context op = [] := by
  cases op with
  | unknown record => exact absurd rfl (known record)
  | _ => simp only [quotes, lowered]

/-- A comment that quotes nothing is one line. -/
theorem exists_exact (none : quotes context op = [])
    (h : ∃ text, lines = ["//" ++ text] ∧ OneLine text) :
    ∃ text, lines = ["//" ++ text] ∧ Exact op text (quotes context op) := by
  obtain ⟨text, line, one⟩ := h
  exact ⟨text, line, none ▸ .of_oneLine one⟩

/-- The words around a gap change nothing about it. -/
theorem Gap.fits_comment (gap : Gap) {name : String} (one : OneLine name) :
    Fits (" " ++ gap.text ++ " " ++ name) ↔ Fits gap.text := by
  obtain ⟨body, text⟩ : ∃ body, gap.text = body ++ "]" := by
    cases gap <;> exact ⟨_, rfl⟩
  have parts : " " ++ (body ++ "]") ++ " " ++ name = " " ++ body ++ ("]" ++ (" " ++ name)) := by
    simp only [String.append_assoc]
  have behind : Solid ("]" ++ (" " ++ name)) :=
    Solid.append (by decide) (oneLine_append.2 ⟨by decide, one⟩)
  rw [text, parts, fits_append_solid behind]
  exact (fits_append (by decide)).trans (fits_append_solid (by decide)).symm

end Quotes

/-- The comment for something that scripts cannot express. -/
theorem exists_unsupported (name : String) {argument : String} (first : OneLine name)
    (one : OneLine argument) :
    ∃ text, [unsupported (statement name [argument])] = ["//" ++ text] ∧ OneLine text := by
  refine ⟨" " ++ unsupportedTag ++ " " ++ statement name [argument], ?_, ?_⟩
  · have start : "// " = "//" ++ " " := by decide
    simp only [unsupported, start, String.append_assoc]
  · have arguments : OneLine (", ".intercalate [argument]) :=
      oneLine_intercalate (by decide) (by simpa using one)
    unfold statement invocation
    simp only [oneLine_append]
    exact ⟨⟨⟨by decide, by decide⟩, by decide⟩, ⟨⟨⟨first, by decide⟩, arguments⟩, by decide⟩,
      by decide⟩

/-- A step that makes no call and has no gap is a boundary or unknown, or asks for something that
scripts cannot express. It has a comment as well. -/
theorem exists_comment_of_lower {context after : Context} {op : Op} {lines : List String}
    (silent : (∃ fault, context.apply naming op = .error fault) ∨ op.isUnsupported)
    (lowered : lower context op = .ok (lines, after)) :
    ∃ text, lines = ["//" ++ text] ∧ Exact op text (quotes context op) := by
  cases op with
  | nextScene =>
    cases lowered
    exact exists_exact rfl ⟨" [segment boundary]", rfl, by decide⟩
  | unknown record =>
    cases lowered
    refine ⟨" [unknown] step type " ++ quoted (record.kind.getD ""), ?_, ?_⟩
    · have start : "// [unknown] step type " = "//" ++ " [unknown] step type " := by decide
      rw [start, String.append_assoc]
    · have kind (one : ∀ text ∈ record.kind.toList, OneLine text) :
          OneLine (quoted (record.kind.getD "")) := by
        refine oneLine_quoted ?_
        cases kind : record.kind with
        | none => decide
        | some text => exact one text (by simp [kind])
      exact .single (fits_append (by decide)) kind
  | toggleRedstonePower area =>
    have none := quotes_of_ok lowered (by simp)
    obtain ⟨blocks, -, done⟩ := bind_eq_ok_iff.1 lowered
    cases done
    exact exists_exact none
      (exists_unsupported _ (by decide) (oneLine_of_all (all_selectionText blocks)))
  | indicateRedstone pos | indicateSuccess pos =>
    have none := quotes_of_ok lowered (by simp)
    obtain ⟨block, -, done⟩ := bind_eq_ok_iff.1 lowered
    cases done
    exact exists_exact none (exists_unsupported _ (by decide) (oneLine_blockText block))
  | _ =>
    obtain ⟨fault, failed⟩ | unsupported := silent
    · obtain ⟨gap, gapped⟩ := lower_of_error failed (by simp) (by simp)
      rw [gapped] at lowered
      cases lowered
    · cases unsupported

/-- A step that makes no call has a comment behind its mark, if it has one. -/
theorem exists_comment {context : Context} {step : Step}
    (silent : (∃ fault, context.apply naming step.op = .error fault) ∨ step.op.isUnsupported) :
    ∃ text, (emit context step).1 =
        (if step.isMarked then [markLine] else []) ++ ["//" ++ text] ∧
      Exact step.op text (quotes context step.op) := by
  have shows : step.isBlank = false := by
    rw [← Bool.not_eq_true, Step.isBlank_iff]
    intro blank
    rw [blank] at silent
    obtain ⟨fault, failed⟩ | unsupported := silent
    · cases failed
    · cases unsupported
  simp only [emit, Step.isMarked, shows, Bool.false_eq_true, if_false, Bool.not_false,
    Bool.true_and]
  rcases lowered : lower context step.op with gap | ⟨lines, after⟩
  · have known : ∀ record, step.op ≠ .unknown record := by
      intro record unknown
      rw [unknown] at lowered
      cases lowered
    have told := (tells_lower context step.op).of_error lowered
    refine ⟨" " ++ gap.text ++ " " ++ step.op.kindName, ?_, ?_⟩
    · have start : "// " = "//" ++ " " := by decide
      simp only [comment, start, String.append_assoc]
    · rw [quotes_of_error lowered]
      exact told.congr (gap.fits_comment (Op.oneLine_kindName known))
  · obtain ⟨text, rfl, exact⟩ := exists_comment_of_lower silent lowered
    exact ⟨text, rfl, exact⟩

end Script

/-! ## Scripts -/

/-- The text has a part. -/
def Within (part whole : String) : Prop :=
  ∃ front back, whole = front ++ part ++ back

section Within

variable {part whole : String}

theorem Within.refl (text : String) : Within text text :=
  ⟨"", "", by simp⟩

theorem Within.append_left (h : Within part whole) (front : String) :
    Within part (front ++ whole) := by
  obtain ⟨before, after, rfl⟩ := h
  exact ⟨front ++ before, after, by simp only [String.append_assoc]⟩

theorem Within.append_right (h : Within part whole) (back : String) :
    Within part (whole ++ back) := by
  obtain ⟨before, after, rfl⟩ := h
  exact ⟨before, after ++ back, by simp only [String.append_assoc]⟩

theorem Within.join {texts : List String} (h : Within part whole) (mem : whole ∈ texts) :
    Within part (String.join texts) := by
  obtain ⟨before, after, rfl⟩ := List.append_of_mem mem
  have text : String.join (before ++ whole :: after) =
      String.join before ++ (whole ++ String.join after) :=
    String.toList_inj.1 (by simp [String.toList_join])
  rw [text]
  exact (h.append_right _).append_left _

end Within

namespace CompiledScene

/-- The comment for a reference to a structure that failed. -/
def warningComment (warning : Nat × Structure.Error) : String :=
  "// segment " ++ toString (warning.1 + 1) ++ ": " ++ warning.2.message

/-- The lines of a step with their indentation and their ends. -/
def stepText (lines : List String) : String :=
  unlines (lines.map ("            " ++ ·))

/-- The words in front of a report change nothing about it. -/
theorem isComment_warning_iff (warning : Nat × Structure.Error) :
    IsComment (warningComment warning) ↔ Fits warning.2.message := by
  have parts : warningComment warning =
      "" ++ ("//" ++ (" segment " ++ toString (warning.1 + 1) ++ ": " ++ warning.2.message)) := by
    rw [warningComment, (by decide : "// segment " = "//" ++ " segment ")]
    simp only [String.append_assoc, String.empty_append]
  have front : OneLine (" segment " ++ toString (warning.1 + 1) ++ ": ") :=
    (oneLine_toString _).between (by decide) (by decide)
  rw [parts]
  exact (isComment_append_iff (by simp) (by decide)).trans (fits_append front)

theorem unlines_append (lines more : List String) :
    unlines (lines ++ more) = unlines lines ++ unlines more :=
  String.toList_inj.1 (by simp [unlines, String.toList_join])

theorem within_script_of_warning {scene : CompiledScene} {warning : Nat × Structure.Error}
    (mem : warning ∈ scene.warnings) : Within (warningComment warning ++ "\n") scene.script := by
  obtain ⟨index, cause⟩ := warning
  unfold script
  iterate 6 refine Within.append_right ?_ _
  refine Within.join (Within.refl _) (List.mem_map_of_mem (List.mem_cons_of_mem _ ?_))
  exact List.mem_map.2 ⟨_, mem, rfl⟩

theorem within_script_of_step {scene : CompiledScene} {s : CompiledSegment} {lines : List String}
    (mem : s ∈ scene.segments) (step : lines ∈ Script.lines s.segment.steps) :
    Within (stepText lines) scene.script := by
  have all : Within (stepText lines)
      (unlines ((Script.lines s.segment.steps).flatten.map ("            " ++ ·))) := by
    obtain ⟨before, after, split⟩ := List.append_of_mem step
    rw [split]
    simp only [List.flatten_append, List.flatten_cons, List.map_append, unlines_append]
    exact ((Within.refl _).append_right _).append_left _
  unfold script
  refine Within.append_right ((Within.join ?_ (List.mem_map_of_mem mem)).append_left _) _
  unfold segmentScript
  exact ((all.append_left _).append_right _).append_left _

end CompiledScene

theorem Scene.tells_of_compile {language : String} {scene : Scene} {compiled : CompiledScene}
    (compiles : scene.compile language = .ok compiled) {warning : Nat × Structure.Error}
    (mem : warning ∈ compiled.warnings) : Structure.Tells warning.2 := by
  rw [warnings_of_compile compiles, List.mem_filterMap] at mem
  simp only [Option.map_eq_some_iff] at mem
  obtain ⟨⟨⟨structure_, cause⟩, index⟩, found, cause, rfl, rfl⟩ := mem
  exact Structure.tells_of_assigned (List.mem_of_getElem? (List.mem_zipIdx_iff_getElem?.1 found))

/-- A trace warns of a step when the step makes no call in the script of the same steps. -/
theorem Script.exists_warning_iff {steps : List Step} {i : Nat} {step : Step}
    (at_ : steps[i]? = some step) :
    (∃ w ∈ (Trace.play steps).warnings, w.index = i) ↔
      ∃ fault,
        (contextAfter (.start naming) (steps.take i)).apply naming step.op = .error fault := by
  have event := Stage.getElem?_run Trace.naming (.start Trace.naming) steps i
  rw [at_] at event
  rw [Trace.exists_warning_iff event, contextAfter_eq]
  simp only [Stage.event_result_eq_error_iff]
  exact Stage.exists_apply_error_iff _ _ _ _

/-! ## Comments of compiled scenes -/

open CompiledScene (warningComment stepText isComment_warning_iff)

/-- A reference that failed has a comment in the script. All of it is a comment exactly if every
text that it quotes fits into one, and it is whenever the name has no end of a line in it. So does a
step that the trace warns of, and one that asks for something that scripts cannot express: besides
the mark of the step, its text in the script is a comment exactly if every text that is quoted fits
into one, and it is whenever none of the texts that may be quoted has an end of a line in it. -/
theorem comments_hold {language : String} {scene : Scene} {compiled : CompiledScene}
    (compiles : scene.compile language = .ok compiled) :
    (∀ warning ∈ compiled.warnings,
      Within (warningComment warning ++ "\n") compiled.script ∧
        (IsComment (warningComment warning) ↔ ∀ text ∈ warning.2.quotes, Fits text) ∧
        ((∀ name why, warning.2 = .badName name why → OneLine name) →
          IsComment (warningComment warning))) ∧
    ∀ s ∈ compiled.segments, ∀ i step, s.segment.steps[i]? = some step →
      ((∃ w ∈ (Trace.play s.segment.steps).warnings, w.index = i) ∨ step.op.isUnsupported) →
      ∃ comment, (Script.lines s.segment.steps)[i]? =
          some ((if step.isMarked then [Script.markLine] else []) ++ [comment]) ∧
        Within (stepText ((if step.isMarked then [Script.markLine] else []) ++ [comment]))
          compiled.script ∧
        (IsComment ("            " ++ comment) ↔
          ∀ text ∈ Script.quotes
            (Script.contextAfter (.start Script.naming) (s.segment.steps.take i)) step.op,
            Fits text) ∧
        ((∀ text ∈ step.op.quotable, OneLine text) → IsComment ("            " ++ comment)) := by
  constructor
  · intro warning mem
    have whole : IsComment (warningComment warning) ↔ ∀ text ∈ warning.2.quotes, Fits text := by
      rw [← warning.2.fits_message]
      exact isComment_warning_iff warning
    refine ⟨CompiledScene.within_script_of_warning mem, whole, fun named => ?_⟩
    have one := Scene.tells_of_compile compiles mem named
    exact whole.2 fun text quoted => fits_of_oneLine (one text quoted)
  · intro s mem i step at_ silent
    rw [Script.exists_warning_iff at_] at silent
    obtain ⟨text, emitted, fits, own⟩ := Script.exists_comment silent
    have written : (Script.lines s.segment.steps)[i]? =
        some ((if step.isMarked then [Script.markLine] else []) ++ ["//" ++ text]) := by
      rw [Script.lines, Script.getElem?_linesFrom, at_, Option.map_some, emitted]
    have whole : IsComment ("            " ++ ("//" ++ text)) ↔ _ :=
      (isComment_append_iff (List.all_eq_true.1 (by decide)) (by decide)).trans fits
    exact ⟨"//" ++ text, written,
      CompiledScene.within_script_of_step mem (List.mem_of_getElem? written), whole,
      fun one => whole.2 fun text quoted => fits_of_oneLine (own one text quoted)⟩

/-- A structure that cannot be named, and a marked turn of a section that is not there. -/
def stray : Segment :=
  { steps := [.ofOp (.showStructure (some "No Base") none none),
      ⟨true, .rotateSection (some "lid") none none none (some 20)⟩] }

/-- What is wrong with the name of the structure. -/
def strayCause : Structure.Error :=
  .badName "No Base" (.invalidChar 'N' .path "kubejs:No Base")

theorem comments_hold_stray :
    ∃ compiled, Scene.compile "en_us" { id := "demo:lid", steps := stray.steps } = .ok compiled ∧
      (0, strayCause) ∈ compiled.warnings ∧ IsComment (warningComment (0, strayCause)) ∧
      ∃ comment, (Script.lines stray.steps)[1]? = some [Script.markLine, comment] ∧
        IsComment ("            " ++ comment) := by
  let compiled : CompiledScene :=
    { id := ⟨"demo", "lid"⟩
      triggers := []
      title := "lid"
      segments := [⟨"lid", "lid", Structure.fallback, stray⟩]
      warnings := [(0, strayCause)] }
  have compiles :
      Scene.compile "en_us" { id := "demo:lid", steps := stray.steps } = .ok compiled := rfl
  have named : ∀ name why, strayCause = .badName name why → OneLine name := by
    rintro name why equal
    cases equal
    decide
  have warned : ∃ w ∈ (Trace.play stray.steps).warnings, w.index = 1 :=
    ⟨⟨1, "rotate_section", .unlinked "lid"⟩, List.mem_singleton.2 rfl, rfl⟩
  have quotes : ∀ text ∈ (Op.rotateSection (some "lid") none none none (some 20)).quotable,
      OneLine text := by
    simpa [Op.quotable] using (by decide : OneLine "lid")
  obtain ⟨header, steps⟩ := comments_hold compiles
  obtain ⟨comment, written, -, -, is⟩ := steps _ (List.mem_singleton.2 rfl) 1 _ rfl (.inl warned)
  have mem : (0, strayCause) ∈ compiled.warnings := List.mem_singleton.2 rfl
  exact ⟨compiled, compiles, mem, (header _ mem).2.2 named, comment, written, is quotes⟩

/-- A turn of a section that is not there, with the end of a line in its link. -/
def broken : Scene :=
  { id := "demo:lid"
    items := ["demo:lid"]
    structures := ["demo:base"]
    steps := [.ofOp (.showStructure none none none), .ofOp (.rotateSection
      (some "a\nscene.world.removeEntities(); //") none none none (some 20))] }

/-- A comment does not hold what follows the end of a line. -/
theorem comments_hold_broken :
    ∃ compiled, broken.compile "en_us" = .ok compiled ∧
      ∃ s ∈ compiled.segments, ∃ comment,
        (Script.lines s.segment.steps)[1]? = some [comment] ∧
          ¬IsComment ("            " ++ comment) :=
  ⟨_, rfl, _, List.mem_singleton.2 rfl, _, rfl, by decide⟩

end Storyboard
