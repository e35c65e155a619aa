import Storyboard.Proofs.Script.Reading
import Storyboard.Proofs.Tag.RoundTrip
import Storyboard.Proofs.Trace

/-!
# Data patches in scripts

A script hands a data patch over as a text between quotes. What is read from this text is the patch
that the call of the step has.

## Main definitions

* `Script.firstLiteral?`: the first text between quotes of a line.
* `Script.Embeds`: a line has a text between quotes as its patch.

## Main statements

* `scan_quoted`: quotes around any text are taken off again.
* `Script.apply_modifyBlockEntity_iff`: the call of a step that changes data.
* `Script.patch_embedded`: the patch that a script hands over is that of the call.
-/

namespace Storyboard

/-- A text between quotes is one piece, up to its last character. -/
theorem scan_quoted (s : String) :
    Token.scan (quoted s) = [.ok (.quoted s), .ok .endOfText] := by
  have piece := Token.scanChars_quoted s.toList []
  rw [List.append_nil, Token.scanChars_nil, String.ofList_toList] at piece
  rw [Token.scan, quoted, String.toList_ofList, piece]

namespace Script

/-! ## Literals of lines -/

/-- The first text between quotes of a line, without its escapes, and what follows it. -/
def firstLiteral? (line : String) : Option (String × String) :=
  (Token.readQuoted '"' (line.toList.dropWhile (· ≠ '"')).tail).map fun (text, rest) =>
    (String.ofList text, String.ofList rest)

theorem firstLiteral?_append {front : String} (free : '"' ∉ front.toList) (text rest : String) :
    firstLiteral? (front ++ quoted text ++ rest) = some (text, rest) := by
  have line : (front ++ quoted text ++ rest).toList =
      front.toList ++ '"' :: (escapeQuotes text.toList ++ '"' :: rest.toList) := by
    simp [quoted, quotedChars]
  have behind : (front ++ quoted text ++ rest).toList.dropWhile (· ≠ '"') =
      '"' :: (escapeQuotes text.toList ++ '"' :: rest.toList) := by
    rw [line]
    exact dropWhile_run (forall_ne_of_notMem free) (by simp)
  rw [firstLiteral?, behind, List.tail_cons, Token.readQuoted_escapeQuotes]
  simp

/-- What stands in a line behind its patch. -/
def behindPatch : String :=
  ")); \x7d);"

/-- The line has a text between quotes as its patch. No other one stands before it. -/
structure Embeds (line text : String) : Prop where
  site : ∃ front, '"' ∉ front.toList ∧
    line = front ++ "NBT.toTagCompound(" ++ quoted text ++ behindPatch
  literal : firstLiteral? line = some (text, behindPatch)

theorem embeds_append {front : String} (free : '"' ∉ front.toList) (text : String) :
    Embeds (front ++ "NBT.toTagCompound(" ++ quoted text ++ behindPatch) text where
  site := ⟨front, free, rfl⟩
  literal := firstLiteral?_append (by simp [free]) text behindPatch

/-! ## Texts without quotes -/

theorem quote_notMem_append {a b : String} :
    '"' ∉ (a ++ b).toList ↔ '"' ∉ a.toList ∧ '"' ∉ b.toList := by
  rw [String.toList_append, List.mem_append, not_or]

/-- The line of a call that changes data has the text of its patch. -/
theorem exists_embeds (blocks : Selection) (patch : Tag) (redraw : Bool) :
    ∃ line, plainLines (.modifyBlockEntity blocks patch redraw) = [line] ∧
      callee line = "scene.world.modifyBlockEntityNBT" ∧ Embeds line patch.text := by
  refine ⟨_, rfl, callee_statement (by decide) _, ?_⟩
  have place : '"' ∉ (selectionText blocks).toList := fun mem =>
    absurd (List.all_eq_true.1 (all_selectionText blocks) _ mem) (by decide)
  have flag : '"' ∉ (flagText redraw).toList := by cases redraw <;> decide
  have free : '"' ∉ ("scene.world.modifyBlockEntityNBT" ++ "(" ++ selectionText blocks ++ ", " ++
      flagText redraw ++ ", " ++ "(nbt) => \x7b nbt.merge(").toList := by
    simp only [quote_notMem_append]
    exact ⟨⟨⟨⟨⟨⟨by decide, by decide⟩, place⟩, by decide⟩, flag⟩,
      by decide⟩, by decide⟩
  have joined (a b c : String) : ", ".intercalate [a, b, c] = a ++ ", " ++ b ++ ", " ++ c := rfl
  have inner : "(nbt) => \x7b nbt.merge(NBT.toTagCompound(" =
      "(nbt) => \x7b nbt.merge(" ++ "NBT.toTagCompound(" := by decide
  have back : ")); \x7d" ++ (")" ++ ";") = behindPatch := by decide
  have embeds := embeds_append free patch.text
  simp only [← back, String.append_assoc] at embeds
  simpa only [statement, invocation, joined, inner, String.append_assoc] using embeds

/-! ## Steps -/

variable {σ S : Type} {n : Naming σ S} {stage after : Stage σ S} {call : Option (Call σ)}
  {area : Area} {nbt : Option String} {redraw : Option Bool}

/-- A step that changes data makes its call if there are blocks and a patch that can be read. -/
theorem apply_modifyBlockEntity_iff :
    stage.apply n (.modifyBlockEntity area nbt redraw) = .ok (call, after) ↔
      ∃ blocks text patch, area.selection? = some blocks ∧ nbt = some text ∧
        Tag.parse text = .ok patch ∧ after = stage ∧
        call = some (.plain (.modifyBlockEntity blocks patch (redraw.getD false))) := by
  rw [← toOption_eq_some_iff, Stage.toOption_apply]
  simp only [Op.call, toOption_bind, toOption_pure, Check.toOption_selection, Check.toOption_need,
    Check.toOption_patch, Option.bind_eq_some_iff, toOption_eq_some_iff]
  constructor
  · rintro ⟨_, ⟨blocks, selected, text, given, patch, read, ⟨⟩⟩, ⟨⟩⟩
    exact ⟨blocks, text, patch, selected, given, read, rfl, rfl⟩
  · rintro ⟨blocks, text, patch, selected, given, read, rfl, rfl⟩
    exact ⟨_, ⟨blocks, selected, text, given, patch, read, rfl⟩, rfl⟩

variable {steps : List Step} {i : Nat} {step : Step} {lines : List String}
  {event : Event Nat Nat}

/-- A script has the patch of the call in its line for a step that changes data, or a comment if the
step is left out. -/
theorem lines_modifyBlockEntity (at_ : steps[i]? = some step)
    (changes : step.op = .modifyBlockEntity area nbt redraw)
    (written : (Script.lines steps)[i]? = some lines)
    (traced : (Trace.events steps)[i]? = some event) :
    (∃ blocks patch line,
        event.result = .ok (some (.plain (.modifyBlockEntity blocks patch (redraw.getD false)))) ∧
        lines = (if step.isMarked then [markLine] else []) ++ [line] ∧
        callee line = "scene.world.modifyBlockEntityNBT" ∧ Embeds line patch.text ∧
        Tag.parse patch.text = .ok patch) ∨
      (∃ fault, event.result = .error fault) ∧
        ∃ text, lines = (if step.isMarked then [markLine] else []) ++ ["// " ++ text] := by
  rw [Trace.getElem?_events at_, Option.some.injEq] at traced
  rw [Script.lines, getElem?_linesFrom, at_, Option.map_some, Option.some.injEq,
    contextAfter_eq] at written
  subst traced written
  rcases applied : ((Stage.start naming).afterAll naming (steps.take i)).apply naming step.op with
    fault | ⟨call, after⟩
  · obtain ⟨text, emitted⟩ := emit_of_error applied
    obtain ⟨fault', skipped⟩ :=
      (Stage.exists_apply_error_iff naming Trace.naming (steps.take i) step.op).1 ⟨fault, applied⟩
    refine .inr ⟨⟨fault', Stage.event_result_eq_error_iff.2 skipped⟩, text, ?_⟩
    rw [emitted]
  · have emitted := emit_of_ok applied
    rw [changes] at applied
    obtain ⟨blocks, text, patch, selected, given, read, -, rfl⟩ :=
      apply_modifyBlockEntity_iff.1 applied
    obtain ⟨line, one, called, embeds⟩ := exists_embeds blocks patch (redraw.getD false)
    refine .inl ⟨blocks, patch, line, ?_, ?_, called, embeds, Tag.parse_text_of_parse read⟩
    · rw [Stage.event_result_eq_ok_iff, changes]
      exact ⟨_, apply_modifyBlockEntity_iff.2
        ⟨blocks, text, patch, selected, given, read, rfl, rfl⟩⟩
    · rw [emitted, callLines, one]

/-- Apart from the mark, only the last line of a step may be a call that changes data. -/
theorem eq_of_callee {line last : String}
    (mem : line ∈ (if step.isMarked then [markLine] else []) ++ [last])
    (called : callee line = "scene.world.modifyBlockEntityNBT") : line = last := by
  have mark : callee markLine ≠ "scene.world.modifyBlockEntityNBT" := by decide
  rw [List.mem_append, List.mem_singleton] at mem
  refine mem.resolve_left fun first => mark ?_
  split at first
  · rwa [← List.mem_singleton.1 first]
  · cases first

/-- A data patch survives its way into a script. Quotes around a text are taken off again, down to
the last character. A step that changes data is written as a call exactly when it makes its call in
the trace, and what is read from the text that the line hands over, which is the first one between
quotes, is the patch of that call. -/
theorem patch_embedded :
    (∀ s, Token.scan (quoted s) = [.ok (.quoted s), .ok .endOfText]) ∧
    ∀ (steps : List Step) (i : Nat) (step : Step) (area : Area) (nbt : Option String)
      (redraw : Option Bool) (lines : List String) (event : Event Nat Nat),
      steps[i]? = some step → step.op = .modifyBlockEntity area nbt redraw →
      (Script.lines steps)[i]? = some lines → (Trace.events steps)[i]? = some event →
      ((∃ line ∈ lines, callee line = "scene.world.modifyBlockEntityNBT") ↔
        ∃ call, event.result = .ok call) ∧
      ∀ line ∈ lines, callee line = "scene.world.modifyBlockEntityNBT" →
        ∃ blocks patch text,
          event.result = .ok (some (.plain (.modifyBlockEntity blocks patch (redraw.getD false)))) ∧
          Embeds line text ∧ Tag.parse text = .ok patch := by
  refine ⟨scan_quoted, ?_⟩
  intro steps i step area nbt redraw lines event at_ changes written traced
  obtain ⟨blocks, patch, last, made, rfl, called, embeds, read⟩ | ⟨⟨fault, skipped⟩, text, rfl⟩ :=
    lines_modifyBlockEntity at_ changes written traced
  · refine ⟨⟨fun _ => ⟨_, made⟩, fun _ => ⟨last, by simp, called⟩⟩, fun line mem calls => ?_⟩
    rw [eq_of_callee mem calls]
    exact ⟨blocks, patch, _, made, embeds, read⟩
  · have none : ∀ line ∈ (if step.isMarked then [markLine] else []) ++ ["// " ++ text],
        callee line ≠ "scene.world.modifyBlockEntityNBT" := by
      intro line mem calls
      rw [eq_of_callee mem calls] at calls
      exact callee_comment_ne text (by decide) calls
    refine ⟨⟨fun ⟨line, mem, calls⟩ => absurd calls (none line mem), ?_⟩, fun line mem calls => ?_⟩
    · rintro ⟨call, made⟩
      rw [skipped] at made
      cases made
    · exact absurd calls (none line mem)

/-- Gives a block a text with quotes and a backslash, at a marked point of the timeline. -/
def signWritten : Step :=
  ⟨true, .modifyBlockEntity ⟨some noMotion, none⟩ (some "\x7bText: 'say \"hi\" \\\\'\x7d") none⟩

set_option maxRecDepth 20000 in
theorem patch_embedded_sign :
    ∃ lines line text, (Script.lines [signWritten])[0]? = some lines ∧ line ∈ lines ∧
      callee line = "scene.world.modifyBlockEntityNBT" ∧ Embeds line text ∧
      Tag.parse text = .ok (.compound [("Text", .string "say \"hi\" \\")]) := by
  have read : Tag.parse "\x7bText: 'say \"hi\" \\\\'\x7d" =
      .ok (.compound [("Text", .string "say \"hi\" \\")]) := by cbv
  obtain ⟨_, made⟩ : ∃ blocks, ((Stage.start Trace.naming).event Trace.naming signWritten).result =
      .ok (some (.plain (.modifyBlockEntity blocks _ false))) :=
    ⟨_, Stage.event_result_eq_ok_iff.2
      ⟨_, apply_modifyBlockEntity_iff.2 ⟨_, _, _, rfl, rfl, read, rfl, rfl⟩⟩⟩
  obtain ⟨written, handed⟩ := patch_embedded.2 [signWritten] 0 signWritten ⟨some noMotion, none⟩ _
    none _ _ rfl rfl rfl rfl
  obtain ⟨line, mem, called⟩ := written.2 ⟨_, made⟩
  obtain ⟨blocks, patch, text, made', embeds, parsed⟩ := handed line mem called
  cases made.symm.trans made'
  exact ⟨_, line, text, rfl, mem, called, embeds, parsed⟩

end Script

end Storyboard
