import Storyboard.Output
import Storyboard.Proofs.Compile
import Storyboard.Proofs.Identifier
import Storyboard.Proofs.Outcome

/-!
# Files of scenes

Files are written one after another, and one that is written later replaces one of the same name. So
a scene keeps its files unless a later one has an identifier that is like its own.

## Main definitions

* `Output.written`: a directory after files have been written to it.

## Main statements

* `Output.written_append`: what is written later comes first.
* `CompiledScene.id_eq_of_script_eq`: the script of a scene tells its identifier.
* `Output.own_files_iff`: which scenes keep their files.
-/

namespace Storyboard

/-! ## Writing -/

namespace Output

/-- A directory after one more file has been written to it. -/
def write (contents : String → Option String) (file : File) : String → Option String :=
  fun name => if name = file.name then some file.content else contents name

/-- The contents by name in a directory that was empty before the files were written to it. -/
def written (files : List File) : String → Option String :=
  files.foldl write fun _ => none

variable {name content : String} {file : File} {files : List File}

theorem write_eq_or (contents : String → Option String) (file : File) (name : String) :
    write contents file name = (write (fun _ => none) file name).or (contents name) := by
  unfold write
  split <;> simp

/-- A directory with older files shows those that are not written again. -/
theorem foldl_write (contents : String → Option String) (files : List File) (name : String) :
    files.foldl write contents name = (written files name).or (contents name) := by
  induction files generalizing contents with
  | nil => simp [written]
  | cons file files ih =>
    rw [written, List.foldl_cons, List.foldl_cons, ih, ih, write_eq_or contents, Option.or_assoc]

theorem written_append (files more : List File) (name : String) :
    written (files ++ more) name = (written more name).or (written files name) := by
  rw [written, List.foldl_append, foldl_write]
  rfl

theorem written_cons (file : File) (files : List File) (name : String) :
    written (file :: files) name =
      (written files name).or (if name = file.name then some file.content else none) :=
  foldl_write _ files name

theorem exists_of_written (h : written files name = some content) :
    ∃ file ∈ files, file.name = name ∧ file.content = content := by
  induction files with
  | nil => simp [written] at h
  | cons file files ih =>
    rw [written_cons, Option.or_eq_some_iff] at h
    rcases h with later | ⟨-, here⟩
    · obtain ⟨other, mem, same⟩ := ih later
      exact ⟨other, List.mem_cons_of_mem _ mem, same⟩
    · split at here
      next same => exact ⟨file, List.mem_cons_self, same.symm, Option.some.inj here⟩
      next => cases here

theorem written_eq_none_iff : written files name = none ↔ ∀ file ∈ files, file.name ≠ name := by
  induction files with
  | nil => simp [written]
  | cons file files ih =>
    rw [written_cons, Option.or_eq_none_iff, ih, List.forall_mem_cons, and_comm]
    simp [eq_comm]

end Output

/-! ## Texts -/

namespace CompiledScene

variable {a b : CompiledScene}

theorem exists_script (scene : CompiledScene) :
    ∃ rest, scene.script = "// Auto-generated from " ++ scene.id.text ++ " " ++ rest := by
  have mark : " – DO NOT EDIT" = " " ++ "– DO NOT EDIT" := by decide
  rw [script, unlines, List.map_cons, String.join_cons, mark]
  simp only [String.append_assoc]
  exact ⟨_, rfl⟩

/-- The identifier stands in the first line of a script and ends at a blank. -/
theorem id_eq_of_script_eq (ha : a.id.IsValid) (hb : b.id.IsValid) (same : a.script = b.script) :
    a.id = b.id := by
  have free (id : Identifier) (valid : id.IsValid) : ' ' ∉ id.text.toList := by
    rw [Identifier.toList_text]
    simp [valid.notMem_space (c := ' ') (by decide), valid.notMem_path (c := ' ') (by decide)]
  have cut (id : Identifier) (valid : id.IsValid) (rest : String) :
      (id.text.toList ++ ' ' :: rest.toList).takeWhile (· ≠ ' ') = id.text.toList :=
    takeWhile_run (forall_ne_of_notMem (free id valid)) (by simp)
  obtain ⟨aRest, aScript⟩ := a.exists_script
  obtain ⟨bRest, bScript⟩ := b.exists_script
  have lists :
      a.id.text.toList ++ ' ' :: aRest.toList = b.id.text.toList ++ ' ' :: bRest.toList := by
    have texts := aScript.symm.trans (same.trans bScript)
    simp only [String.append_assoc, String.append_right_inj] at texts
    simpa using congrArg String.toList texts
  refine Identifier.eq_of_text_eq ha hb (String.toList_inj.1 ?_)
  rw [← cut a.id ha aRest, lists, cut b.id hb bRest]

/-- A script starts with a comment and a trace, if it has any text, with a heading. -/
theorem trace_ne_script : a.trace ≠ b.script := by
  intro same
  obtain ⟨rest, head⟩ := b.exists_script
  have lists := congrArg String.toList (same.trans head)
  cases segments : a.segments with
  | nil => simp [trace, segments] at lists
  | cons s more => simp [trace, segments, segmentTrace, unlines] at lists

end CompiledScene

/-! ## Names -/

namespace Output

variable {a b scene : CompiledScene} {before after scenes : List CompiledScene}

theorem scriptFile_name_eq_iff :
    (scriptFile a).name = (scriptFile b).name ↔ a.id.fileStem = b.id.fileStem :=
  String.append_left_inj ".js"

theorem traceFile_name_eq_iff :
    (traceFile a).name = (traceFile b).name ↔ a.id.fileStem = b.id.fileStem :=
  String.append_left_inj ".trace.txt"

/-- The last characters of the names differ. -/
theorem traceFile_name_ne : (traceFile a).name ≠ (scriptFile b).name := by
  intro same
  have last := congrArg (fun name : String => name.toList.getLast?) same
  simp [traceFile, scriptFile] at last

/-! ## Files that are kept -/

/-- Of files that are named alike, the last one is kept. -/
theorem written_map (file : CompiledScene → File) (before : List CompiledScene)
    (scene : CompiledScene) (after : List CompiledScene) :
    written ((before ++ scene :: after).map file) (file scene).name =
      (written (after.map file) (file scene).name).or (some (file scene).content) := by
  rw [List.map_append, List.map_cons, written_append, written_cons, if_pos rfl, Option.or_assoc,
    Option.some_or]

theorem written_map_of_unlike {file : CompiledScene → File}
    (unlike : ∀ later ∈ after, (file later).name ≠ (file scene).name) :
    written ((before ++ scene :: after).map file) (file scene).name =
      some (file scene).content := by
  have none : written (after.map file) (file scene).name = none :=
    written_eq_none_iff.2 (List.forall_mem_map.2 unlike)
  rw [written_map, none, Option.none_or]

theorem exists_traceFile {traced : Bool} {file : File}
    (mem : file ∈ if traced then scenes.map traceFile else []) : ∃ scene, file = traceFile scene := by
  split at mem
  · obtain ⟨scene, -, rfl⟩ := List.mem_map.1 mem
    exact ⟨scene, rfl⟩
  · cases mem

theorem written_scriptFile (traced : Bool) (scenes : List CompiledScene) (scene : CompiledScene) :
    written (files traced scenes) (scriptFile scene).name =
      written (scenes.map scriptFile) (scriptFile scene).name := by
  have none :
      written (if traced then scenes.map traceFile else []) (scriptFile scene).name = none := by
    rw [written_eq_none_iff]
    intro file mem
    obtain ⟨other, rfl⟩ := exists_traceFile mem
    exact traceFile_name_ne
  rw [files, written_append, none, Option.none_or]

theorem written_traceFile (scenes : List CompiledScene) (scene : CompiledScene) :
    written (files true scenes) (traceFile scene).name =
      written (scenes.map traceFile) (traceFile scene).name := by
  have none : written (scenes.map scriptFile) (traceFile scene).name = none :=
    written_eq_none_iff.2 (List.forall_mem_map.2 fun other _ => traceFile_name_ne.symm)
  rw [files, if_pos rfl, written_append, none, Option.or_none]

/-- A directory has the texts of the scene in the files that are named after it: the script, and the
trace where traces are written. -/
structure HasFiles (contents : String → Option String) (traced : Bool) (scene : CompiledScene) :
    Prop where
  script : contents (scene.id.fileStem ++ ".js") = some scene.script
  trace : traced = true → contents (scene.id.fileStem ++ ".trace.txt") = some scene.trace

theorem hasFiles_of_unlike (traced : Bool)
    (unlike : ∀ later ∈ after, later.id.fileStem ≠ scene.id.fileStem) :
    HasFiles (written (files traced (before ++ scene :: after))) traced scene where
  script := by
    refine (written_scriptFile traced _ scene).trans (written_map_of_unlike ?_)
    exact fun later mem => mt scriptFile_name_eq_iff.1 (unlike later mem)
  trace := by
    rintro rfl
    refine (written_traceFile _ scene).trans (written_map_of_unlike ?_)
    exact fun later mem => mt traceFile_name_eq_iff.1 (unlike later mem)

/-- The script of a scene is in no file at all once a later one has been written in its place. -/
theorem written_ne_script {later : CompiledScene} (traced : Bool)
    (valid : ∀ s ∈ before ++ scene :: after, s.id.IsValid)
    (distinct : ∀ other ∈ after, scene.id ≠ other.id) (mem : later ∈ after)
    (alike : later.id.fileStem = scene.id.fileStem) (name : String) :
    written (files traced (before ++ scene :: after)) name ≠ some scene.script := by
  have telling {other : CompiledScene} (mem : other ∈ before ++ scene :: after)
      (same : other.script = scene.script) : other.id = scene.id :=
    CompiledScene.id_eq_of_script_eq (valid other mem) (valid scene (by simp)) same
  intro kept
  obtain ⟨file, fileMem, rfl, content⟩ := exists_of_written kept
  rcases List.mem_append.1 fileMem with script | trace
  · obtain ⟨other, otherMem, rfl⟩ := List.mem_map.1 script
    have name : (scriptFile other).name = (scriptFile scene).name :=
      scriptFile_name_eq_iff.2 (congrArg Identifier.fileStem (telling otherMem content))
    rw [name, written_scriptFile, written_map, Option.or_eq_some_iff] at kept
    rcases kept with kept | ⟨none, -⟩
    · obtain ⟨file, fileMem, -, content⟩ := exists_of_written kept
      obtain ⟨last, lastMem, rfl⟩ := List.mem_map.1 fileMem
      exact distinct last lastMem (telling (by simp [lastMem]) content).symm
    · exact written_eq_none_iff.1 none _ (List.mem_map_of_mem mem) (scriptFile_name_eq_iff.2 alike)
  · obtain ⟨other, rfl⟩ := exists_traceFile trace
    exact CompiledScene.trace_ne_script content

/-! ## Scenes of a document -/

theorem isValid_of_compileAll {language : String} {sources : List Scene}
    (compiles : compileAll language sources = .ok scenes) : ∀ scene ∈ scenes, scene.id.IsValid := by
  intro scene mem
  have sources := (compileAll_eq_ok_iff.1 compiles).flip
  obtain ⟨source, compiled⟩ := exists_forall₂_iff.1 ⟨_, sources⟩ scene mem
  exact Identifier.isValid_of_parse (Scene.identifier_of_compile compiled)

theorem id_ne_of_pairwise (distinct : (before ++ scene :: after).Pairwise (·.id ≠ ·.id)) :
    ∀ later ∈ after, scene.id ≠ later.id :=
  (List.pairwise_cons.1 (List.pairwise_append.1 distinct).2.1).1

/-- Scenes with different identifiers share their files when the identifiers are alike. The last one
of them keeps its files, and the scripts of the others are in no file. No files are shared if there
are no underscores in the namespaces, and no underscores or no slashes in the paths. -/
theorem own_files_iff {language : String} {sources : List Scene}
    (compiles : compileAll language sources = .ok scenes)
    (distinct : scenes.Pairwise (·.id ≠ ·.id)) (traced : Bool) :
    (∀ a ∈ scenes, ∀ b ∈ scenes,
      (scriptFile a).name = (scriptFile b).name ↔ a.id.Alike b.id) ∧
    (∀ before scene after, scenes = before ++ scene :: after →
      (HasFiles (written (files traced scenes)) traced scene ↔
        ∀ later ∈ after, ¬later.id.Alike scene.id) ∧
      ((∃ name, written (files traced scenes) name = some scene.script) →
        HasFiles (written (files traced scenes)) traced scene)) ∧
    ((∀ scene ∈ scenes, '_' ∉ scene.id.space.toList) →
      ((∀ scene ∈ scenes, '_' ∉ scene.id.path.toList) ∨
        ∀ scene ∈ scenes, '/' ∉ scene.id.path.toList) →
      ∀ scene ∈ scenes, HasFiles (written (files traced scenes)) traced scene) := by
  have valid := isValid_of_compileAll compiles
  refine ⟨fun a ha b hb => ?_, ?_, ?_⟩
  · rw [scriptFile_name_eq_iff, Identifier.fileStem_eq_iff (valid a ha) (valid b hb)]
  · rintro before scene after rfl
    have unlike_of_kept (kept : ∃ name,
        written (files traced (before ++ scene :: after)) name = some scene.script) :
        ∀ later ∈ after, later.id.fileStem ≠ scene.id.fileStem := by
      obtain ⟨name, kept⟩ := kept
      exact fun later mem alike =>
        written_ne_script traced valid (id_ne_of_pairwise distinct) mem alike name kept
    have alike (later : CompiledScene) (mem : later ∈ after) :
        later.id.fileStem = scene.id.fileStem ↔ later.id.Alike scene.id :=
      Identifier.fileStem_eq_iff (valid later (by simp [mem])) (valid scene (by simp))
    refine ⟨⟨fun has later mem => ?_, fun unlike => ?_⟩, fun kept => ?_⟩
    · rw [← alike later mem]
      exact unlike_of_kept ⟨_, has.script⟩ later mem
    · exact hasFiles_of_unlike traced fun later mem => mt (alike later mem).1 (unlike later mem)
    · exact hasFiles_of_unlike traced (unlike_of_kept kept)
  · intro spaces paths scene mem
    obtain ⟨before, after, rfl⟩ := List.append_of_mem mem
    refine hasFiles_of_unlike traced fun later laterMem same => ?_
    have there : later ∈ before ++ scene :: after := by simp [laterMem]
    apply id_ne_of_pairwise distinct later laterMem
    refine (Identifier.eq_of_fileStem_eq ⟨spaces _ there, spaces _ mem⟩ ?_ same).symm
    exact paths.imp (fun free => ⟨free _ there, free _ mem⟩) fun free => ⟨free _ there, free _ mem⟩

/-- A scene that has no steps, and one item to be shown for. -/
def emptyScene (id : String) : Scene :=
  { id, items := ["demo:lid"] }

theorem exists_compileAll_emptyScene {first second : String} {p q : Identifier}
    (hp : Identifier.parse first = .ok p) (hq : Identifier.parse second = .ok q) :
    ∃ a b, compileAll "en_us" [emptyScene first, emptyScene second] = .ok [a, b] ∧
      a.id = p ∧ b.id = q :=
  ⟨_, _, compileAll_eq_ok_iff.2 (.cons (Scene.compile_eq_ok_iff.2 ⟨p, hp, rfl⟩)
    (.cons (Scene.compile_eq_ok_iff.2 ⟨q, hq, rfl⟩) .nil)), rfl, rfl⟩

/-- Separators in the same places do no harm where letters differ. -/
theorem own_files_half_open :
    ∃ a b, compileAll "en_us" [emptyScene "demo:half_open", emptyScene "demo:half/shut"] =
        .ok [a, b] ∧ a.id ≠ b.id ∧ ¬b.id.Alike a.id ∧
      HasFiles (written (files true [a, b])) true a ∧
      HasFiles (written (files true [a, b])) true b := by
  have first : Identifier.parse "demo:half_open" = .ok ⟨"demo", "half_open"⟩ := by decide
  have second : Identifier.parse "demo:half/shut" = .ok ⟨"demo", "half/shut"⟩ := by decide
  obtain ⟨a, b, compiles, ha, hb⟩ := exists_compileAll_emptyScene first second
  have distinct : a.id ≠ b.id := by rw [ha, hb]; decide
  obtain ⟨names, kept, -⟩ := own_files_iff compiles (by simpa using distinct) true
  have unlike : ¬b.id.Alike a.id := by
    rw [← names b (by simp) a (by simp), scriptFile_name_eq_iff, ha, hb]
    decide
  exact ⟨a, b, compiles, distinct, unlike, (kept [] a [b] rfl).1.2 (by simpa using unlike),
    (kept [a] b [] rfl).1.2 (by simp)⟩

/-- A slash in place of an underscore gives the same name, and the first script is lost. -/
theorem own_files_overwritten :
    ∃ a b, compileAll "en_us" [emptyScene "demo:lid_open", emptyScene "demo:lid/open"] =
        .ok [a, b] ∧ a.id ≠ b.id ∧ (scriptFile a).name = (scriptFile b).name ∧
      ∀ name, written (files true [a, b]) name ≠ some a.script := by
  have first : Identifier.parse "demo:lid_open" = .ok ⟨"demo", "lid_open"⟩ := by decide
  have second : Identifier.parse "demo:lid/open" = .ok ⟨"demo", "lid/open"⟩ := by decide
  obtain ⟨a, b, compiles, ha, hb⟩ := exists_compileAll_emptyScene first second
  have distinct : a.id ≠ b.id := by rw [ha, hb]; decide
  have alike : b.id.fileStem = a.id.fileStem := by rw [ha, hb]; decide
  refine ⟨a, b, compiles, distinct, scriptFile_name_eq_iff.2 alike.symm, ?_⟩
  have valid : ∀ scene ∈ [] ++ a :: [b], scene.id.IsValid := isValid_of_compileAll compiles
  exact written_ne_script true valid (by simpa using distinct) (List.mem_singleton.2 rfl) alike

end Output

end Storyboard
