import Storyboard.Compile
import Storyboard.Scene.Document
import Storyboard.Script.Line
import Storyboard.Trace

/-!
# Output files

The script and the trace of a compiled scene, and the files of a whole document.

## Main definitions

* `CompiledScene.script`, `CompiledScene.trace`: the texts.
* `Output.files`: the files of the compiled scenes.
* `Output.build`: the files of a document.
-/

namespace Storyboard

namespace CompiledScene

/-- The lines with their ends. -/
def unlines (lines : List String) : String :=
  String.join (lines.map (· ++ "\n"))

/-- The part of a script that adds one segment, without the end of its last line. -/
def segmentScript (s : CompiledSegment) : String :=
  "        .scene(" ++ quoted s.id ++ ", " ++ quoted s.title ++ ", " ++ quoted s.template.text ++
    ", (scene, util) => \x7b\n" ++
    unlines ((Script.lines s.segment.steps).flatten.map ("            " ++ ·)) ++
    "        \x7d)"

/-- The script of a scene: what went wrong as comments, then one registration with all segments. -/
def script (scene : CompiledScene) : String :=
  unlines (("// Auto-generated from " ++ scene.id.text ++ " – DO NOT EDIT") ::
    scene.warnings.map fun (index, cause) =>
      "// segment " ++ toString (index + 1) ++ ": " ++ cause.message) ++
    "\nPonder.registry((event) => \x7b\n" ++
    "    event.create([" ++ ", ".intercalate (scene.triggers.map quoted) ++ "])" ++
    String.join (scene.segments.map fun s => "\n" ++ segmentScript s) ++
    ";\n\x7d);\n"

def warningLine (w : Warning) : String :=
  "! step " ++ toString w.index ++ " (" ++ w.kind ++ "): " ++ w.fault.message

/-- The trace of a segment: a heading, the calls, and the steps left out. -/
def segmentTrace (s : CompiledSegment) : String :=
  let trace := Trace.play s.segment.steps
  unlines (("== " ++ s.id ++ " (" ++ s.template.text ++ ") ==") ::
    (trace.lines ++ trace.warnings.map warningLine))

/-- The trace of a scene. -/
def trace (scene : CompiledScene) : String :=
  String.join (scene.segments.map segmentTrace)

end CompiledScene

namespace Output

/-- Why a document gives no files. -/
inductive Error where
  | document (cause : Document.Error)
  | scene (cause : CompileError)

/-- A file with its name and its content. -/
structure File where
  name : String
  content : String

def scriptFile (scene : CompiledScene) : File :=
  ⟨scene.id.fileStem ++ ".js", scene.script⟩

def traceFile (scene : CompiledScene) : File :=
  ⟨scene.id.fileStem ++ ".trace.txt", scene.trace⟩

/-- The files of compiled scenes in the order of writing: all scripts, then the traces that were
asked for. -/
def files (traced : Bool) (scenes : List CompiledScene) : List File :=
  scenes.map scriptFile ++ if traced then scenes.map traceFile else []

/-- The files of a document. -/
def build (language : String) (traced : Bool) (document : String) : Except Error (List File) :=
  match Document.load document with
  | .error cause => .error (.document cause)
  | .ok scenes => match compileAll language scenes with
    | .error cause => .error (.scene cause)
    | .ok compiled => .ok (files traced compiled)

end Output

end Storyboard
