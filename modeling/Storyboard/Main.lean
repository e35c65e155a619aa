import Storyboard.CommandLine
import Storyboard.Directory
import Storyboard.Output

/-!
# The command line program

Reads a document and writes a script, and on request a trace, for each of its scenes.
-/

namespace Storyboard.Main

def usage : String :=
  "Usage: storyboard [OPTIONS] INPUT OUTPUT\n\n" ++
  "INPUT   a JSON document of scenes\n" ++
  "OUTPUT  the directory for the scripts\n\n" ++
  "--lang LANG    language of the titles (default en_us)\n" ++
  "--trace        also write a trace of the calls of each scene\n" ++
  "-h, --help     show this text\n" ++
  "-V, --version  show the version"

def versionText : String :=
  "storyboard 0.1.0"

def errorText : Output.Error → String
  | .document cause => cause.message
  | .scene cause => cause.message

/-- Makes a directory, unless it is there already. -/
def makeDirectory (path : String) : IO Unit := do
  try
    IO.FS.createDir path
  catch
    | .alreadyExists .. => IO.FS.createDirAll path
    | e => throw e

/-- Writes the files of a document; the result is the exit code. -/
def build (options : CommandLine.Options) : IO UInt32 := do
  let document ← IO.FS.readFile options.input
  match Output.build options.language options.traced document with
  | .error e =>
    IO.eprintln (errorText e)
    return 1
  | .ok files =>
    (Directory.route options.output).forM makeDirectory
    for file in files do
      IO.FS.writeFile (options.output ++ "/" ++ file.name) file.content
    return 0

end Storyboard.Main

def main (arguments : List String) : IO UInt32 := do
  match Storyboard.CommandLine.parse arguments with
  | .help =>
    IO.println Storyboard.Main.usage
    return 0
  | .version =>
    IO.println Storyboard.Main.versionText
    return 0
  | .misuse =>
    IO.eprintln Storyboard.Main.usage
    return 2
  | .build options =>
    try
      Storyboard.Main.build options
    catch e =>
      IO.eprintln (toString e)
      return 1
