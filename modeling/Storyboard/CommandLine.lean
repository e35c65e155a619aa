import Storyboard.Title

/-!
# Command lines

`INPUT OUTPUT [--lang LANG] [--trace]`, the options anywhere. Arguments are read from left to right,
and the first that is wrong, or that asks for information, decides.

## Main definitions

* `CommandLine.Request`: what a command line asks for.
* `CommandLine.parse`: reads the arguments.
-/

namespace Storyboard.CommandLine

/-- Where to read a document and where to write its files. -/
structure Options where
  input : String
  output : String
  language : String
  traced : Bool
deriving DecidableEq

/-- What a command line asks for. -/
inductive Request where
  | build (options : Options)
  | help
  | version
  | misuse
deriving DecidableEq

/-- The arguments read so far. -/
structure Seen where
  paths : List String := []
  language : Option String := none
  traced : Bool := false

/-- The argument is an option, and not a path or the value of another option. -/
def isOption (argument : String) : Bool :=
  match argument.toList with
  | '-' :: _ :: _ => true
  | _ => false

def Seen.addPath (seen : Seen) (path : String) : Option Seen :=
  if path = "" ∨ 2 ≤ seen.paths.length then none
  else some { seen with paths := seen.paths ++ [path] }

def Seen.setLanguage (seen : Seen) (language : String) : Option Seen :=
  if seen.language.isSome then none else some { seen with language := some language }

def Seen.setTraced (seen : Seen) : Option Seen :=
  if seen.traced then none else some { seen with traced := true }

/-- The request of all arguments: both paths are needed. -/
def Seen.request (seen : Seen) : Request :=
  match seen.paths with
  | [input, output] =>
    .build ⟨input, output, seen.language.getD Title.fallbackLanguage, seen.traced⟩
  | _ => .misuse

/-- After a double dash every argument is a path. -/
def parsePaths (seen : Seen) : List String → Request
  | [] => seen.request
  | path :: paths => match seen.addPath path with
    | some seen => parsePaths seen paths
    | none => .misuse

/-- The request for information of a short option, which is read by its first letter. -/
def shortOption (argument : String) : Request :=
  match argument.toList with
  | '-' :: 'h' :: _ => .help
  | '-' :: 'V' :: _ => .version
  | _ => .misuse

/-- The value of an option that is written with an equals sign. -/
def attached? (option argument : String) : Option String :=
  let start := option.toList ++ ['=']
  if start.isPrefixOf argument.toList then
    some (String.ofList (argument.toList.drop start.length))
  else none

/-- Reads the arguments after those seen. -/
def parseFrom (seen : Seen) : List String → Request
  | [] => seen.request
  | "--" :: paths => parsePaths seen paths
  | "--help" :: _ => .help
  | "--version" :: _ => .version
  | "--trace" :: arguments => match seen.setTraced with
    | some seen => parseFrom seen arguments
    | none => .misuse
  | ["--lang"] => .misuse
  | "--lang" :: language :: arguments =>
    if isOption language then .misuse
    else match seen.setLanguage language with
      | some seen => parseFrom seen arguments
      | none => .misuse
  | argument :: arguments =>
    match attached? "--lang" argument with
    | some language => match seen.setLanguage language with
      | some seen => parseFrom seen arguments
      | none => .misuse
    | none =>
      if isOption argument then shortOption argument
      else match seen.addPath argument with
        | some seen => parseFrom seen arguments
        | none => .misuse

/-- What a command line asks for. -/
def parse (arguments : List String) : Request :=
  parseFrom {} arguments

end Storyboard.CommandLine
