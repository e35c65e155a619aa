import Storyboard.Json.Fields

/-!
# Titles

A title is one text, or one text per language.

## Main definitions

* `Title.get?`: the text for a language.
* `Title.ofJson?`, `Title.toJson`: its stored form.
-/

namespace Storyboard

/-- One text for all languages, or a text for each of some languages. -/
inductive Title where
  | plain (text : String)
  | localized (texts : Dictionary)
deriving DecidableEq

namespace Title

/-- The language that stands in for one without a text. -/
def fallbackLanguage : String :=
  "en_us"

/-- The text for a language, else the one for the fallback language, else the first. -/
def get? (language : String) : Title → Option String
  | .plain text => some text
  | .localized texts =>
    (texts.get? language).or <| (texts.get? fallbackLanguage).or <| texts.entries.head?.map (·.2)

/-- The members of an object, all of which have to be strings. -/
def texts? : List (String × Json) → Option (List (String × String))
  | [] => some []
  | (name, .string text) :: members => (texts? members).map ((name, text) :: ·)
  | _ => none

/-- A string, or an object with strings only. -/
def ofJson? : Json → Option Title
  | .string text => some (.plain text)
  | .object members => (texts? members).map (.localized ∘ .ofList)
  | _ => none

def toJson : Title → Json
  | .plain text => .string text
  | .localized texts => .ofDictionary texts

end Title

end Storyboard
