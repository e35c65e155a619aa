import Storyboard.Text.Hidden

/-!
# Quoted text

Two ways to write a text between double quotes.

## Main definitions

* `quoted`: escapes only what would end the text early; used in scripts and data patches.
* `shown`: also escapes what does not show; used in traces and in messages.
-/

namespace Storyboard

/-- A backslash goes before each quote and each backslash. -/
def escapeQuotes : List Char → List Char
  | [] => []
  | c :: cs => if c = '"' ∨ c = '\\' then '\\' :: c :: escapeQuotes cs else c :: escapeQuotes cs

/-- The characters of a text between quotes. -/
def quotedChars (cs : List Char) : List Char :=
  '"' :: (escapeQuotes cs ++ ['"'])

/-- The text between quotes. -/
def quoted (s : String) : String :=
  String.ofList (quotedChars s.toList)

/-- One character with its code point written out if it does not show. -/
def showChar (c : Char) : List Char :=
  if c = '\x00' then ['\\', '0']
  else if c = '\t' then ['\\', 't']
  else if c = '\r' then ['\\', 'r']
  else if c = '\n' then ['\\', 'n']
  else if c = '"' ∨ c = '\\' then ['\\', c]
  else if isHidden c then "\\u\x7b".toList ++ Nat.toDigits 16 c.toNat ++ ['\x7d']
  else [c]

/-- The text between quotes, with nothing hidden in it. -/
def shown (s : String) : String :=
  String.ofList ('"' :: (s.toList.flatMap showChar ++ ['"']))

end Storyboard
