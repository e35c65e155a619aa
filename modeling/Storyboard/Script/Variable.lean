import Storyboard.Call.Link

/-!
# Variables of scripts

A script keeps each independent section in a variable. A link with a name has one variable for the
whole segment; a section without a name gets a new one each time.

## Main definitions

* `Script.Names`: the variables in use.
* `Script.naming`: the naming of new sections.
-/

namespace Storyboard.Script

/-- The variables in use. -/
structure Names where
  /-- How many sections without a link there are. -/
  unnamed : Nat := 0
  /-- The variable of each link that has been used. -/
  named : List (String × String) := []
  /-- The variables that have been assigned. -/
  declared : List String := []

/-- A character that may stand in a variable. -/
def isVariableChar (c : Char) : Bool :=
  c.isAlphanum || c = '_' || c = '$'

/-- The variable that a link has if no other link gets it first. -/
def variableOf (link : String) : String :=
  "sec_" ++ String.ofList (link.toList.map fun c => if isVariableChar c then c else '_')

/-- The variable by itself, then with the numbers from two on. -/
def candidate (base : String) : Nat → String
  | 0 => base
  | n + 1 => base ++ "_" ++ toString (n + 2)

/-- The first candidate that is not taken: among one more candidate than variables there is one. -/
def untaken (taken : List String) (base : String) : String :=
  (((List.range (taken.length + 1)).map (candidate base)).find? (!taken.contains ·)).getD base

/-- A link keeps its variable, or gets one that no other link has. A section without a link gets the
next number. -/
def naming : Naming String Names where
  start := {}
  next names
    | some link => match names.named.lookup link with
      | some name => (name, { names with declared := name :: names.declared })
      | none =>
        let name := untaken (names.named.map (·.2)) (variableOf link)
        (name, { names with
          named := (link, name) :: names.named
          declared := name :: names.declared })
    | none =>
      let name := "link" ++ toString (names.unnamed + 1)
      (name, { names with
        unnamed := names.unnamed + 1
        declared := name :: names.declared })

end Storyboard.Script
