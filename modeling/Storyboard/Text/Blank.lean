/-!
# Blank characters

The characters of the White_Space property, and the cutting of them from the ends of a text.

## Main definitions

* `isBlank`: the property.
* `trim`: a text without the blanks at its ends.
-/

namespace Storyboard

/-- A set of characters, given by the first and last code point of each run. -/
abbrev CodeRanges := List (Nat × Nat)

def CodeRanges.contains (ranges : CodeRanges) (c : Char) : Bool :=
  ranges.any fun (first, last) => first ≤ c.toNat && c.toNat ≤ last

/-- The code points of the White_Space property. -/
def blankRanges : CodeRanges :=
  [(0x9, 0xd), (0x20, 0x20), (0x85, 0x85), (0xa0, 0xa0), (0x1680, 0x1680), (0x2000, 0x200a),
   (0x2028, 0x2029), (0x202f, 0x202f), (0x205f, 0x205f), (0x3000, 0x3000)]

def isBlank (c : Char) : Bool :=
  blankRanges.contains c

/-- The list without the blanks at its start and at its end. -/
def trimChars (cs : List Char) : List Char :=
  ((cs.dropWhile isBlank).reverse.dropWhile isBlank).reverse

/-- The text without the blanks at its start and at its end. -/
def trim (s : String) : String :=
  String.ofList (trimChars s.toList)

end Storyboard
