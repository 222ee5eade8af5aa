/-
  This file defines blank characters: those with the Unicode
  property `White_Space`.

  Key definitions include:
    * `Gantry.Text.isBlank`
    * `Gantry.Text.trim`
    * `Gantry.Text.isAllBlank`
-/

------------------------------------------------------------
-- Blank Characters
------------------------------------------------------------

namespace Gantry

namespace Text

/- The ranges of the property `White_Space`, ascending. -/
def blankRanges : List (Nat × Nat) :=
  [(0x0009, 0x000D), (0x0020, 0x0020), (0x0085, 0x0085),
   (0x00A0, 0x00A0), (0x1680, 0x1680), (0x2000, 0x200A),
   (0x2028, 0x2029), (0x202F, 0x202F), (0x205F, 0x205F),
   (0x3000, 0x3000)]

/- A character that separates and does not show. -/
def isBlank
    (c : Char) : Bool :=
  blankRanges.any fun (first, last) =>
    first ≤ c.toNat && c.toNat ≤ last

/- Drop the blank characters at both ends. -/
def trimChars
    (cs : List Char) : List Char :=
  ((cs.dropWhile isBlank).reverse.dropWhile
    isBlank).reverse

/- A text without the blank characters at its ends. -/
def trim
    (text : String) : String :=
  String.ofList (trimChars text.toList)

/- A text of blank characters only. -/
def isAllBlank
    (text : String) : Bool :=
  text.toList.all isBlank

end Text

end Gantry
