/-
  ConfigGraph.Text.Blank
  ────────────────────────────────
  **WHITE SPACE AND TRIMMING.**

  Raw values, list indices and integer keys are read with the blanks around
  them ignored.  A character is blank when it has the Unicode property
  `White_Space` (version 15: 25 code points in ten ranges), so the no-break
  space and the ideographic space count and the zero-width space does not.

  Texts are taken apart as lists of characters throughout the library; the
  functions on `String` are thin wrappers that convert once.
-/

namespace ConfigGraph.Text

/-! ## §1. The table. -/

/-- The closed ranges of code points that are white space, ascending and apart. -/
def blankRanges : List (Nat × Nat) :=
  [(0x09, 0x0D), (0x20, 0x20), (0x85, 0x85), (0xA0, 0xA0), (0x1680, 0x1680),
   (0x2000, 0x200A), (0x2028, 0x2029), (0x202F, 0x202F), (0x205F, 0x205F),
   (0x3000, 0x3000)]

/-- A character of the table. -/
def isBlank (c : Char) : Bool :=
  blankRanges.any fun range => range.1 ≤ c.toNat && c.toNat ≤ range.2

/-! ## §2. Trimming. -/

/-- The text without its leading blanks. -/
def trimStart (cs : List Char) : List Char :=
  cs.dropWhile isBlank

/-- The text without its trailing blanks. -/
def trimEnd (cs : List Char) : List Char :=
  (cs.reverse.dropWhile isBlank).reverse

/-- The text without the blanks at either end. -/
def trim (cs : List Char) : List Char :=
  trimEnd (trimStart cs)

/-- A text that holds nothing but blanks, such as what is left of a bare operator token. -/
def isBlankText (s : String) : Bool :=
  s.toList.all isBlank

end ConfigGraph.Text
