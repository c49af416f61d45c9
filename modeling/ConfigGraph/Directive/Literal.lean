/-
  ConfigGraph.Directive.Literal
  ────────────────────────────────
  **LITERALS.**

  How raw values are read for each leaf type.  Integers are in
  `Text.Integer`.  Every text is a truth value: it is true when it spells
  `true` in any mixture of cases, blanks not allowed, and false otherwise.
  Numbers allow blanks around them.  Not-a-number and the infinities have one
  spelling each, apart from a plus sign; their other names are kept from the
  reader of numbers, which only gets to see characters that numerals have.
  So the text that an infinity is written with does not read back.

  Vectors are written in parentheses that may have nothing around them, with
  commas between components.  Their defects are looked for in a fixed order:
  the parentheses, then the number of components, then each component.
-/
import ConfigGraph.Binary32.Shortest
import ConfigGraph.Directive.Fault

namespace ConfigGraph.Literal

/-- Read a truth value. Only ASCII letters have cases here. -/
def bool (raw : String) : Bool :=
  raw.toList.map Char.toLower = ['t', 'r', 'u', 'e']

/-- A character that numerals are written with. -/
def isNumeralChar (c : Char) : Bool :=
  c.isDigit || ['+', '-', '.', 'e', 'E'].contains c

/-- Read a number from characters. -/
def floatChars? (raw : List Char) : Option Binary32 :=
  let text := Text.trim raw
  if text = "NaN".toList then some .nan
  else if text = "Infinity".toList ∨ text = "+Infinity".toList then some (.infinite false)
  else if text = "-Infinity".toList then some (.infinite true)
  else if text.all isNumeralChar then Binary32.read? text
  else none

/-- Read a number. -/
def float? (raw : String) : Option Binary32 :=
  floatChars? raw.toList

/-- What stands between an opening parenthesis at the beginning and a closing one at the end. -/
def enclosed? : List Char → Option (List Char)
  | '(' :: rest => if rest.getLast? = some ')' then some rest.dropLast else none
  | _ => none

/-- Read a vector of the given size. -/
def vector (dim : Dim) (raw : String) : Except ParseIssue (List Binary32) :=
  match enclosed? raw.toList with
  | none => .error .missingParentheses
  | some inner =>
      let parts := inner.splitOn ','
      if parts.length = dim.size then
        match parts.mapM floatChars? with
        | some components => .ok components
        | none => .error .malformed
      else .error (.wrongArity dim.size parts.length)

/-- The text of a vector: its components between parentheses, a comma and a space apart. -/
def vectorText (components : List Binary32) : String :=
  "(" ++ ", ".intercalate (components.map Binary32.text) ++ ")"

/-- The text of a truth value. -/
def boolText (b : Bool) : String :=
  if b then "true" else "false"

end ConfigGraph.Literal
