/-
  ConfigGraph.Document.Json
  ────────────────────────────────
  **READING JSON.**

  The grammar of the format and nothing beside it: no comments, no trailing
  commas, no control characters inside texts, no leading zeros, and nothing
  but blanks after the value.  Blanks are the four of JSON.

  The reader is a function of the remaining characters that returns the part
  it read and what is left.  Nesting is bounded by a count that the length of
  the document supplies: between two steps of the count at least every other
  one reads a character, so the count cannot run out first.
-/
import ConfigGraph.Document.Node
import ConfigGraph.Text.Integer

namespace ConfigGraph.Document.Json

/-! ## §1. Blanks and texts. -/

/-- The blanks of JSON. -/
def isBlank (c : Char) : Bool :=
  c = ' ' || c = '\t' || c = '\n' || c = '\r'

/-- The text behind leading blanks. -/
def skipBlanks (cs : List Char) : List Char :=
  cs.dropWhile isBlank

/-- The character of a one-letter escape. -/
def escape? : Char → Option Char
  | '"' => some '"'
  | '\\' => some '\\'
  | '/' => some '/'
  | 'b' => some '\x08'
  | 'f' => some '\x0c'
  | 'n' => some '\n'
  | 'r' => some '\r'
  | 't' => some '\t'
  | _ => none

/-- The inside of a text up to the closing quote, as code points and surrogates, and what
is left. -/
def textBody : List Char → Option (List Nat × List Char)
  | [] => none
  | '"' :: cs => some ([], cs)
  | '\\' :: 'u' :: a :: b :: c :: d :: cs =>
      (hexDigits? [a, b, c, d]).bind fun unit =>
        (textBody cs).map fun (units, rest) => (unit :: units, rest)
  | '\\' :: c :: cs =>
      (escape? c).bind fun c =>
        (textBody cs).map fun (units, rest) => (c.toNat :: units, rest)
  | c :: cs =>
      if c.toNat < 0x20 then none
      else (textBody cs).map fun (units, rest) => (c.toNat :: units, rest)

/-- The characters that units write; a surrogate without its partner writes none. -/
def characters? : List Nat → Option (List Char)
  | [] => some []
  | [unit] => if 0xD800 ≤ unit ∧ unit < 0xE000 then none else some [Char.ofNat unit]
  | unit :: next :: rest =>
      if 0xD800 ≤ unit ∧ unit < 0xDC00 then
        if 0xDC00 ≤ next ∧ next < 0xE000 then
          (characters? rest).map fun cs =>
            Char.ofNat (0x10000 + (unit - 0xD800) * 0x400 + (next - 0xDC00)) :: cs
        else none
      else if 0xDC00 ≤ unit ∧ unit < 0xE000 then none
      else (characters? (next :: rest)).map fun cs => Char.ofNat unit :: cs

/-- The text behind an opening quote, and what is left. -/
def text (cs : List Char) : Option (Option String × List Char) :=
  (textBody cs).map fun (units, rest) => ((characters? units).map String.ofList, rest)

/-! ## §2. Numbers. -/

/-- What is left behind one or more digits. -/
def digits (cs : List Char) : Option (List Char) :=
  match cs with
  | c :: rest => if c.isDigit then some (rest.dropWhile Char.isDigit) else none
  | [] => none

/-- What is left behind an optional fraction. -/
def fraction : List Char → Option (List Char)
  | '.' :: cs => digits cs
  | cs => some cs

/-- What is left behind an optional exponent. -/
def exponent : List Char → Option (List Char)
  | c :: cs =>
      if c = 'e' ∨ c = 'E' then
        match cs with
        | '+' :: cs => digits cs
        | '-' :: cs => digits cs
        | cs => digits cs
      else some (c :: cs)
  | [] => some []

/-- What is left behind a number without its sign. A zero in front stands alone. -/
def unsigned : List Char → Option (List Char)
  | '0' :: c :: cs => if c.isDigit then none else (fraction (c :: cs)).bind exponent
  | cs => ((digits cs).bind fraction).bind exponent

/-- What is left behind a number. -/
def number : List Char → Option (List Char)
  | '-' :: cs => unsigned cs
  | cs => unsigned cs

/-! ## §3. Values. -/

mutual

/-- A value with no blanks in front, and what is left. -/
def value : Nat → List Char → Option (Node × List Char)
  | 0, _ => none
  | count + 1, cs =>
      match cs with
      | '"' :: cs => (text cs).map fun (s, rest) => (.text s, rest)
      | '[' :: cs =>
          match skipBlanks cs with
          | ']' :: rest => some (.array [], rest)
          | cs => (items count cs).map fun (nodes, rest) => (.array nodes, rest)
      | '\x7b' :: cs =>
          match skipBlanks cs with
          | '\x7d' :: rest => some (.table [], rest)
          | cs => (members count cs).map fun (nodes, rest) => (.table nodes, rest)
      | 't' :: 'r' :: 'u' :: 'e' :: rest => some (.bool true, rest)
      | 'f' :: 'a' :: 'l' :: 's' :: 'e' :: rest => some (.bool false, rest)
      | 'n' :: 'u' :: 'l' :: 'l' :: rest => some (.null, rest)
      | cs => (number cs).map fun rest => (.number, rest)

/-- The items of an array up to its end, and what is left. -/
def items : Nat → List Char → Option (List Node × List Char)
  | 0, _ => none
  | count + 1, cs =>
      (value count cs).bind fun (node, rest) =>
        match skipBlanks rest with
        | ']' :: rest => some ([node], rest)
        | ',' :: rest =>
            (items count (skipBlanks rest)).map fun (nodes, rest) => (node :: nodes, rest)
        | _ => none

/-- The members of an object up to its end, and what is left. -/
def members : Nat → List Char → Option (List (Option String × Node) × List Char)
  | 0, _ => none
  | count + 1, cs =>
      match cs with
      | '"' :: cs =>
          (text cs).bind fun (key, rest) =>
            match skipBlanks rest with
            | ':' :: rest =>
                (value count (skipBlanks rest)).bind fun (node, rest) =>
                  match skipBlanks rest with
                  | '\x7d' :: rest => some ([(key, node)], rest)
                  | ',' :: rest =>
                      (members count (skipBlanks rest)).map fun (nodes, rest) =>
                        ((key, node) :: nodes, rest)
                  | _ => none
            | _ => none
      | _ => none

end

/-- Read a document. -/
def parse? (document : String) : Option Node :=
  let cs := document.toList
  match value (2 * cs.length + 1) (skipBlanks cs) with
  | some (node, rest) => if (skipBlanks rest).isEmpty then some node else none
  | none => none

end ConfigGraph.Document.Json
