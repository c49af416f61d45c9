/-
  ConfigGraph.Text.Quoted
  ────────────────────────────────
  **QUOTED TEXT.**

  Descriptions of shapes, overrides and registries show names between double
  quotes.  A quote or backslash inside is escaped by a backslash; tab, line
  feed, carriage return and NUL have a letter; every other character that
  has no visible form of its own is written by its code point.
-/
import ConfigGraph.Text.Unprintable

namespace ConfigGraph.Text

/-- The letter that stands for a character behind a backslash. -/
def escapeLetter? : Char → Option Char
  | '"' => some '"'
  | '\\' => some '\\'
  | '\t' => some 't'
  | '\n' => some 'n'
  | '\r' => some 'r'
  | '\x00' => some '0'
  | _ => none

/-- One character of a quoted text. -/
def quotedChar (c : Char) : List Char :=
  match escapeLetter? c with
  | some letter => ['\\', letter]
  | none =>
      if isUnprintable c then ['\\', 'u', '\x7b'] ++ Nat.toDigits 16 c.toNat ++ ['\x7d']
      else [c]

/-- The text between double quotes. -/
def quoted (s : String) : String :=
  String.ofList ('"' :: s.toList.flatMap quotedChar ++ ['"'])

end ConfigGraph.Text
