/-
  ConfigGraph.Text.Integer
  ────────────────────────────────
  **INTEGER TEXTS.**

  Integer values, integer map keys and list indices share one language:
  blanks around the number are ignored, one sign is allowed, and one or more
  ASCII digits must follow.  The digits are read as a natural number of any
  size and only then compared with the 32-bit range, so no number of digits
  wraps around.  An index is such a number that is not negative (`-0` is
  index 0).

  Main definitions: `int?`, `index?` and the decimal text `ofInt`.
-/
import ConfigGraph.Text.Blank

namespace ConfigGraph.Text

/-- The value of one or more ASCII digits. -/
def digits? (cs : List Char) : Option Nat :=
  if !cs.isEmpty && cs.all Char.isDigit then some (Nat.ofDigitChars 10 cs 0) else none

/-- The value of digits behind at most one sign. -/
def signed? : List Char → Option Int
  | '-' :: cs => (digits? cs).map fun n => -(n : Int)
  | '+' :: cs => (digits? cs).map fun n => (n : Int)
  | cs => (digits? cs).map fun n => (n : Int)

/-- The number as a 32-bit word, if it fits one. -/
def fit32? (n : Int) : Option Int32 :=
  if Int32.minValue.toInt ≤ n ∧ n ≤ Int32.maxValue.toInt then some (Int32.ofInt n) else none

/-- Read an integer text. -/
def int? (s : String) : Option Int32 :=
  (signed? (trim s.toList)).bind fit32?

/-- Read a list index: an integer text whose value is not negative. -/
def index? (s : String) : Option Nat :=
  (int? s).bind fun n => if 0 ≤ n.toInt then some n.toInt.toNat else none

/-- The decimal text of a natural number. -/
def ofNat (n : Nat) : String :=
  String.ofList (Nat.toDigits 10 n)

/-- The decimal text of an integer, with a minus sign and no plus sign. -/
def ofInt (n : Int) : String :=
  if n < 0 then String.ofList ('-' :: Nat.toDigits 10 n.natAbs) else ofNat n.natAbs

end ConfigGraph.Text
