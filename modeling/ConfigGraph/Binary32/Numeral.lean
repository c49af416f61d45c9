/-
  ConfigGraph.Binary32.Numeral
  ────────────────────────────────
  **READING NUMBERS.**

  A number is written as a decimal numeral or, if it has none, by its name.
  The grammar of a numeral is an optional sign, digits with at most one point
  and at least one digit on either side of it, and an optional exponent:

      [+-] (D+ | D+ '.' D* | D* '.' D+) ([eE] [+-] D+)?

  A numeral denotes a digit string times a power of ten, and its value is the
  nearest number.  Numerals whose leading digit stands far outside the range
  of the type are decided by the place of that digit, so the power of ten is
  only computed when it is small.

  Main definitions: `Numeral.parse?`, `Numeral.value`, `Binary32.read?`.
-/
import ConfigGraph.Binary32.Basic
import ConfigGraph.Text.Integer

namespace ConfigGraph

/-- A numeral that has been taken apart: `± digits · 10^exponent`. -/
structure Numeral where
  /-- A minus sign stands in front. -/
  negative : Bool
  /-- The digits read as one natural number, the point ignored. -/
  digits : Nat
  /-- The power of ten that the written exponent and the point make. -/
  exponent : Int
  deriving Repr, DecidableEq

namespace Numeral

/-! ## §1. The grammar. -/

/-- Split off an optional sign; the flag says that it was a minus sign. -/
def sign : List Char → Bool × List Char
  | '-' :: cs => (true, cs)
  | '+' :: cs => (false, cs)
  | cs => (false, cs)

/-- The exponent part: nothing, or a mark, an optional sign and digits up to the end. -/
def exponent? : List Char → Option Int
  | [] => some 0
  | c :: cs => if c = 'e' ∨ c = 'E' then Text.signed? cs else none

/-- The digits, the point and what follows them. -/
def unsigned? (negative : Bool) (cs : List Char) : Option Numeral :=
  let whole := cs.takeWhile Char.isDigit
  let rest := cs.dropWhile Char.isDigit
  let (places, rest) := match rest with
    | '.' :: rest => (rest.takeWhile Char.isDigit, rest.dropWhile Char.isDigit)
    | rest => ([], rest)
  if (whole ++ places).isEmpty then none
  else (exponent? rest).map fun written =>
    ⟨negative, Nat.ofDigitChars 10 (whole ++ places) 0, written - places.length⟩

/-- Read a numeral that fills the whole text. -/
def parse? (cs : List Char) : Option Numeral :=
  let (negative, rest) := sign cs
  unsigned? negative rest

/-! ## §2. The value. -/

/-- Powers of ten beyond which every number is infinite or zero: `10^60` is above
twice the greatest finite number, `10^−60` below half the least positive one. -/
def exponentLimit : Int := 60

/-- The nearest number to `± digits · 10^exponent`. -/
def nearest (negative : Bool) (digits : Nat) (exponent : Int) : Binary32 :=
  let leading := (Nat.toDigits 10 digits).length + exponent
  if digits = 0 then .finite negative ⟨0, Binary32.magnitudeCount_pos⟩
  else if exponentLimit < leading then .infinite negative
  else if leading < -exponentLimit then .finite negative ⟨0, Binary32.magnitudeCount_pos⟩
  else if 0 ≤ exponent then .ofRatio negative (digits * Nat.pow 10 exponent.toNat) 1
  else .ofRatio negative digits (Nat.pow 10 (-exponent).toNat)

/-- The number that the numeral denotes. -/
def value (n : Numeral) : Binary32 :=
  nearest n.negative n.digits n.exponent

end Numeral

/-! ## §3. Names. -/

namespace Binary32

/-- The names of the numbers that no numeral is written for, in any mixture of ASCII cases. -/
def named? (negative : Bool) (cs : List Char) : Option Binary32 :=
  let name := cs.map Char.toLower
  if name = "nan".toList then some .nan
  else if name = "inf".toList ∨ name = "infinity".toList then some (.infinite negative)
  else none

/-- Read a number that fills the whole text: an optional sign and a name, or a numeral. -/
def read? (cs : List Char) : Option Binary32 :=
  let (negative, rest) := Numeral.sign cs
  match named? negative rest with
  | some named => some named
  | none => (Numeral.parse? cs).map Numeral.value

end Binary32

end ConfigGraph
