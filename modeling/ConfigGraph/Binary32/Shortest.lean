/-
  ConfigGraph.Binary32.Shortest
  ────────────────────────────────
  **THE SHORTEST TEXT THAT READS BACK.**

  A finite number is written with the fewest digits that identify it: the
  coarsest decimal grid on which one of the number's two neighbours reads
  back to the number itself gives the digits.  If both do, the nearer one is
  written, and of two equally near the greater.  The text is positional
  whatever its length, has no point when the number is whole, and keeps the
  sign of zero.

  Reading back is decided by the reader itself, so what `shortest` selects on
  a grid reads back by construction.

  Main definitions: `Binary32.shortest`, `Binary32.text`.
-/
import ConfigGraph.Binary32.Numeral

namespace ConfigGraph.Binary32

/-! ## §1. Which digits. -/

/-- The value of place `b`, counted in steps of `10^exponent`, as a quotient of naturals. -/
def onGrid (b : Nat) (exponent : Int) : Nat × Nat :=
  if 0 ≤ exponent then (units b, Nat.pow 2 149 * Nat.pow 10 exponent.toNat)
  else (units b * Nat.pow 10 (-exponent).toNat, Nat.pow 2 149)

/-- The decimal reads back to the magnitude at place `b`. -/
def readsBack (b digits : Nat) (exponent : Int) : Bool :=
  match Numeral.nearest false digits exponent with
  | .finite false place => place.val = b
  | _ => false

/-- The neighbour of place `b` on the grid of `10^exponent` that is written, if either
of the two reads back. -/
def neighbour? (b : Nat) (exponent : Int) : Option Nat :=
  let (num, den) := onGrid b exponent
  let below := num / den
  match readsBack b below exponent, readsBack b (below + 1) exponent with
  | true, true => some (if 2 * num < (2 * below + 1) * den then below else below + 1)
  | true, false => some below
  | false, true => some (below + 1)
  | false, false => none

/-- How many grids below the unit are tried; the least positive number is `1.4·10^−45`. -/
def gridsBelowUnit : Nat := 45

/-- The grids that are tried, coarsest first, from one above the number itself. -/
def grids (b : Nat) : List Int :=
  let top := (Nat.toDigits 10 (units b / Nat.pow 2 149)).length
  (List.range (top + gridsBelowUnit + 1)).map fun (i : Nat) => (top : Int) - (i : Int)

/-- Digits and exponent of the shortest decimal that reads back to place `b`; failing
all grids, the exact value `units b · 2^−149 = units b · 5^149 · 10^−149`. -/
def shortest (b : Nat) : Nat × Int :=
  ((grids b).findSome? fun exponent => (neighbour? b exponent).map (·, exponent)).getD
    (units b * Nat.pow 5 149, -149)

/-! ## §2. How they are laid out. -/

/-- `digits · 10^exponent` in positional notation. On the first grid with a hit the
digits end in no zero, so no zero is written behind the point in vain. -/
def positional (digits : Nat) (exponent : Int) : List Char :=
  if 0 ≤ exponent then Nat.toDigits 10 (digits * Nat.pow 10 exponent.toNat)
  else
    let places := (-exponent).toNat
    let written := Nat.toDigits 10 digits
    let padded := List.replicate (places + 1 - written.length) '0' ++ written
    let point := padded.length - places
    padded.take point ++ '.' :: padded.drop point

/-- The text of a magnitude. -/
def magnitudeText (b : Nat) : List Char :=
  if b = 0 then ['0'] else
    let (digits, exponent) := shortest b
    positional digits exponent

/-- The text of a number, as a list of characters. -/
def textChars : Binary32 → List Char
  | .nan => ['N', 'a', 'N']
  | .infinite negative => (if negative then ['-'] else []) ++ ['i', 'n', 'f']
  | .finite negative magnitude => (if negative then ['-'] else []) ++ magnitudeText magnitude.val

/-- The text of a number. -/
def text (x : Binary32) : String :=
  String.ofList x.textChars

end ConfigGraph.Binary32
