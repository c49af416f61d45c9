/-
  ConfigGraph.Binary32.Basic
  ────────────────────────────────
  **32-BIT FLOATING-POINT NUMBERS, EXACTLY.**

  A number is stored as what it is, not as a machine word that proofs cannot
  open: not-a-number, an infinity, or a sign with a MAGNITUDE.  Finite
  magnitudes are numbered in ascending order from 0 (zero) to `255·2^23 − 1`
  (the greatest finite one): eight bits of exponent above twenty-three bits
  of fraction.  Every finite value is a natural multiple of the least
  positive one, `2^−149`; `units` says which multiple.

  Rounding works on a quotient of naturals and is to nearest, ties to even.

  Main definitions: `Binary32`, `units`, `roundEven`, `nearestMagnitude`,
  `Binary32.ofRatio`.
-/

namespace ConfigGraph

/-! ## §1. Numbers. -/

/-- How many finite magnitudes there are. -/
abbrev magnitudeCount : Nat := 255 * Nat.pow 2 23

/-- A binary floating-point number of 32 bits. There is one not-a-number, and
zero has two signs. -/
inductive Binary32 where
  /-- Not a number. -/
  | nan
  /-- An infinity of the given sign. -/
  | infinite (negative : Bool)
  /-- A finite number: its sign and the place of its magnitude in ascending order. -/
  | finite (negative : Bool) (magnitude : Fin magnitudeCount)
  deriving Repr, DecidableEq

namespace Binary32

/-- Zero is a magnitude. -/
theorem magnitudeCount_pos : 0 < magnitudeCount := by decide

/-- Positive zero, the zero of the type. -/
def zero : Binary32 :=
  .finite false ⟨0, magnitudeCount_pos⟩

/-- The exact value of the magnitude at place `b`, counted in units of `2^−149`.
Below `2^24` places are values; above, each block of `2^23` places doubles
the step. -/
def units (b : Nat) : Nat :=
  let block := Nat.pow 2 23
  let field := b / block
  if field = 0 then b else (block + b % block) * Nat.pow 2 (field - 1)

/-! ## §2. Rounding. -/

/-- The quotient rounded to the nearest natural number, a half to the even neighbour. -/
def roundEven (num den : Nat) : Nat :=
  let floor := num / den
  let twice := 2 * (num % den)
  if den < twice ∨ (twice = den ∧ floor % 2 = 1) then floor + 1 else floor

/-- The place of the magnitude nearest to `num / den`, with no upper limit. The
quotient, counted in units, keeps its 24 leading bits; what is shifted out
decides the rounding, and a carry runs into the exponent by itself. -/
def nearestMagnitude (num den : Nat) : Nat :=
  let scaled := num * Nat.pow 2 149
  let shift := (scaled / den).log2 - 23
  shift * Nat.pow 2 23 + roundEven scaled (den * Nat.pow 2 shift)

/-- The number nearest to `± num / den`; beyond the greatest finite one, an infinity. -/
def ofRatio (negative : Bool) (num den : Nat) : Binary32 :=
  let place := nearestMagnitude num den
  if h : place < magnitudeCount then .finite negative ⟨place, h⟩ else .infinite negative

end Binary32

end ConfigGraph
