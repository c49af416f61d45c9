/-
  ConfigGraph.Document.Toml.Scalar
  ────────────────────────────────
  **TOML: NUMBERS, DATES AND TIMES.**

  Nothing is ever decoded from a number, a date or a time, so the functions
  here only find out where one ends.  What they do check is what makes a
  document invalid: leading zeros, misplaced underscores, integers beyond 64
  bits, days that a month does not have, and hours, minutes and seconds out
  of range.
-/
import ConfigGraph.Document.Toml.Text

namespace ConfigGraph.Document.Toml

/-! ## §1. Digits. -/

/-- The digits that follow a first one, single underscores between digits left out, and
what is left. -/
def moreDigits (isDigit : Char → Bool) : List Char → List Char × List Char
  | '_' :: c :: cs =>
      if isDigit c then
        let (digits, rest) := moreDigits isDigit cs
        (c :: digits, rest)
      else ([], '_' :: c :: cs)
  | c :: cs =>
      if isDigit c then
        let (digits, rest) := moreDigits isDigit cs
        (c :: digits, rest)
      else ([], c :: cs)
  | [] => ([], [])

/-- One or more digits. -/
def digitRun? (isDigit : Char → Bool) : List Char → Option (List Char × List Char)
  | c :: cs =>
      if isDigit c then
        let (digits, rest) := moreDigits isDigit cs
        some (c :: digits, rest)
      else none
  | [] => none

/-- An optional sign; the flag says that it was a minus sign. -/
def sign : List Char → Bool × List Char
  | '-' :: cs => (true, cs)
  | '+' :: cs => (false, cs)
  | cs => (false, cs)

/-- Decimal digits without a zero in front of others. -/
def decimal? : List Char → Option (List Char × List Char)
  | '0' :: cs => some (['0'], cs)
  | cs => digitRun? Char.isDigit cs

/-! ## §2. Integers. -/

/-- A digit below the given base, which is at most sixteen. -/
def isDigitOf (base : Nat) (c : Char) : Bool :=
  match hexDigits? [c] with
  | some d => d < base
  | none => false

/-- What is left behind the digits of a number in a base, if it fits 64 bits. -/
def basedInteger? (base : Nat) (cs : List Char) : Option (List Char) :=
  (digitRun? (isDigitOf base) cs).bind fun (digits, rest) =>
    let value := digits.foldl (fun n c => base * n + (hexDigits? [c]).getD 0) 0
    if value < Nat.pow 2 63 then some rest else none

/-- What is left behind an integer. -/
def integer? : List Char → Option (List Char)
  | '0' :: 'x' :: cs => basedInteger? 16 cs
  | '0' :: 'o' :: cs => basedInteger? 8 cs
  | '0' :: 'b' :: cs => basedInteger? 2 cs
  | cs =>
      let (negative, cs) := sign cs
      (decimal? cs).bind fun (digits, rest) =>
        let value := Nat.ofDigitChars 10 digits 0
        if value < Nat.pow 2 63 ∨ (negative ∧ value = Nat.pow 2 63) then some rest else none

/-! ## §3. Fractional numbers. -/

/-- Digits with a power of ten that round to infinity in 64 bits: halfway from the
greatest finite number to the next power of two, or above. -/
def overflows (digits : Nat) (exponent : Int) : Bool :=
  let bound := Nat.pow 2 1024 - Nat.pow 2 970
  let leading := (Nat.toDigits 10 digits).length + exponent
  if digits = 0 then false
  else if 400 < leading then true
  else if leading < 300 then false
  else if 0 ≤ exponent then decide (bound ≤ digits * Nat.pow 10 exponent.toNat)
  else decide (bound * Nat.pow 10 (-exponent).toNat ≤ digits)

/-- The fraction behind a whole number, if there is one. -/
def fraction? : List Char → Option (List Char × List Char)
  | '.' :: cs => digitRun? Char.isDigit cs
  | _ => none

/-- The exponent behind a number, if there is one. -/
def exponent? : List Char → Option (Int × List Char)
  | c :: cs =>
      if c = 'e' ∨ c = 'E' then
        let (negative, cs) := sign cs
        (digitRun? Char.isDigit cs).map fun (digits, rest) =>
          let value : Int := Nat.ofDigitChars 10 digits 0
          (if negative then -value else value, rest)
      else none
  | [] => none

/-- What is left behind a number with a fraction or an exponent. A positive number that
rounds to infinity is refused. -/
def fractional? (cs : List Char) : Option (List Char) :=
  let (negative, cs) := sign cs
  (decimal? cs).bind fun (whole, rest) =>
    let (places, rest, hasFraction) := match fraction? rest with
      | some (places, rest) => (places, rest, true)
      | none => ([], rest, false)
    let (exponent, rest, hasExponent) := match exponent? rest with
      | some (exponent, rest) => (exponent, rest, true)
      | none => (0, rest, false)
    if !hasFraction && !hasExponent then none
    else if !negative &&
        overflows (Nat.ofDigitChars 10 (whole ++ places) 0) (exponent - places.length) then none
    else some rest

/-- What is left behind an infinity or not-a-number. -/
def special? (cs : List Char) : Option (List Char) :=
  match (sign cs).2 with
  | 'i' :: 'n' :: 'f' :: rest => some rest
  | 'n' :: 'a' :: 'n' :: rest => some rest
  | _ => none

/-! ## §4. Dates and times. -/

/-- A number of exactly `count` digits, within bounds. -/
def fixed? (count low high : Nat) (cs : List Char) : Option (Nat × List Char) :=
  let digits := cs.take count
  if digits.length = count ∧ digits.all Char.isDigit then
    let n := Nat.ofDigitChars 10 digits 0
    if low ≤ n ∧ n ≤ high then some (n, cs.drop count) else none
  else none

/-- What is left behind a given character. -/
def behind? (c : Char) : List Char → Option (List Char)
  | d :: cs => if c = d then some cs else none
  | [] => none

/-- The number of days of a month. -/
def daysOf (year month : Nat) : Nat :=
  if month = 2 then
    if year % 4 = 0 ∧ (year % 100 ≠ 0 ∨ year % 400 = 0) then 29 else 28
  else if month = 4 ∨ month = 6 ∨ month = 9 ∨ month = 11 then 30
  else 31

/-- What is left behind a date. -/
def date? (cs : List Char) : Option (List Char) := do
  let (year, cs) ← fixed? 4 0 9999 cs
  let cs ← behind? '-' cs
  let (month, cs) ← fixed? 2 1 12 cs
  let cs ← behind? '-' cs
  let (_, cs) ← fixed? 2 1 (daysOf year month) cs
  return cs

/-- What is left behind a time of day. -/
def time? (cs : List Char) : Option (List Char) := do
  let (_, cs) ← fixed? 2 0 23 cs
  let cs ← behind? ':' cs
  let (_, cs) ← fixed? 2 0 59 cs
  let cs ← behind? ':' cs
  let (_, cs) ← fixed? 2 0 60 cs
  match cs with
  | '.' :: c :: rest =>
      if c.isDigit then return rest.dropWhile Char.isDigit else return cs
  | _ => return cs

/-- What is left behind an offset from universal time. -/
def offset? : List Char → Option (List Char)
  | 'Z' :: cs => some cs
  | 'z' :: cs => some cs
  | c :: cs =>
      if c = '+' ∨ c = '-' then do
        let (_, cs) ← fixed? 2 0 23 cs
        let cs ← behind? ':' cs
        let (_, cs) ← fixed? 2 0 59 cs
        return cs
      else none
  | [] => none

/-- What is left behind a date, a time, or a date and a time with or without an offset. -/
def moment? (cs : List Char) : Option (List Char) :=
  match date? cs with
  | none => time? cs
  | some rest =>
      match rest with
      | c :: behind =>
          if c = 'T' ∨ c = 't' ∨ c = ' ' then
            match time? behind with
            | some rest => some ((offset? rest).getD rest)
            | none => some rest
          else some rest
      | [] => some rest

/-- A number, date or time, a truth value included, and what is left. -/
def scalar? (cs : List Char) : Option (Node × List Char) :=
  match cs with
  | 't' :: 'r' :: 'u' :: 'e' :: rest => some (.bool true, rest)
  | 'f' :: 'a' :: 'l' :: 's' :: 'e' :: rest => some (.bool false, rest)
  | cs =>
      match moment? cs with
      | some rest => some (.moment, rest)
      | none =>
          match fractional? cs, special? cs, integer? cs with
          | some rest, _, _ => some (.number, rest)
          | none, some rest, _ => some (.number, rest)
          | none, none, some rest => some (.number, rest)
          | none, none, none => none

end ConfigGraph.Document.Toml
