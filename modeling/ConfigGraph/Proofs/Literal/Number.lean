/-
  ConfigGraph.Proofs.Literal.Number
  ────────────────────────────────
  **THE GRAMMAR OF NUMBERS.**

  A numeral is an optional sign, a mantissa and an optional exponent:

      [+-] (D+ | D+ '.' D* | D* '.' D+) ([eE] [+-] D+)?

  `Decimal` is this grammar together with what a text of it denotes, and the
  reader of numerals reads the texts of the grammar and nothing else.  The
  reader of numbers knows names as well, in any mixture of cases.

  Number literals are such texts with blanks around them, but of the names
  only four spellings are literals.  The others are kept out by looking at
  the characters: every name has an `n` in it, and no numeral has.

  Main results:
    * `Numeral.parse?_eq_some_iff`
    * `Binary32.read?_eq_some_iff`
    * `Literal.floatChars?_eq_some_iff`
-/
import Mathlib.Data.List.TakeWhile
import ConfigGraph.Directive.Literal
import ConfigGraph.Proofs.Path.Integer

namespace ConfigGraph

open Text (Sign Digits signedValue)

/-! ## §1. The grammar of numerals. -/

namespace Numeral

/-- A mantissa: its text, the digits in it, and how many of them are behind the point. -/
inductive Mantissa : List Char → List Char → Nat → Prop where
  /-- `D+` -/
  | whole {ds : List Char} (h : Digits ds) : Mantissa ds ds 0
  /-- `D+ '.' D*` -/
  | pointed {ds places : List Char} (h : Digits ds) (h' : ∀ c ∈ places, c.isDigit = true) :
      Mantissa (ds ++ '.' :: places) (ds ++ places) places.length
  /-- `D* '.' D+` -/
  | fraction {ds places : List Char} (h : ∀ c ∈ ds, c.isDigit = true) (h' : Digits places) :
      Mantissa (ds ++ '.' :: places) (ds ++ places) places.length

/-- An exponent: its text and the number it denotes. -/
inductive Exponent : List Char → Int → Prop where
  | absent : Exponent [] 0
  /-- `[eE] [+-] D+` -/
  | written {mark : Char} {sign ds : List Char} {negative : Bool} (hmark : mark = 'e' ∨ mark = 'E')
      (hsign : Sign sign negative) (h : Digits ds) :
      Exponent (mark :: (sign ++ ds)) (signedValue negative ds)

/-- The texts of numerals and what they denote. -/
inductive Decimal : List Char → Numeral → Prop where
  | mk {sign mantissa digits exponent : List Char} {negative : Bool} {places : Nat} {written : Int}
      (hsign : Sign sign negative) (hmantissa : Mantissa mantissa digits places)
      (hexponent : Exponent exponent written) :
      Decimal (sign ++ (mantissa ++ exponent))
        ⟨negative, Nat.ofDigitChars 10 digits 0, written - places⟩

/-! ## §2. Taking a numeral apart. -/

variable {cs ds places rest : List Char} {negative : Bool}

/-- The text ends here or goes on with something that is not a digit. -/
def DigitsEnd (rest : List Char) : Prop :=
  ∀ c, rest.head? = some c → c.isDigit = false

theorem takeWhile_isDigit (hds : ∀ c ∈ ds, c.isDigit = true) (hend : DigitsEnd rest) :
    (ds ++ rest).takeWhile Char.isDigit = ds := by
  rw [List.takeWhile_append_of_pos hds]
  cases rest with
  | nil => simp
  | cons c rest => simp [hend c rfl]

theorem dropWhile_isDigit (hds : ∀ c ∈ ds, c.isDigit = true) (hend : DigitsEnd rest) :
    (ds ++ rest).dropWhile Char.isDigit = rest := by
  rw [List.dropWhile_append_of_pos hds]
  cases rest with
  | nil => rfl
  | cons c rest => simp [hend c rfl]

/-- Every text begins with all the digits it begins with. -/
theorem exists_digits (cs : List Char) :
    ∃ ds rest, cs = ds ++ rest ∧ (∀ c ∈ ds, c.isDigit = true) ∧ DigitsEnd rest := by
  refine ⟨_, _, List.takeWhile_append_dropWhile.symm, fun c hc => List.mem_takeWhile_imp hc, ?_⟩
  intro c hc
  have hnot := List.head?_dropWhile_not Char.isDigit cs
  rw [hc] at hnot
  exact hnot

theorem unsigned?_whole (hds : ∀ c ∈ ds, c.isDigit = true) (hend : DigitsEnd rest)
    (hpoint : rest.head? ≠ some '.') :
    unsigned? negative (ds ++ rest) = if ds.isEmpty then none else
      (exponent? rest).map fun written =>
        ⟨negative, Nat.ofDigitChars 10 ds 0, written - (0 : Nat)⟩ := by
  simp only [unsigned?, takeWhile_isDigit hds hend, dropWhile_isDigit hds hend]
  cases rest with
  | nil => simp
  | cons c rest =>
      have hc : c ≠ '.' := fun h => hpoint (by rw [h]; rfl)
      simp [hc]

theorem unsigned?_pointed (hds : ∀ c ∈ ds, c.isDigit = true)
    (hplaces : ∀ c ∈ places, c.isDigit = true) (hend : DigitsEnd rest) :
    unsigned? negative (ds ++ '.' :: (places ++ rest)) = if (ds ++ places).isEmpty then none else
      (exponent? rest).map fun written =>
        ⟨negative, Nat.ofDigitChars 10 (ds ++ places) 0, written - places.length⟩ := by
  have hdot : DigitsEnd ('.' :: (places ++ rest)) := fun c hc => by
    injection hc with hc
    rw [← hc]
    rfl
  simp only [unsigned?, takeWhile_isDigit hds hdot, dropWhile_isDigit hds hdot,
    takeWhile_isDigit hplaces hend, dropWhile_isDigit hplaces hend]

theorem exponent?_eq_some_iff {written : Int} : exponent? cs = some written ↔
    Exponent cs written := by
  constructor
  · intro h
    cases cs with
    | nil =>
        injection h with h
        rw [← h]
        exact .absent
    | cons mark rest =>
        rw [exponent?] at h
        split at h
        · rename_i hmark
          obtain ⟨sign, negative, ds, hsign, hds, rfl, rfl⟩ := Text.signed?_eq_some_iff.mp h
          exact .written hmark hsign hds
        · cases h
  · intro h
    cases h with
    | absent => rfl
    | written hmark hsign hds =>
        rw [exponent?, if_pos hmark]
        exact Text.signed?_eq_some_iff.mpr ⟨_, _, _, hsign, hds, rfl, rfl⟩

theorem Exponent.digitsEnd {written : Int} (h : Exponent cs written) : DigitsEnd cs := by
  intro c hc
  cases h with
  | absent => cases hc
  | written hmark _ _ =>
      injection hc with hc
      rcases hmark with rfl | rfl <;> (rw [← hc]; rfl)

theorem Exponent.head?_ne_point {written : Int} (h : Exponent cs written) :
    cs.head? ≠ some '.' := by
  intro hc
  cases h with
  | absent => cases hc
  | written hmark _ _ => rcases hmark with rfl | rfl <;> cases hc

/-- Digits with a point among them are a mantissa unless the point is alone. -/
theorem mantissa_pointed (hds : ∀ c ∈ ds, c.isDigit = true)
    (hplaces : ∀ c ∈ places, c.isDigit = true) (hne : ds ++ places ≠ []) :
    Mantissa (ds ++ '.' :: places) (ds ++ places) places.length := by
  by_cases h : ds = []
  · refine .fraction hds ⟨fun hnil => hne ?_, hplaces⟩
    rw [h, hnil, List.append_nil]
  · exact .pointed ⟨h, hds⟩ hplaces

/-- **A NUMERAL WITHOUT ITS SIGN** is a mantissa and an exponent. -/
theorem unsigned?_eq_some_iff {n : Numeral} : unsigned? negative cs = some n ↔
    ∃ mantissa digits places exponent written, cs = mantissa ++ exponent ∧
      Mantissa mantissa digits places ∧ Exponent exponent written ∧
      n = ⟨negative, Nat.ofDigitChars 10 digits 0, written - places⟩ := by
  constructor
  · intro h
    obtain ⟨ds, tail, rfl, hds, hend⟩ := exists_digits cs
    by_cases hpoint : tail.head? = some '.'
    · obtain ⟨rest, rfl⟩ := List.head?_eq_some_iff.mp hpoint
      obtain ⟨places, rest, rfl, hplaces, hend⟩ := exists_digits rest
      rw [unsigned?_pointed hds hplaces hend] at h
      split at h
      · cases h
      · rename_i hne
        obtain ⟨written, hwritten, rfl⟩ := Option.map_eq_some_iff.mp h
        refine ⟨_, _, _, rest, written, by simp, mantissa_pointed hds hplaces ?_,
          exponent?_eq_some_iff.mp hwritten, rfl⟩
        exact List.isEmpty_eq_false_iff.mp (Bool.eq_false_of_not_eq_true hne)
    · rw [unsigned?_whole hds hend hpoint] at h
      split at h
      · cases h
      · rename_i hne
        obtain ⟨written, hwritten, rfl⟩ := Option.map_eq_some_iff.mp h
        refine ⟨ds, ds, 0, tail, written, rfl, .whole ⟨?_, hds⟩,
          exponent?_eq_some_iff.mp hwritten, rfl⟩
        exact List.isEmpty_eq_false_iff.mp (Bool.eq_false_of_not_eq_true hne)
  · intro h
    obtain ⟨mantissa, digits, places, exponent, written, rfl, hmantissa, hexponent, rfl⟩ := h
    have hwritten := exponent?_eq_some_iff.mpr hexponent
    cases hmantissa with
    | whole hds =>
        rw [unsigned?_whole hds.2 hexponent.digitsEnd hexponent.head?_ne_point, hwritten,
          if_neg (by simpa using hds.1)]
        rfl
    | pointed hds hplaces =>
        rw [List.append_assoc, List.cons_append,
          unsigned?_pointed hds.2 hplaces hexponent.digitsEnd, hwritten,
          if_neg (by simp [hds.1])]
        rfl
    | fraction hds hplaces =>
        rw [List.append_assoc, List.cons_append,
          unsigned?_pointed hds hplaces.2 hexponent.digitsEnd, hwritten,
          if_neg (by simp [hplaces.1])]
        rfl

/-! ## §3. Signs. -/

/-- Something other than a sign comes first, if anything does. -/
def Unsigned (cs : List Char) : Prop :=
  cs.head? ≠ some '-' ∧ cs.head? ≠ some '+'

theorem sign_append {s : List Char} (h : Sign s negative) (hcs : Unsigned cs) :
    sign (s ++ cs) = (negative, cs) := by
  cases h with
  | absent =>
      show sign cs = (false, cs)
      unfold sign
      split
      · exact absurd rfl hcs.1
      · exact absurd rfl hcs.2
      · rfl
  | plus => rfl
  | minus => rfl

theorem exists_sign (cs : List Char) :
    ∃ s, Sign s (sign cs).1 ∧ cs = s ++ (sign cs).2 := by
  unfold sign
  split
  · exact ⟨['-'], .minus, rfl⟩
  · exact ⟨['+'], .plus, rfl⟩
  · exact ⟨[], .absent, rfl⟩

theorem unsigned_of_forall (h : ∀ c ∈ ds, c.isDigit = true) (hrest : Unsigned rest) :
    Unsigned (ds ++ rest) := by
  cases ds with
  | nil => exact hrest
  | cons c ds =>
      have hc := Text.ne_sign_of_isDigit (h c List.mem_cons_self)
      constructor
      · simpa using hc.1
      · simpa using hc.2

theorem Mantissa.unsigned {mantissa digits : List Char} {n : Nat} (h : Mantissa mantissa digits n)
    (rest : List Char) : Unsigned (mantissa ++ rest) := by
  cases h with
  | whole hds =>
      obtain ⟨c, ds, rfl⟩ := List.exists_cons_of_ne_nil hds.1
      have hc := Text.ne_sign_of_isDigit (hds.2 c List.mem_cons_self)
      constructor
      · simpa using hc.1
      · simpa using hc.2
  | pointed hds _ =>
      rw [List.append_assoc]
      exact unsigned_of_forall hds.2 ⟨nofun, nofun⟩
  | fraction hds _ =>
      rw [List.append_assoc]
      exact unsigned_of_forall hds ⟨nofun, nofun⟩

theorem parse?_eq (cs : List Char) : parse? cs = unsigned? (sign cs).1 (sign cs).2 :=
  rfl

/-- **WHAT READS AS A NUMERAL** is a text of the grammar, and denotes what it reads as. -/
theorem parse?_eq_some_iff {n : Numeral} : parse? cs = some n ↔ Decimal cs n := by
  constructor
  · intro h
    obtain ⟨s, hsign, hcs⟩ := exists_sign cs
    rw [parse?_eq] at h
    obtain ⟨mantissa, digits, places, exponent, written, hrest, hmantissa, hexponent, rfl⟩ :=
      unsigned?_eq_some_iff.mp h
    have hdecimal := Decimal.mk hsign hmantissa hexponent
    rwa [← hrest, ← hcs] at hdecimal
  · intro h
    obtain @⟨s, mantissa, digits, exponent, negative, places, written, hsign, hmantissa,
      hexponent⟩ := h
    rw [parse?_eq, sign_append hsign (hmantissa.unsigned exponent)]
    exact unsigned?_eq_some_iff.mpr
      ⟨mantissa, digits, places, exponent, written, rfl, hmantissa, hexponent, rfl⟩

/-! ## §4. Characters. -/

theorem isNumeralChar_of_isDigit {c : Char} (h : c.isDigit = true) :
    Literal.isNumeralChar c = true := by
  rw [Literal.isNumeralChar, h, Bool.true_or]

theorem isNumeralChar_of_sign {s : List Char} (h : Sign s negative) :
    ∀ c ∈ s, Literal.isNumeralChar c = true := by
  cases h <;> simp [Literal.isNumeralChar]

theorem Mantissa.isNumeralChar {mantissa digits : List Char} {n : Nat}
    (h : Mantissa mantissa digits n) : ∀ c ∈ mantissa, Literal.isNumeralChar c = true := by
  -- Digits on both sides of a point, or of nothing.
  have hpointed {ds places : List Char} (hds : ∀ c ∈ ds, c.isDigit = true)
      (hplaces : ∀ c ∈ places, c.isDigit = true) :
      ∀ c ∈ ds ++ '.' :: places, Literal.isNumeralChar c = true := by
    intro c hc
    rcases List.mem_append.mp hc with hwhole | hc
    · exact isNumeralChar_of_isDigit (hds c hwhole)
    rcases List.mem_cons.mp hc with rfl | hplace
    · rfl
    · exact isNumeralChar_of_isDigit (hplaces c hplace)
  cases h with
  | whole hds => exact fun c hc => isNumeralChar_of_isDigit (hds.2 c hc)
  | pointed hds hplaces => exact hpointed hds.2 hplaces
  | fraction hds hplaces => exact hpointed hds hplaces.2

theorem Exponent.isNumeralChar {written : Int} (h : Exponent cs written) :
    ∀ c ∈ cs, Literal.isNumeralChar c = true := by
  intro c hc
  cases h with
  | absent => cases hc
  | written hmark hsign hds =>
      rcases List.mem_cons.mp hc with rfl | hc
      · rcases hmark with rfl | rfl <;> rfl
      rcases List.mem_append.mp hc with hs | hdigit
      · exact isNumeralChar_of_sign hsign c hs
      · exact isNumeralChar_of_isDigit (hds.2 c hdigit)

/-- A numeral is written with the characters of numerals. -/
theorem Decimal.isNumeralChar {n : Numeral} (h : Decimal cs n) :
    ∀ c ∈ cs, Literal.isNumeralChar c = true := by
  intro c hc
  cases h with
  | mk hsign hmantissa hexponent =>
      rcases List.mem_append.mp hc with hs | hc
      · exact isNumeralChar_of_sign hsign c hs
      rcases List.mem_append.mp hc with hm | he
      · exact hmantissa.isNumeralChar c hm
      · exact hexponent.isNumeralChar c he

end Numeral

/-- Among the characters of numerals, there is no `n` of either case. -/
theorem Literal.toLower_ne_of_isNumeralChar {c : Char} (h : isNumeralChar c = true) :
    c.toLower ≠ 'n' := by
  intro hn
  rcases Bool.or_eq_true .. ▸ h with hdigit | hother
  · have hlower : c.toLower = c := by
      simp only [Char.isDigit, Bool.and_eq_true, decide_eq_true_eq] at hdigit
      exact dif_neg fun hupper => absurd (UInt32.le_trans hupper.1 hdigit.2) (by decide)
    rw [← hlower, hn] at hdigit
    cases hdigit
  · simp only [List.contains_eq_mem, List.mem_cons, List.not_mem_nil, or_false,
      decide_eq_true_eq] at hother
    rcases hother with rfl | rfl | rfl | rfl | rfl <;> cases hn

/-! ## §5. Names. -/

namespace Binary32

open Literal (isNumeralChar)
open Numeral (Decimal Unsigned)

variable {cs name sign : List Char} {negative : Bool} {x : Binary32}

/-- The names in any mixture of ASCII cases, with an optional sign. -/
inductive Named : List Char → Binary32 → Prop where
  | nan {sign name : List Char} {negative : Bool} (hsign : Sign sign negative)
      (h : name.map Char.toLower = "nan".toList) : Named (sign ++ name) .nan
  | infinite {sign name : List Char} {negative : Bool} (hsign : Sign sign negative)
      (h : name.map Char.toLower = "inf".toList ∨ name.map Char.toLower = "infinity".toList) :
      Named (sign ++ name) (.infinite negative)

theorem named?_eq_some_iff : named? negative name = some x ↔
    (name.map Char.toLower = "nan".toList ∧ x = .nan) ∨
    ((name.map Char.toLower = "inf".toList ∨ name.map Char.toLower = "infinity".toList) ∧
      x = .infinite negative) := by
  unfold named?
  constructor
  · intro h
    simp only at h
    split at h
    · rename_i hnan
      injection h with h
      exact .inl ⟨hnan, h.symm⟩
    · split at h
      · rename_i hinf
        injection h with h
        exact .inr ⟨hinf, h.symm⟩
      · cases h
  · intro h
    rcases h with ⟨hnan, rfl⟩ | ⟨hinf, rfl⟩
    · exact if_pos hnan
    · have hnan : name.map Char.toLower ≠ "nan".toList := by
        intro hnan
        rw [hnan] at hinf
        rcases hinf with h | h <;> cases h
      rw [if_neg hnan, if_pos hinf]

/-- Every name has an `n` in it. -/
theorem mem_of_named? (h : named? negative name = some x) : 'n' ∈ name.map Char.toLower := by
  rcases named?_eq_some_iff.mp h with ⟨hnan, _⟩ | ⟨hinf | hinfinity, _⟩
  · rw [hnan]
    decide
  · rw [hinf]
    decide
  · rw [hinfinity]
    decide

/-- **THE CHARACTERS OF NUMERALS WRITE NO NAME.** -/
theorem named?_of_isNumeralChar (h : ∀ c ∈ name, isNumeralChar c = true) :
    named? negative name = none := by
  rw [Option.eq_none_iff_forall_not_mem]
  intro x hx
  obtain ⟨c, hc, hn⟩ := List.mem_map.mp (mem_of_named? hx)
  exact Literal.toLower_ne_of_isNumeralChar (h c hc) hn

/-- A name begins with a letter. -/
theorem unsigned_of_named? (h : named? negative name = some x) : Unsigned name := by
  have hhead (c : Char) (hc : name.head? = some c) (hlower : c.toLower ≠ 'n' ∧ c.toLower ≠ 'i') :
      False := by
    have hmap : (name.map Char.toLower).head? = some c.toLower := by rw [List.head?_map, hc]; rfl
    rcases named?_eq_some_iff.mp h with ⟨hnan, _⟩ | ⟨hinf | hinfinity, _⟩
    · rw [hnan] at hmap
      injection hmap with hmap
      exact hlower.1 hmap.symm
    · rw [hinf] at hmap
      injection hmap with hmap
      exact hlower.2 hmap.symm
    · rw [hinfinity] at hmap
      injection hmap with hmap
      exact hlower.2 hmap.symm
  exact ⟨fun hc => hhead _ hc (by decide), fun hc => hhead _ hc (by decide)⟩

theorem read?_of_isNumeralChar (h : ∀ c ∈ cs, isNumeralChar c = true) :
    read? cs = (Numeral.parse? cs).map Numeral.value := by
  obtain ⟨s, _, hcs⟩ := Numeral.exists_sign cs
  have hrest : ∀ c ∈ (Numeral.sign cs).2, isNumeralChar c = true := fun c hc =>
    h c (by rw [hcs]; exact List.mem_append_right s hc)
  rw [read?]
  simp only [named?_of_isNumeralChar hrest]

/-- **WHAT READS AS A NUMBER** is a name or a numeral. -/
theorem read?_eq_some_iff :
    read? cs = some x ↔ Named cs x ∨ ∃ n, Decimal cs n ∧ x = n.value := by
  constructor
  · intro h
    obtain ⟨s, hsign, hcs⟩ := Numeral.exists_sign cs
    rw [read?] at h
    simp only at h
    split at h
    · rename_i hnamed
      injection h with h
      rw [hcs, ← h]
      rcases named?_eq_some_iff.mp hnamed with ⟨hnan, rfl⟩ | ⟨hinf, rfl⟩
      · exact .inl (.nan hsign hnan)
      · exact .inl (.infinite hsign hinf)
    · obtain ⟨n, hn, rfl⟩ := Option.map_eq_some_iff.mp h
      exact .inr ⟨n, Numeral.parse?_eq_some_iff.mp hn, rfl⟩
  · intro h
    rcases h with hnamed | ⟨n, hn, rfl⟩
    · have hread {s name : List Char} {negative : Bool} {x : Binary32} (hsign : Sign s negative)
          (hname : named? negative name = some x) : read? (s ++ name) = some x := by
        rw [read?, Numeral.sign_append hsign (unsigned_of_named? hname)]
        simp only [hname]
      cases hnamed with
      | nan hsign h => exact hread hsign (named?_eq_some_iff.mpr (.inl ⟨h, rfl⟩))
      | infinite hsign h => exact hread hsign (named?_eq_some_iff.mpr (.inr ⟨h, rfl⟩))
    · rw [read?_of_isNumeralChar hn.isNumeralChar, Numeral.parse?_eq_some_iff.mpr hn]
      rfl

end Binary32

/-! ## §6. Literals. -/

namespace Literal

open Numeral (Decimal)
open Text (trim)

variable {text raw : List Char} {x : Binary32}

/-- The spellings of the numbers without a numeral that are literals. -/
inductive Symbol : List Char → Binary32 → Prop where
  | nan : Symbol "NaN".toList .nan
  | infinity : Symbol "Infinity".toList (.infinite false)
  | plusInfinity : Symbol "+Infinity".toList (.infinite false)
  | minusInfinity : Symbol "-Infinity".toList (.infinite true)

/-- A spelling of a literal without a numeral has an `N` or an `I` in it. -/
theorem Symbol.exists_letter (h : Symbol text x) : ∃ c ∈ text, isNumeralChar c = false := by
  cases h with
  | nan => exact ⟨'N', by decide, rfl⟩
  | infinity => exact ⟨'I', by decide, rfl⟩
  | plusInfinity => exact ⟨'I', by decide, rfl⟩
  | minusInfinity => exact ⟨'I', by decide, rfl⟩

/-- **WHAT READS AS A NUMBER LITERAL**: between blanks, one of four spellings, or a numeral. -/
theorem floatChars?_eq_some_iff : floatChars? raw = some x ↔
    Symbol (trim raw) x ∨ ∃ n, Decimal (trim raw) n ∧ x = n.value := by
  unfold floatChars?
  constructor
  · intro h
    simp only at h
    split at h
    · rename_i hnan
      injection h with h
      rw [hnan, ← h]
      exact .inl .nan
    split at h
    · rename_i hinfinity
      injection h with h
      rw [← h]
      rcases hinfinity with hinfinity | hinfinity <;> rw [hinfinity]
      · exact .inl .infinity
      · exact .inl .plusInfinity
    split at h
    · rename_i hinfinity
      injection h with h
      rw [hinfinity, ← h]
      exact .inl .minusInfinity
    split at h
    · rename_i hchars
      rw [Binary32.read?_of_isNumeralChar (List.all_eq_true.mp hchars)] at h
      obtain ⟨n, hn, rfl⟩ := Option.map_eq_some_iff.mp h
      exact .inr ⟨n, Numeral.parse?_eq_some_iff.mp hn, rfl⟩
    · cases h
  · intro h
    generalize trim raw = text at h
    rcases h with hsymbol | ⟨n, hn, rfl⟩
    · cases hsymbol <;> rfl
    · have hne {symbol : List Char} {y : Binary32} (h : Symbol symbol y) : text ≠ symbol := by
        rintro rfl
        obtain ⟨c, hc, hletter⟩ := h.exists_letter
        rw [hn.isNumeralChar c hc] at hletter
        cases hletter
      have hread : Binary32.read? text = some n.value :=
        Binary32.read?_eq_some_iff.mpr (.inr ⟨n, hn, rfl⟩)
      simp only
      rw [if_neg (hne .nan), if_neg (not_or.mpr ⟨hne .infinity, hne .plusInfinity⟩),
        if_neg (hne .minusInfinity), if_pos (List.all_eq_true.mpr hn.isNumeralChar), hread]

end Literal

end ConfigGraph
