/-
  ConfigGraph.Proofs.Literal.Integer
  ────────────────────────────────
  **WHAT AN INTEGER TEXT DENOTES.**

  Integer values, integer map keys and list indices are read from texts of
  one language: blanks, at most one sign, one or more ASCII digits, blanks.
  Such a text denotes an integer of any size.  The digits are valued as
  digits of a positional numeral, without a bound on their number, and only
  the value is compared with the range of 32-bit words; so a text whose value
  does not fit is refused, however many digits it has, and is never taken for
  another number.

  Indices are the integers of that language which are not negative.  The sign
  of zero makes no difference to an index.

  Main results:
    * `int?_eq_some_iff_denotes`, `index?_eq_some_iff_denotes`
    * `integer_texts`
-/
import Mathlib.Data.List.Induction
import Mathlib.Data.Nat.Digits.Defs
import ConfigGraph.Proofs.Operator
import ConfigGraph.Proofs.Path.Naming

namespace ConfigGraph

namespace Text

variable {s : String} {cs ds : List Char} {n : Int}

/-! ## §1. The value of digits. -/

/-- The number that a digit stands for. -/
def digitValue (c : Char) : Nat := c.toNat - '0'.toNat

/-- The number that digits denote; the last one counts ones. -/
def decimalValue (ds : List Char) : Nat := Nat.ofDigits 10 (ds.reverse.map digitValue)

/-- Reading the digits one after the other gives their positional value. -/
theorem ofDigitChars_eq_decimalValue (ds : List Char) :
    Nat.ofDigitChars 10 ds 0 = decimalValue ds := by
  -- The reader starts at the first digit, the positional value at the last one.
  induction ds using List.reverseRecOn with
  | nil => rfl
  | append_singleton ds c ih =>
      rw [Nat.ofDigitChars_append, ih]
      unfold decimalValue
      rw [List.reverse_append, List.reverse_singleton, List.singleton_append, List.map_cons,
        Nat.ofDigits_cons]
      show 10 * _ + digitValue c = digitValue c + 10 * _
      omega

/-! ## §2. The language. -/

/-- The text denotes the integer: between blanks, it has at most one sign and then digits. -/
def Denotes (s : String) (n : Int) : Prop :=
  ∃ before sign negative ds after, s.toList = before ++ (sign ++ ds) ++ after ∧
    (∀ c ∈ before, isBlank c = true) ∧ (∀ c ∈ after, isBlank c = true) ∧
    Sign sign negative ∧ Digits ds ∧
    n = if negative then -(decimalValue ds : Int) else decimalValue ds

/-- The integer is a 32-bit word. -/
def Fits (n : Int) : Prop := -2 ^ 31 ≤ n ∧ n ≤ 2 ^ 31 - 1

theorem fits_toInt (k : Int32) : Fits k.toInt := by
  have hlo := k.le_toInt
  have hhi := k.toInt_lt
  unfold Fits
  omega

theorem Fits.exists_int32 (h : Fits n) : ∃ k : Int32, k.toInt = n := by
  unfold Fits at h
  exact ⟨Int32.ofInt n, Int32.toInt_ofInt_of_le (by omega) (by omega)⟩

theorem signedValue_eq (negative : Bool) (ds : List Char) :
    signedValue negative ds
      = if negative then -(decimalValue ds : Int) else decimalValue ds := by
  unfold signedValue
  rw [ofDigitChars_eq_decimalValue]

/-! ## §3. Blanks around a number. -/

/-- Trimming takes away nothing but blanks. -/
theorem exists_trim (cs : List Char) :
    ∃ before after, cs = before ++ trim cs ++ after ∧
      (∀ c ∈ before, isBlank c = true) ∧ ∀ c ∈ after, isBlank c = true := by
  obtain ⟨after, hafter, hend⟩ := exists_blanks (trimStart cs)
  refine ⟨cs.takeWhile isBlank, after, ?_, fun c hc => List.mem_takeWhile_imp hc, hafter⟩
  rw [List.append_assoc]
  show cs = cs.takeWhile isBlank ++ (trimEnd (trimStart cs) ++ after)
  rw [hend]
  exact List.takeWhile_append_dropWhile.symm

theorem isBlank_of_sign {sign : List Char} {negative : Bool} (h : Sign sign negative) :
    ∀ c ∈ sign, isBlank c = false := by
  intro c hc
  cases h with
  | absent => cases hc
  | plus =>
      rw [List.mem_singleton.mp hc]
      rfl
  | minus =>
      rw [List.mem_singleton.mp hc]
      rfl

/-- A signed number is not touched by trimming, and blanks around it are taken away. -/
theorem trim_signed {before sign after : List Char} {negative : Bool}
    (hbefore : ∀ c ∈ before, isBlank c = true) (hafter : ∀ c ∈ after, isBlank c = true)
    (hsign : Sign sign negative) (hds : Digits ds) :
    trim (before ++ (sign ++ ds) ++ after) = sign ++ ds := by
  have hne : sign ++ ds ≠ [] := List.append_ne_nil_of_right_ne_nil _ hds.1
  refine trim_of_blankless hne hbefore hafter ?_
  intro c hc
  rcases List.mem_append.mp hc with hc | hc
  · exact isBlank_of_sign hsign c hc
  · exact isBlank_of_isDigit (hds.2 c hc)

/-- A text denotes what is read between its blanks. -/
theorem denotes_iff : Denotes s n ↔ signed? (trim s.toList) = some n := by
  rw [signed?_eq_some_iff]
  constructor
  · intro h
    obtain ⟨before, sign, negative, ds, after, hs, hbefore, hafter, hsign, hds, hn⟩ := h
    refine ⟨sign, negative, ds, hsign, hds, ?_, hn.trans (signedValue_eq negative ds).symm⟩
    rw [hs, trim_signed hbefore hafter hsign hds]
  · intro h
    obtain ⟨sign, negative, ds, hsign, hds, htrim, hn⟩ := h
    -- The blanks that trimming took away are put back.
    obtain ⟨before, after, hs, hbefore, hafter⟩ := exists_trim s.toList
    rw [htrim] at hs
    exact ⟨before, sign, negative, ds, after, hs, hbefore, hafter, hsign, hds,
      hn.trans (signedValue_eq negative ds)⟩

/-! ## §4. The readers. -/

/-- **AN INTEGER IS READ FROM THE TEXTS THAT DENOTE IT**, if it fits a word. -/
theorem int?_eq_some_iff_denotes :
    (∃ k : Int32, int? s = some k ∧ k.toInt = n) ↔ Denotes s n ∧ Fits n := by
  constructor
  · intro h
    obtain ⟨k, hread, hk⟩ := h
    rw [← hk]
    exact ⟨denotes_iff.mpr (int?_eq_some_iff.mp hread), fits_toInt k⟩
  · intro h
    obtain ⟨hdenotes, hfits⟩ := h
    obtain ⟨k, hk⟩ := hfits.exists_int32
    refine ⟨k, int?_eq_some_iff.mpr ?_, hk⟩
    rw [hk]
    exact denotes_iff.mp hdenotes

/-- An index is read from the texts that denote an integer which is not negative. -/
theorem index?_eq_some_iff_denotes {i : Nat} :
    index? s = some i ↔ Denotes s i ∧ Fits i := by
  rw [index?_eq_some_iff]
  exact int?_eq_some_iff_denotes

end Text

/-- **INTEGERS, INTEGER KEYS AND INDICES ARE READ FROM ONE LANGUAGE**: a text between blanks with
at most one sign and digits of any number, whose value is read exactly or refused because it is
no 32-bit word.  The segment of a key reads as that key, so no two keys share a segment. -/
theorem integer_texts :
    (∀ (s : String) (n : Int),
      ((∃ k : Int32, Text.int? s = some k ∧ k.toInt = n) ↔ Text.Denotes s n ∧ Text.Fits n) ∧
      ((∃ k : Int32, KeyKind.int.read? s = some (.int k) ∧ k.toInt = n) ↔
        Text.Denotes s n ∧ Text.Fits n)) ∧
    (∀ (s : String) (i : Nat), Text.index? s = some i ↔ Text.Denotes s i ∧ Text.Fits i) ∧
    (∀ k : Int32, KeyKind.int.read? (Key.int k).segment = some (.int k)) ∧
    Function.Injective fun k : Int32 => (Key.int k).segment := by
  have hread (k : Int32) : KeyKind.int.read? (Key.int k).segment = some (.int k) :=
    Key.read?_segment (.int k)
  refine ⟨fun s n => ⟨Text.int?_eq_some_iff_denotes, ?_⟩,
    fun s i => Text.index?_eq_some_iff_denotes, hread, ?_⟩
  · -- A key is read by the same reader, under its own name.
    rw [← Text.int?_eq_some_iff_denotes]
    simp [KeyKind.read?]
  · intro k k' hsegment
    have hkeys : some (Key.int k) = some (Key.int k') := by
      rw [← hread k, ← hread k']
      exact congrArg _ hsegment
    simpa using hkeys

/-- Signs, zeros and blanks are allowed for; the two bounds are not symmetric, and more digits do
not wrap around. -/
example : Text.index? " -00\u2003" = some 0 ∧ Text.int? "-2147483648" = some (-2147483648) ∧
    Text.int? "+2147483648" = none ∧ Text.int? "18446744073709551617" = none := by
  decide +kernel

end ConfigGraph
