/-
  ConfigGraph.Proofs.Literal.Shortest
  ────────────────────────────────
  **THE TEXT OF A NUMBER READS BACK.**

  The digits of a number are looked for on decimal grids, and a grid is only
  taken if the reader confirms that it leads back to the number.  That leaves
  three things to prove.  If no grid is taken, the exact value is written
  instead, and rounding an exact value changes nothing.  What the reader
  confirmed for digits and an exponent holds for the positional text of them,
  which moves the exponent into zeros or behind a point.  And it holds for
  both signs, although it was confirmed for one.

  The text of a finite number is therefore a numeral without an exponent
  mark.  The other numbers are written by names, which the reader of numbers
  knows, and so every number reads back from its text.

  Main results:
    * `nearestMagnitude_of_exact` — rounding is exact on values of the type
    * `nearest_shortest`
    * `exists_mantissa_positional`
    * `read?_textChars`
-/
import Mathlib.Tactic.Ring
import ConfigGraph.Proofs.Literal.Number

namespace ConfigGraph

/-! ## §1. Rounding a value of the type. -/

namespace Binary32

variable {b num den : Nat} {negative : Bool}

/-- A whole quotient is rounded to itself. -/
theorem roundEven_mul (q : Nat) (hden : 0 < den) : roundEven (q * den) den = q := by
  have hdiv : q * den / den = q := Nat.mul_div_cancel q hden
  have hmod : q * den % den = 0 := Nat.mul_mod_left q den
  unfold roundEven
  simp only [hdiv, hmod]
  rw [if_neg (by omega)]

/-- The value of a place is a significand of 24 bits, shifted, and the two make up the place.
A significand that has fewer bits is not shifted. -/
theorem exists_significand (b : Nat) :
    ∃ significand shift, units b = significand * 2 ^ shift ∧ b = shift * 2 ^ 23 + significand ∧
      significand < 2 ^ 24 ∧ (2 ^ 23 ≤ significand ∨ shift = 0) := by
  by_cases hfield : b / 2 ^ 23 = 0
  · refine ⟨b, 0, ?_, by omega, by omega, .inr rfl⟩
    simp only [units, Nat.pow_eq]
    rw [if_pos hfield, Nat.pow_zero, Nat.mul_one]
  · -- A normal number: the leading bit of the significand is not written in the place.
    refine ⟨2 ^ 23 + b % 2 ^ 23, b / 2 ^ 23 - 1, ?_, by omega, by omega, .inl (by omega)⟩
    simp only [units, Nat.pow_eq]
    rw [if_neg hfield]

/-- The leading bit of a value tells how far its significand is shifted. -/
theorem log2_significand {significand shift : Nat} (hlt : significand < 2 ^ 24)
    (hnormal : 2 ^ 23 ≤ significand ∨ shift = 0) :
    (significand * 2 ^ shift).log2 - 23 = shift := by
  have hpos : 0 < 2 ^ shift := Nat.two_pow_pos shift
  rcases hnormal with hle | hshift
  · have hne : significand * 2 ^ shift ≠ 0 := Nat.mul_ne_zero (by omega) hpos.ne'
    have hlog : (significand * 2 ^ shift).log2 = 23 + shift := by
      refine (Nat.log2_eq_iff hne).mpr ⟨?_, ?_⟩
      · rw [Nat.pow_add]
        exact Nat.mul_le_mul_right _ hle
      · rw [show 23 + shift + 1 = 24 + shift by omega, Nat.pow_add]
        exact Nat.mul_lt_mul_of_pos_right hlt hpos
    omega
  · subst hshift
    rw [Nat.pow_zero, Nat.mul_one]
    by_cases hzero : significand = 0
    · subst hzero
      rfl
    · have hlog := (Nat.log2_lt hzero).mpr hlt
      omega

/-- **ROUNDING IS EXACT ON VALUES**: the nearest magnitude to the value of a place is at that
place. -/
theorem nearestMagnitude_of_exact (hden : 0 < den)
    (h : num * Nat.pow 2 149 = units b * den) : nearestMagnitude num den = b := by
  obtain ⟨significand, shift, hunits, hb, hlt, hnormal⟩ := exists_significand b
  have hquotient : num * Nat.pow 2 149 / den = significand * 2 ^ shift := by
    rw [h, hunits, Nat.mul_div_cancel _ hden]
  have hshift : (num * Nat.pow 2 149 / den).log2 - 23 = shift := by
    rw [hquotient, log2_significand hlt hnormal]
  -- What is shifted out is zero, so the significand is a whole quotient.
  have hround : roundEven (num * Nat.pow 2 149) (den * 2 ^ shift) = significand := by
    rw [h, hunits, show significand * 2 ^ shift * den = significand * (den * 2 ^ shift) by ring]
    exact roundEven_mul significand (Nat.mul_pos hden (Nat.two_pow_pos shift))
  unfold nearestMagnitude
  simp only [hshift]
  show shift * 2 ^ 23 + roundEven (num * Nat.pow 2 149) (den * 2 ^ shift) = b
  rw [hround, ← hb]

theorem ofRatio_of_exact (place : Fin magnitudeCount) (hden : 0 < den)
    (h : num * Nat.pow 2 149 = units place.val * den) :
    ofRatio negative num den = .finite negative place := by
  have hplace := nearestMagnitude_of_exact hden h
  unfold ofRatio
  simp only [hplace]
  rw [dif_pos place.isLt]

/-- Finite numbers have no more than 277 bits. -/
theorem units_lt (place : Fin magnitudeCount) : units place.val < 2 ^ 24 * 2 ^ 253 := by
  obtain ⟨significand, shift, hunits, hb, hlt, hnormal⟩ := exists_significand place.val
  have hplace : place.val < 255 * 2 ^ 23 := place.isLt
  -- A greater shift would belong to a place beyond the last one.
  have hshift : shift ≤ 253 := by omega
  rw [hunits]
  calc significand * 2 ^ shift
      ≤ significand * 2 ^ 253 := Nat.mul_le_mul_left _ (Nat.pow_le_pow_right (by decide) hshift)
    _ < 2 ^ 24 * 2 ^ 253 := Nat.mul_lt_mul_of_pos_right hlt (Nat.two_pow_pos 253)

theorem units_pos (hb : b ≠ 0) : 0 < units b := by
  obtain ⟨significand, shift, hunits, hplace, -, hnormal⟩ := exists_significand b
  have hsignificand : 0 < significand := by
    rcases hnormal with hle | hshift
    · omega
    · subst hshift
      omega
  rw [hunits]
  exact Nat.mul_pos hsignificand (Nat.two_pow_pos shift)

end Binary32

/-! ## §2. Numerals that denote a value of the type. -/

open Binary32 (units units_lt units_pos ofRatio ofRatio_of_exact)

namespace Numeral

variable {digits : Nat} {exponent : Int} {place : Fin magnitudeCount}

/-- The exact value of a magnitude, in decimal digits, is read as that magnitude. -/
theorem nearest_exactValue (negative : Bool) (hplace : place.val ≠ 0) :
    nearest negative (units place.val * Nat.pow 5 149) (-149) = .finite negative place := by
  have hpos := units_pos hplace
  have hlt := units_lt place
  have hne : units place.val * Nat.pow 5 149 ≠ 0 := Nat.mul_ne_zero hpos.ne' (by decide)
  -- The leading digit is within the limits, so the quotient is rounded.
  have hupper : (Nat.toDigits 10 (units place.val * Nat.pow 5 149)).length ≤ 209 := by
    rw [Nat.length_toDigits_le_iff (by decide) (by decide)]
    calc units place.val * Nat.pow 5 149
        < 2 ^ 24 * 2 ^ 253 * Nat.pow 5 149 := Nat.mul_lt_mul_of_pos_right hlt (by decide)
      _ < 10 ^ 209 := by decide
  have hlower : ¬ (Nat.toDigits 10 (units place.val * Nat.pow 5 149)).length ≤ 88 := by
    rw [Nat.length_toDigits_le_iff (by decide) (by decide), Nat.not_lt]
    calc 10 ^ 88 ≤ Nat.pow 5 149 := by decide
      _ ≤ units place.val * Nat.pow 5 149 := Nat.le_mul_of_pos_left _ hpos
  unfold nearest exponentLimit
  simp only
  rw [if_neg hne, if_neg (by omega), if_neg (by omega), if_neg (by omega)]
  refine ofRatio_of_exact place (by decide) ?_
  show units place.val * Nat.pow 5 149 * Nat.pow 2 149 = units place.val * Nat.pow 10 149
  rw [Nat.mul_assoc]

theorem ofRatio_sign {num den : Nat} (negative : Bool)
    (h : ofRatio false num den = .finite false place) :
    ofRatio negative num den = .finite negative place := by
  unfold ofRatio at h ⊢
  simp only at h ⊢
  split at h
  · rename_i hlt
    injection h with _ h
    rw [dif_pos hlt, h]
  · cases h

/-- **THE SIGN STAYS OUTSIDE**: with another sign, the same digits denote the same magnitude. -/
theorem nearest_sign (negative : Bool) (h : nearest false digits exponent = .finite false place) :
    nearest negative digits exponent = .finite negative place := by
  unfold nearest at h ⊢
  simp only at h ⊢
  split_ifs at h ⊢ with hzero hupper hlower hexponent
  · injection h with _ h
    rw [h]
  · injection h with _ h
    rw [h]
  · exact ofRatio_sign negative h
  · exact ofRatio_sign negative h

/-- A power of ten behind digits is so many zeros. -/
theorem toDigits_mul_pow (hdigits : 0 < digits) (k : Nat) :
    Nat.toDigits 10 (digits * 10 ^ k) = Nat.toDigits 10 digits ++ List.replicate k '0' := by
  induction k with
  | zero => simp
  | succ k ih =>
      have hpos : 0 < digits * 10 ^ k := Nat.mul_pos hdigits (Nat.pow_pos (by decide))
      have happend := Nat.toDigits_append_toDigits (b := 10) (n := digits * 10 ^ k) (d := 0)
        (by decide) hpos (by decide)
      rw [Nat.pow_succ, List.replicate_succ', ← List.append_assoc, ← ih]
      show Nat.toDigits 10 (digits * (10 ^ k * 10)) = _ ++ Nat.toDigits 10 0
      rw [happend]
      congr 1
      ring

/-- **ZEROS INSTEAD OF AN EXPONENT** denote the same number. -/
theorem nearest_mul_pow (negative : Bool) (digits k : Nat) :
    nearest negative (digits * Nat.pow 10 k) 0 = nearest negative digits k := by
  -- Zero is read before its digits are counted.
  by_cases hzero : digits = 0
  · subst hzero
    simp [nearest]
  · have hne : digits * Nat.pow 10 k ≠ 0 :=
      Nat.mul_ne_zero hzero (Nat.pow_pos (by decide : 0 < 10)).ne'
    -- The leading digit stays where it was: as many digits more, as the exponent is less.
    have hlength : (Nat.toDigits 10 (digits * Nat.pow 10 k)).length
        = (Nat.toDigits 10 digits).length + k := by
      rw [show Nat.pow 10 k = 10 ^ k by rfl, toDigits_mul_pow (by omega)]
      simp
    have hleading : ((Nat.toDigits 10 (digits * Nat.pow 10 k)).length : Int) + 0
        = (Nat.toDigits 10 digits).length + k := by omega
    unfold nearest
    simp only [hleading]
    rw [if_neg hne, if_neg hzero, if_pos (by omega : (0 : Int) ≤ 0),
      if_pos (by omega : (0 : Int) ≤ k), Int.toNat_natCast]
    simp

end Numeral

/-! ## §3. The digits that are written. -/

namespace Binary32

open Numeral (nearest Mantissa Decimal)
open Text (Sign)

variable {b digits : Nat} {exponent : Int} {place : Fin magnitudeCount}

theorem nearest_of_readsBack (h : readsBack place.val digits exponent = true) :
    nearest false digits exponent = .finite false place := by
  unfold readsBack at h
  split at h
  · rename_i place' hnearest
    have hval : place'.val = place.val := by simpa using h
    rw [hnearest, Fin.ext hval]
  · cases h

/-- Whichever neighbour is written reads back. -/
theorem readsBack_of_neighbour? (h : neighbour? b exponent = some digits) :
    readsBack b digits exponent = true := by
  unfold neighbour? at h
  simp only at h
  split at h
  · rename_i hbelow habove
    injection h with h
    rw [← h]
    split
    · exact hbelow
    · exact habove
  · rename_i hbelow _
    injection h with h
    rw [← h]
    exact hbelow
  · rename_i _ habove
    injection h with h
    rw [← h]
    exact habove
  · cases h

/-- **THE SHORTEST DIGITS DENOTE THE NUMBER.** -/
theorem nearest_shortest (hplace : place.val ≠ 0) :
    nearest false (shortest place.val).1 (shortest place.val).2 = .finite false place := by
  unfold shortest
  -- A grid that was taken has been confirmed; without one, the exact value is written.
  cases hfound : (grids place.val).findSome? fun exponent =>
      (neighbour? place.val exponent).map (·, exponent) with
  | none => exact Numeral.nearest_exactValue false hplace
  | some found =>
      obtain ⟨exponent, _, hexponent⟩ := List.exists_of_findSome?_eq_some hfound
      obtain ⟨digits, hdigits, rfl⟩ := Option.map_eq_some_iff.mp hexponent
      exact nearest_of_readsBack (readsBack_of_neighbour? hdigits)

/-! ## §4. The layout of the digits. -/

/-- Digits with a point in front of the last few of them are a mantissa, if some are left in front
of the point. -/
theorem mantissa_point {padded : List Char} {places : Nat} (hpadded : ∀ c ∈ padded, c.isDigit = true)
    (hlong : places < padded.length) :
    Mantissa (padded.take (padded.length - places) ++
      '.' :: padded.drop (padded.length - places)) padded places := by
  have hwhole : Text.Digits (padded.take (padded.length - places)) := by
    refine ⟨List.ne_nil_of_length_pos ?_, fun c hc => hpadded c (List.mem_of_mem_take hc)⟩
    rw [List.length_take]
    omega
  have hfraction : ∀ c ∈ padded.drop (padded.length - places), c.isDigit = true :=
    fun c hc => hpadded c (List.mem_of_mem_drop hc)
  have hpointed := Mantissa.pointed hwhole hfraction
  rw [List.take_append_drop, List.length_drop] at hpointed
  rwa [show padded.length - (padded.length - places) = places by omega] at hpointed

/-- **THE POSITIONAL TEXT IS A MANTISSA**, and it denotes what the digits and the exponent
denote. -/
theorem exists_mantissa_positional (digits : Nat) (exponent : Int) :
    ∃ ds places, Mantissa (positional digits exponent) ds places ∧ ∀ negative,
      nearest negative (Nat.ofDigitChars 10 ds 0) (0 - (places : Int))
        = nearest negative digits exponent := by
  unfold positional
  by_cases hexponent : 0 ≤ exponent
  · rw [if_pos hexponent]
    refine ⟨_, 0, .whole ⟨Nat.toDigits_ne_nil, fun c hc => Text.isDigit_of_mem_toDigits hc⟩, ?_⟩
    intro negative
    have hzeros := Numeral.nearest_mul_pow negative digits exponent.toNat
    rw [Int.toNat_of_nonneg hexponent] at hzeros
    rw [Nat.ofDigitChars_ten_toDigits]
    exact hzeros
  · rw [if_neg hexponent]
    simp only
    generalize hplaces : (-exponent).toNat = places
    -- The zeros in front do not change what the digits denote.
    obtain ⟨_, hpadded, hvalue⟩ := Text.digits?_eq_some_iff.mp
      (Text.digits?_padded (places + 1 - (Nat.toDigits 10 digits).length) digits)
    refine ⟨_, places, mantissa_point hpadded ?_, fun negative => ?_⟩
    · simp only [List.length_append, List.length_replicate]
      omega
    · rw [hvalue, show 0 - (places : Int) = exponent by omega]

/-- The text of a magnitude is a mantissa that denotes it, whatever the sign. -/
theorem exists_mantissa_magnitudeText (place : Fin magnitudeCount) :
    ∃ ds places, Mantissa (magnitudeText place.val) ds places ∧ ∀ negative,
      nearest negative (Nat.ofDigitChars 10 ds 0) (0 - (places : Int))
        = .finite negative place := by
  unfold magnitudeText
  by_cases hplace : place.val = 0
  · rw [if_pos hplace]
    refine ⟨['0'], 0, .whole ⟨by simp, by simp⟩, fun negative => ?_⟩
    show Binary32.finite negative _ = _
    congr 1
    exact Fin.ext hplace.symm
  · rw [if_neg hplace]
    obtain ⟨ds, places, hmantissa, hvalue⟩ :=
      exists_mantissa_positional (shortest place.val).1 (shortest place.val).2
    refine ⟨ds, places, hmantissa, fun negative => ?_⟩
    rw [hvalue]
    exact Numeral.nearest_sign negative (nearest_shortest hplace)

/-- **THE TEXT OF A FINITE NUMBER** is a sign, if it is negative, and digits with at most one point
among them; it denotes the number. -/
theorem exists_decimal_textChars (negative : Bool) (place : Fin magnitudeCount) :
    ∃ n, Decimal (textChars (.finite negative place)) n ∧ n.value = .finite negative place := by
  obtain ⟨ds, places, hmantissa, hvalue⟩ := exists_mantissa_magnitudeText place
  have hsign : Sign (if negative then ['-'] else []) negative := by
    cases negative
    · exact .absent
    · exact .minus
  have hdecimal := Decimal.mk hsign hmantissa .absent
  rw [List.append_nil] at hdecimal
  exact ⟨_, hdecimal, hvalue negative⟩

/-- **EVERY NUMBER READS BACK FROM ITS TEXT.** -/
theorem read?_textChars (x : Binary32) : read? x.textChars = some x := by
  cases x with
  | nan => rfl
  | infinite negative => cases negative <;> rfl
  | finite negative place =>
      obtain ⟨n, hn, hvalue⟩ := exists_decimal_textChars negative place
      exact read?_eq_some_iff.mpr (.inr ⟨n, hn, hvalue.symm⟩)

end Binary32

end ConfigGraph
