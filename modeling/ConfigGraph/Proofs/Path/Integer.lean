/-
  ConfigGraph.Proofs.Path.Integer
  ────────────────────────────────
  **THE SPELLINGS OF AN INTEGER.**

  An integer can be written in many ways: with blanks around it, with zeros
  in front of its digits and, unless it is negative, with a plus sign.  The
  reader takes all of them for the same number, and the decimal text is one
  of them.

  Nothing that reads as a number is shorter than the decimal text of that
  number, or of any smaller one.  A path in which an index is exchanged for a
  smaller one is therefore no longer than it was.

  Main results:
    * `int?_of_spells`, `index?_of_spells`
    * `int?_ofInt`, `index?_ofNat` — the decimal text reads back
    * `utf8ByteSize_ofNat_le`
-/
import Mathlib.Data.String.Basic
import ConfigGraph.Text.Integer

namespace ConfigGraph.Text

/-! ## §1. Blanks. -/

theorem isBlank_of_isDigit {c : Char} (h : c.isDigit = true) : isBlank c = false := by
  have hrange : 48 ≤ c.toNat ∧ c.toNat ≤ 57 := by
    simp only [Char.isDigit, ge_iff_le, Bool.and_eq_true, decide_eq_true_eq,
      UInt32.le_iff_toNat_le] at h
    exact h
  simp [isBlank, blankRanges]
  omega

/-- Blanks around a text that neither begins nor ends with one are trimmed off. -/
theorem trim_append {before cs after : List Char} (hne : cs ≠ [])
    (hbefore : ∀ c ∈ before, isBlank c = true) (hafter : ∀ c ∈ after, isBlank c = true)
    (hhead : isBlank (cs.head hne) = false) (hlast : isBlank (cs.getLast hne) = false) :
    trim (before ++ cs ++ after) = cs := by
  have hstart : trimStart (before ++ cs ++ after) = cs ++ after := by
    rw [trimStart, List.append_assoc, List.dropWhile_append_of_pos hbefore]
    obtain ⟨first, rest, rfl⟩ := List.exists_cons_of_ne_nil hne
    rw [List.cons_append]
    exact List.dropWhile_cons_of_neg (by simpa using hhead)
  -- From the other end the same thing happens to the reversed text.
  have hend : ((cs ++ after).reverse.dropWhile isBlank) = cs.reverse := by
    rw [List.reverse_append, List.dropWhile_append_of_pos (by simpa using hafter)]
    have hrev := congrArg List.reverse (List.dropLast_concat_getLast hne)
    rw [List.reverse_append] at hrev
    rw [← hrev]
    exact List.dropWhile_cons_of_neg (by simpa using hlast)
  rw [trim, hstart, trimEnd, hend, List.reverse_reverse]

/-- And so they are if there is no blank in the text at all. -/
theorem trim_of_blankless {before cs after : List Char} (hne : cs ≠ [])
    (hbefore : ∀ c ∈ before, isBlank c = true) (hafter : ∀ c ∈ after, isBlank c = true)
    (hcs : ∀ c ∈ cs, isBlank c = false) : trim (before ++ cs ++ after) = cs :=
  trim_append hne hbefore hafter (hcs _ (List.head_mem hne)) (hcs _ (List.getLast_mem hne))

theorem trim_sublist (cs : List Char) : (trim cs).Sublist cs := by
  have hend := (List.dropWhile_sublist (l := (trimStart cs).reverse) isBlank).reverse
  rw [List.reverse_reverse] at hend
  exact hend.trans (List.dropWhile_sublist isBlank)

/-! ## §2. Digits. -/

theorem digits?_eq_some_iff {cs : List Char} {n : Nat} :
    digits? cs = some n ↔
      cs ≠ [] ∧ (∀ c ∈ cs, c.isDigit = true) ∧ Nat.ofDigitChars 10 cs 0 = n := by
  unfold digits?
  simp [and_assoc]

theorem isDigit_of_mem_toDigits {n : Nat} {c : Char} (h : c ∈ Nat.toDigits 10 n) :
    c.isDigit = true :=
  Nat.isDigit_of_mem_toDigits (by decide) (by decide) h

theorem ofDigitChars_replicate_zero (k : Nat) (cs : List Char) :
    Nat.ofDigitChars 10 (List.replicate k '0' ++ cs) 0 = Nat.ofDigitChars 10 cs 0 := by
  induction k with
  | zero => rfl
  | succ k ih => exact ih

/-- Digits write less than the power of ten of their number. -/
theorem ofDigitChars_lt {cs : List Char} (h : ∀ c ∈ cs, c.isDigit = true) :
    Nat.ofDigitChars 10 cs 0 < 10 ^ cs.length := by
  induction cs with
  | nil => decide
  | cons c rest ih =>
      have hrest := ih fun d hd => h d (List.mem_cons_of_mem c hd)
      have hdigit : c.toNat - '0'.toNat ≤ 9 := by
        have hc := h c List.mem_cons_self
        simp only [Char.isDigit, Bool.and_eq_true, decide_eq_true_eq, UInt32.le_iff_toNat_le] at hc
        exact Nat.sub_le_of_le_add hc.2
      have hcons : Nat.ofDigitChars 10 (c :: rest) 0
          = 10 ^ rest.length * (c.toNat - '0'.toNat) + Nat.ofDigitChars 10 rest 0 := by
        rw [← Nat.ofDigitChars_eq_ofDigitChars_zero]
        show Nat.ofDigitChars 10 rest (10 * 0 + (c.toNat - '0'.toNat)) = _
        rw [Nat.mul_zero, Nat.zero_add]
      rw [hcons, List.length_cons, Nat.pow_succ]
      calc 10 ^ rest.length * (c.toNat - '0'.toNat) + Nat.ofDigitChars 10 rest 0
          ≤ 10 ^ rest.length * 9 + Nat.ofDigitChars 10 rest 0 :=
            Nat.add_le_add_right (Nat.mul_le_mul_left _ hdigit) _
        _ < 10 ^ rest.length * 9 + 10 ^ rest.length := Nat.add_lt_add_left hrest _
        _ = 10 ^ rest.length * 10 := by omega

/-! ## §3. Spellings. -/

/-- The signs in front of the digits of a number: none or a plus, or a minus. -/
def signs (n : Int) : List (List Char) :=
  if n < 0 then [['-']] else [[], ['+']]

/-- The text is the decimal text of the number, perhaps with blanks around it, zeros in front of
its digits, and a plus sign. -/
def Spells (s : String) (n : Int) : Prop :=
  ∃ before sign after zeros, s.toList
      = before ++ (sign ++ (List.replicate zeros '0' ++ Nat.toDigits 10 n.natAbs)) ++ after ∧
    (∀ c ∈ before, isBlank c = true) ∧ (∀ c ∈ after, isBlank c = true) ∧ sign ∈ signs n

theorem digits?_padded (zeros n : Nat) :
    digits? (List.replicate zeros '0' ++ Nat.toDigits 10 n) = some n := by
  refine digits?_eq_some_iff.mpr ⟨?_, ?_, ?_⟩
  · exact List.append_ne_nil_of_right_ne_nil _ Nat.toDigits_ne_nil
  · intro c hc
    rcases List.mem_append.mp hc with hzero | hdigit
    · rw [List.eq_of_mem_replicate hzero]
      rfl
    · exact isDigit_of_mem_toDigits hdigit
  · rw [ofDigitChars_replicate_zero, Nat.ofDigitChars_ten_toDigits]

theorem signed?_minus (cs : List Char) :
    signed? ('-' :: cs) = (digits? cs).map fun n : Nat => -(n : Int) := by
  simp only [signed?]
  cases digits? cs <;> rfl

theorem signed?_plus (cs : List Char) :
    signed? ('+' :: cs) = (digits? cs).map fun n : Nat => (n : Int) := by
  simp only [signed?]
  cases digits? cs <;> rfl

/-- Without a sign, the whole text is digits. -/
theorem signed?_unsigned {cs : List Char} (hminus : cs.head? ≠ some '-')
    (hplus : cs.head? ≠ some '+') : signed? cs = (digits? cs).map fun n : Nat => (n : Int) := by
  unfold signed?
  split
  · exact absurd rfl hminus
  · exact absurd rfl hplus
  · cases digits? cs <;> rfl

theorem ne_sign_of_isDigit {c : Char} (h : c.isDigit = true) : c ≠ '-' ∧ c ≠ '+' := by
  constructor <;> (rintro rfl; cases h)

/-- An optional sign, and whether it is a minus. -/
inductive Sign : List Char → Bool → Prop where
  | absent : Sign [] false
  | plus : Sign ['+'] false
  | minus : Sign ['-'] true

/-- One or more ASCII digits. -/
def Digits (cs : List Char) : Prop :=
  cs ≠ [] ∧ ∀ c ∈ cs, c.isDigit = true

/-- The integer that digits denote behind a sign. -/
def signedValue (negative : Bool) (ds : List Char) : Int :=
  if negative then -(Nat.ofDigitChars 10 ds 0 : Int) else Nat.ofDigitChars 10 ds 0

/-- **WHAT READS AS A SIGNED NUMBER** is digits behind an optional sign. -/
theorem signed?_eq_some_iff {cs : List Char} {n : Int} :
    signed? cs = some n ↔ ∃ sign negative ds, Sign sign negative ∧ Digits ds ∧
      cs = sign ++ ds ∧ n = signedValue negative ds := by
  constructor
  · intro h
    by_cases hminus : cs.head? = some '-'
    · obtain ⟨ds, rfl⟩ := List.head?_eq_some_iff.mp hminus
      rw [signed?_minus] at h
      obtain ⟨m, hm, rfl⟩ := Option.map_eq_some_iff.mp h
      obtain ⟨hne, hds, rfl⟩ := digits?_eq_some_iff.mp hm
      exact ⟨['-'], true, ds, .minus, ⟨hne, hds⟩, rfl, rfl⟩
    by_cases hplus : cs.head? = some '+'
    · obtain ⟨ds, rfl⟩ := List.head?_eq_some_iff.mp hplus
      rw [signed?_plus] at h
      obtain ⟨m, hm, rfl⟩ := Option.map_eq_some_iff.mp h
      obtain ⟨hne, hds, rfl⟩ := digits?_eq_some_iff.mp hm
      exact ⟨['+'], false, ds, .plus, ⟨hne, hds⟩, rfl, rfl⟩
    · rw [signed?_unsigned hminus hplus] at h
      obtain ⟨m, hm, rfl⟩ := Option.map_eq_some_iff.mp h
      obtain ⟨hne, hds, rfl⟩ := digits?_eq_some_iff.mp hm
      exact ⟨[], false, cs, .absent, ⟨hne, hds⟩, rfl, rfl⟩
  · intro h
    obtain ⟨sign, negative, ds, hsign, ⟨hne, hds⟩, rfl, rfl⟩ := h
    have hdigits := digits?_eq_some_iff.mpr ⟨hne, hds, rfl⟩
    cases hsign with
    | absent =>
        obtain ⟨c, rest, rfl⟩ := List.exists_cons_of_ne_nil hne
        have hc := ne_sign_of_isDigit (hds c List.mem_cons_self)
        rw [List.nil_append, signed?_unsigned (by simpa using hc.1) (by simpa using hc.2), hdigits]
        rfl
    | plus => rw [List.singleton_append, signed?_plus, hdigits]; rfl
    | minus => rw [List.singleton_append, signed?_minus, hdigits]; rfl

/-- The first and the last character of padded digits are digits. -/
theorem exists_padded (zeros n : Nat) :
    ∃ c cs, List.replicate zeros '0' ++ Nat.toDigits 10 n = c :: cs ∧ c.isDigit = true ∧
      ((c :: cs).getLast (List.cons_ne_nil c cs)).isDigit = true := by
  have hpadded := digits?_eq_some_iff.mp (digits?_padded zeros n)
  obtain ⟨c, cs, hcs⟩ := List.exists_cons_of_ne_nil hpadded.1
  refine ⟨c, cs, hcs, ?_, ?_⟩
  · exact hpadded.2.1 c (by rw [hcs]; exact List.mem_cons_self)
  · exact hpadded.2.1 _ (by rw [hcs]; exact List.getLast_mem _)

theorem signed?_of_signs {n : Int} {sign : List Char} (hsign : sign ∈ signs n) (zeros : Nat) :
    signed? (sign ++ (List.replicate zeros '0' ++ Nat.toDigits 10 n.natAbs)) = some n := by
  have hdigits := digits?_padded zeros n.natAbs
  unfold signs at hsign
  split at hsign
  · rename_i hneg
    rw [List.mem_singleton.mp hsign, List.singleton_append, signed?_minus, hdigits,
      Option.map_some]
    congr 1
    omega
  · rename_i hnonneg
    have hcast : ((n.natAbs : Nat) : Int) = n := by omega
    rcases List.mem_cons.mp hsign with hnone | hplus
    · obtain ⟨c, cs, hcs, hdigit, _⟩ := exists_padded zeros n.natAbs
      have hhead := ne_sign_of_isDigit hdigit
      rw [hnone, List.nil_append, signed?_unsigned, hdigits, Option.map_some, hcast]
      · simpa [hcs] using hhead.1
      · simpa [hcs] using hhead.2
    · rw [List.mem_singleton.mp hplus, List.singleton_append, signed?_plus, hdigits,
        Option.map_some, hcast]

/-- What is spelled has no blank at either end of its signed digits. -/
theorem trim_of_spells {before sign after : List Char} {n : Int} {zeros : Nat}
    (hbefore : ∀ c ∈ before, isBlank c = true) (hafter : ∀ c ∈ after, isBlank c = true)
    (hsign : sign ∈ signs n) :
    trim (before ++ (sign ++ (List.replicate zeros '0' ++ Nat.toDigits 10 n.natAbs)) ++ after)
      = sign ++ (List.replicate zeros '0' ++ Nat.toDigits 10 n.natAbs) := by
  obtain ⟨c, cs, hcs, hdigit, hlast⟩ := exists_padded zeros n.natAbs
  rw [hcs]
  have hne : sign ++ c :: cs ≠ [] := List.append_ne_nil_of_right_ne_nil _ (List.cons_ne_nil c cs)
  refine trim_append hne hbefore hafter ?_ ?_
  · have hhead : sign = [] ∨ sign = ['-'] ∨ sign = ['+'] := by
      unfold signs at hsign
      split at hsign <;> simp at hsign
      · exact .inr (.inl hsign)
      · exact hsign.imp_right .inr
    rcases hhead with rfl | rfl | rfl
    · exact isBlank_of_isDigit hdigit
    · rfl
    · rfl
  · rw [List.getLast_append_of_ne_nil _ (List.cons_ne_nil c cs)]
    exact isBlank_of_isDigit hlast

theorem fit32?_toInt (n : Int32) : fit32? n.toInt = some n := by
  rw [fit32?, if_pos ⟨n.minValue_le_toInt, n.toInt_le⟩, Int32.ofInt_toInt]

/-- **EVERY SPELLING OF A NUMBER READS AS THE NUMBER.** -/
theorem int?_of_spells {s : String} {n : Int32} (h : Spells s n.toInt) : int? s = some n := by
  obtain ⟨before, sign, after, zeros, hs, hbefore, hafter, hsign⟩ := h
  rw [int?, hs, trim_of_spells hbefore hafter hsign, signed?_of_signs hsign, Option.bind_some,
    fit32?_toInt]

/-- The greatest index that a segment can write. -/
def maxIndex : Nat := Int32.maxValue.toInt.toNat

theorem exists_int32 {i : Nat} (h : i ≤ maxIndex) : ∃ n : Int32, n.toInt = i := by
  have hi : (i : Int) ≤ 2147483647 := Int.ofNat_le.mpr h
  exact ⟨Int32.ofInt i, Int32.toInt_ofInt_of_le (by omega) (by omega)⟩

theorem index?_of_int? {s : String} {n : Int32} (h : int? s = some n) (hn : 0 ≤ n.toInt) :
    index? s = some n.toInt.toNat := by
  rw [index?, h, Option.bind_some, if_pos hn]

theorem index?_of_spells {s : String} {i : Nat} (hi : i ≤ maxIndex) (h : Spells s i) :
    index? s = some i := by
  obtain ⟨n, hn⟩ := exists_int32 hi
  rw [← hn] at h
  rw [index?_of_int? (int?_of_spells h) (by omega), hn, Int.toNat_natCast]

theorem spells_ofNat (i : Nat) : Spells (ofNat i) i := by
  refine ⟨[], [], [], 0, ?_, nofun, nofun, ?_⟩
  · simp [ofNat]
  · rw [signs, if_neg (by omega)]
    exact List.mem_cons_self

theorem spells_ofInt (n : Int) : Spells (ofInt n) n := by
  unfold ofInt
  split
  · rename_i hneg
    refine ⟨[], ['-'], [], 0, ?_, nofun, nofun, ?_⟩
    · simp
    · simp [signs, hneg]
  · rename_i hnonneg
    refine ⟨[], [], [], 0, ?_, nofun, nofun, ?_⟩
    · simp [ofNat]
    · simp [signs, hnonneg]

/-- The decimal text of an integer reads back. -/
theorem int?_ofInt (n : Int32) : int? (ofInt n.toInt) = some n :=
  int?_of_spells (spells_ofInt n.toInt)

/-- The decimal text of an index reads back. -/
theorem index?_ofNat {i : Nat} (hi : i ≤ maxIndex) : index? (ofNat i) = some i :=
  index?_of_spells hi (spells_ofNat i)

/-- A decimal text has digits in it, and perhaps a minus sign in front of them. -/
theorem mem_ofInt {n : Int} {c : Char} (h : c ∈ (ofInt n).toList) : c = '-' ∨ c.isDigit = true := by
  unfold ofInt at h
  split at h
  · rw [String.toList_ofList] at h
    exact (List.mem_cons.mp h).imp_right isDigit_of_mem_toDigits
  · rw [ofNat, String.toList_ofList] at h
    exact .inr (isDigit_of_mem_toDigits h)

theorem ofInt_natCast (i : Nat) : ofInt i = ofNat i := by
  rw [ofInt, if_neg (by omega), Int.natAbs_natCast]

/-! ## §4. Lengths. -/

/-- What reads as a signed number has the digits of its absolute value in it. -/
theorem digits?_of_signed? {cs : List Char} {n : Int} (h : signed? cs = some n) :
    ∃ ds, ds.Sublist cs ∧ digits? ds = some n.natAbs := by
  obtain ⟨sign, negative, ds, _, ⟨hne, hds⟩, rfl, rfl⟩ := signed?_eq_some_iff.mp h
  refine ⟨ds, List.sublist_append_right sign ds, digits?_eq_some_iff.mpr ⟨hne, hds, ?_⟩⟩
  unfold signedValue
  split <;> omega

theorem int?_eq_some_iff {s : String} {n : Int32} :
    int? s = some n ↔ signed? (trim s.toList) = some n.toInt := by
  rw [int?, Option.bind_eq_some_iff]
  constructor
  · rintro ⟨m, hm, hfit⟩
    unfold fit32? at hfit
    split at hfit
    · rename_i hrange
      injection hfit with hfit
      have hlo : -2 ^ 31 ≤ m := Int32.toInt_minValue ▸ hrange.1
      have hhi : m < 2 ^ 31 := by
        have := Int32.toInt_maxValue ▸ hrange.2
        omega
      rw [hm, ← hfit, Int32.toInt_ofInt_of_le hlo hhi]
    · cases hfit
  · intro h
    exact ⟨n.toInt, h, fit32?_toInt n⟩

theorem index?_eq_some_iff {s : String} {i : Nat} :
    index? s = some i ↔ ∃ n : Int32, int? s = some n ∧ n.toInt = i := by
  rw [index?, Option.bind_eq_some_iff]
  constructor
  · rintro ⟨n, hn, hi⟩
    split at hi
    · injection hi with hi
      exact ⟨n, hn, by omega⟩
    · cases hi
  · rintro ⟨n, hn, hi⟩
    refine ⟨n, hn, ?_⟩
    rw [if_pos (by omega), hi, Int.toNat_natCast]

theorem le_maxIndex_of_index? {s : String} {i : Nat} (h : index? s = some i) : i ≤ maxIndex := by
  obtain ⟨n, _, hn⟩ := index?_eq_some_iff.mp h
  have hle : n.toInt ≤ 2147483647 := n.toInt_le
  show i ≤ 2147483647
  omega

theorem length_le_utf8Len (cs : List Char) : cs.length ≤ String.utf8Len cs := by
  induction cs with
  | nil => exact Nat.le_refl 0
  | cons c rest ih =>
      exact Nat.add_le_add ih c.utf8Size_pos

theorem utf8Len_of_isDigit {cs : List Char} (h : ∀ c ∈ cs, c.isDigit = true) :
    String.utf8Len cs = cs.length := by
  induction cs with
  | nil => rfl
  | cons c rest ih =>
      have hc : c.utf8Size = 1 := by
        have hdigit := h c List.mem_cons_self
        simp only [Char.isDigit, Bool.and_eq_true, decide_eq_true_eq] at hdigit
        exact Char.utf8Size_eq_one_iff.mpr (UInt32.le_trans hdigit.2 (by decide))
      rw [List.length_cons, String.utf8Len_cons, hc, ih fun d hd => h d (List.mem_cons_of_mem c hd)]

/-- **NO SPELLING IS SHORTER THAN THE DECIMAL TEXT** of its number or of a smaller one. -/
theorem utf8ByteSize_ofNat_le {s : String} {i k : Nat} (h : index? s = some i) (hk : k ≤ i) :
    (ofNat k).utf8ByteSize ≤ s.utf8ByteSize := by
  obtain ⟨n, hn, hi⟩ := index?_eq_some_iff.mp h
  obtain ⟨ds, hsub, hdigits⟩ := digits?_of_signed? (int?_eq_some_iff.mp hn)
  obtain ⟨hne, hall, hvalue⟩ := digits?_eq_some_iff.mp hdigits
  -- As many digits as the spelling has are enough for every number up to its own.
  have hlt : k < 10 ^ ds.length := by
    have := ofDigitChars_lt hall
    omega
  have hlength : (Nat.toDigits 10 k).length ≤ ds.length :=
    (Nat.length_toDigits_le_iff (by decide) (List.length_pos_iff.mpr hne)).mpr hlt
  calc (ofNat k).utf8ByteSize
      = (Nat.toDigits 10 k).length := by
        rw [ofNat, String.utf8ByteSize_ofList,
          utf8Len_of_isDigit fun c hc => isDigit_of_mem_toDigits hc]
    _ ≤ ds.length := hlength
    _ ≤ s.toList.length := (hsub.trans (trim_sublist _)).length_le
    _ ≤ String.utf8Len s.toList := length_le_utf8Len _
    _ = s.utf8ByteSize := by rw [← String.utf8ByteSize_ofList, String.ofList_toList]

end ConfigGraph.Text
