/-
  ConfigGraph.Proofs.Operator
  ────────────────────────────────
  **WHEN OPERATOR TOKENS CAN BE TOLD APART.**

  A raw value is a value, some blanks and a token.  Cutting the token off
  finds the value again: what is left in front of a token is a value that
  does not end in a blank, and blanks, in one way only.  So all that can go
  wrong is that the wrong token is cut off.

  Two tokens that end one text end one another, the shorter one the longer.
  If no token ends another one, then at most one of them ends a text, and
  every value is read back as it was written.  If one does, the longer token
  is a raw value that can be written for either operation, and it is read for
  one of them.

  Main results:
    * `cut?_eq_some_iff` — values, blanks and a token
    * `split_of_marked`, `split_of_unmarked`
    * `Apart.split_append`, `apart_of_split_append`
    * `split_unambiguous`
-/
import Mathlib.Data.List.Basic
import Mathlib.Data.List.TakeWhile
import ConfigGraph.Directive.Operator

namespace ConfigGraph

/-! ## §1. Blanks at the end. -/

namespace Text

/-- The last character, if there is one, is no blank. -/
def Unblank (s : String) : Prop :=
  ∀ c, s.toList.getLast? = some c → isBlank c = false

theorem trimEnd_of_unblank {cs : List Char}
    (h : ∀ c, cs.getLast? = some c → isBlank c = false) : trimEnd cs = cs := by
  rw [trimEnd]
  cases hreverse : cs.reverse with
  | nil => rw [List.dropWhile_nil, ← hreverse, List.reverse_reverse]
  | cons c rest =>
      have hlast : cs.getLast? = some c := by
        rw [← List.head?_reverse, hreverse, List.head?_cons]
      rw [List.dropWhile_cons_of_neg (by simpa using h c hlast), ← hreverse, List.reverse_reverse]

/-- Blanks at the end make no difference. -/
theorem trimEnd_append {cs blanks : List Char} (h : ∀ c ∈ blanks, isBlank c = true) :
    trimEnd (cs ++ blanks) = trimEnd cs := by
  rw [trimEnd, List.reverse_append, List.dropWhile_append_of_pos (by simpa using h), trimEnd]

/-- Trimming leaves a text that does not end in a blank. -/
theorem unblank_trimEnd (cs : List Char) :
    ∀ c, (trimEnd cs).getLast? = some c → isBlank c = false := by
  intro c hlast
  have hhead := List.head?_dropWhile_not isBlank cs.reverse
  rw [trimEnd, List.getLast?_reverse] at hlast
  rw [hlast] at hhead
  exact hhead

/-- And what it takes away is blank. -/
theorem exists_blanks (cs : List Char) :
    ∃ blanks, (∀ c ∈ blanks, isBlank c = true) ∧ trimEnd cs ++ blanks = cs := by
  refine ⟨(cs.reverse.takeWhile isBlank).reverse, ?_, ?_⟩
  · intro c hc
    exact List.mem_takeWhile_imp (List.mem_reverse.mp hc)
  · rw [trimEnd, ← List.reverse_append, List.takeWhile_append_dropWhile, List.reverse_reverse]

end Text

namespace OperatorTokens

variable {tokens : OperatorTokens} {raw value : String} {operation : Operation}

/-! ## §2. One token. -/

/-- **WHAT IS CUT OFF** is the token and the blanks in front of it, all of them and nothing
else. -/
theorem cut?_eq_some_iff {token : String} :
    cut? token raw = some value ↔ Text.Unblank value ∧
      ∃ blanks, Text.isBlankText blanks = true ∧ raw = value ++ blanks ++ token := by
  unfold cut?
  rw [Option.map_eq_some_iff]
  constructor
  · intro h
    obtain ⟨rest, hrest, hvalue⟩ := h
    rw [List.isSuffixOf?_eq_some_iff_append_eq] at hrest
    obtain ⟨blanks, hblanks, happend⟩ := Text.exists_blanks rest
    subst hvalue
    refine ⟨?_, String.ofList blanks, ?_, ?_⟩
    · rw [Text.Unblank, String.toList_ofList]
      exact Text.unblank_trimEnd rest
    · simpa [Text.isBlankText] using hblanks
    · rw [← String.toList_inj]
      simp only [String.toList_append, String.toList_ofList, happend, hrest]
  · intro h
    obtain ⟨hvalue, blanks, hblanks, hraw⟩ := h
    refine ⟨value.toList ++ blanks.toList, ?_, ?_⟩
    · rw [List.isSuffixOf?_eq_some_iff_append_eq, hraw]
      simp only [String.toList_append]
    · rw [Text.trimEnd_append (by simpa [Text.isBlankText] using hblanks),
        Text.trimEnd_of_unblank hvalue, String.ofList_toList]

theorem cut?_append (token : String) (hblank : Text.Unblank value) :
    cut? token (value ++ token) = some value :=
  cut?_eq_some_iff.mpr ⟨hblank, "", rfl, by rw [String.append_empty]⟩

theorem cut?_eq_none_iff {token : String} :
    cut? token raw = none ↔ ¬ token.toList <:+ raw.toList := by
  unfold cut?
  rw [Option.map_eq_none_iff, Option.eq_none_iff_forall_ne_some]
  constructor
  · intro h hsuffix
    obtain ⟨rest, hrest⟩ := hsuffix
    exact h rest (List.isSuffixOf?_eq_some_iff_append_eq.mpr hrest)
  · intro h rest hrest
    exact h ⟨rest, List.isSuffixOf?_eq_some_iff_append_eq.mp hrest⟩

/-! ## §3. The first token. -/

/-- The entries are the operations that have a token, with their tokens. -/
theorem mem_entries_iff {entry : String × Operation} :
    entry ∈ tokens.entries ↔ entry.2 ≠ .overwrite ∧ entry.1 = tokens.token entry.2 := by
  obtain ⟨token, operation⟩ := entry
  cases operation <;> simp [entries, OperatorTokens.token]

/-- No token ends the text. -/
def Unmarked (tokens : OperatorTokens) (raw : String) : Prop :=
  ∀ entry ∈ tokens.entries, ¬ entry.1.toList <:+ raw.toList

instance (tokens : OperatorTokens) (raw : String) : Decidable (tokens.Unmarked raw) :=
  inferInstanceAs (Decidable (∀ entry ∈ tokens.entries, _))

/-- The token of the operation ends the text, and of those that are tried before it none does. -/
def FirstMark (tokens : OperatorTokens) (raw : String) (operation : Operation) : Prop :=
  (tokens.token operation).toList <:+ raw.toList ∧
    ∃ before after, tokens.entries = before ++ (tokens.token operation, operation) :: after ∧
      ∀ entry ∈ before, ¬ entry.1.toList <:+ raw.toList

theorem split_of_unmarked (h : tokens.Unmarked raw) : tokens.split raw = (.overwrite, raw) := by
  rw [split, List.findSome?_eq_none_iff.mpr, Option.getD_none]
  rintro ⟨token, operation⟩ hentry
  simp only [cut?_eq_none_iff.mpr (h _ hentry), Option.map_none]

/-- **THE FIRST TOKEN THAT ENDS THE TEXT** selects the operation and is cut off. -/
theorem split_of_marked (h : ¬ tokens.Unmarked raw) :
    ∃ operation value blanks, tokens.split raw = (operation, value) ∧
      operation ≠ .overwrite ∧ tokens.FirstMark raw operation ∧ Text.Unblank value ∧
      Text.isBlankText blanks = true ∧ raw = value ++ blanks ++ tokens.token operation := by
  -- Some token is cut off, and the search ends at the first one.
  have hsearch : tokens.split raw = (tokens.entries.findSome? fun entry =>
      (cut? entry.1 raw).map fun value => (entry.2, value)).getD (.overwrite, raw) := rfl
  cases hfind : tokens.entries.findSome? fun entry =>
      (cut? entry.1 raw).map fun value => (entry.2, value) with
  | none =>
      refine absurd ?_ h
      intro entry hentry
      have hnone := List.findSome?_eq_none_iff.mp hfind entry hentry
      rw [Option.map_eq_none_iff] at hnone
      exact cut?_eq_none_iff.mp hnone
  | some hit =>
      obtain ⟨before, entry, after, hentries, hhit, hbefore⟩ := List.findSome?_eq_some_iff.mp hfind
      obtain ⟨value, hcut, rfl⟩ := Option.map_eq_some_iff.mp hhit
      have hmem : entry ∈ tokens.entries := by
        rw [hentries]
        exact List.mem_append_right before List.mem_cons_self
      obtain ⟨hoperation, htoken⟩ := mem_entries_iff.mp hmem
      obtain ⟨hvalue, blanks, hblanks, hraw⟩ := cut?_eq_some_iff.mp hcut
      have hsuffix : entry.1.toList <:+ raw.toList := by
        rw [hraw, String.toList_append]
        exact List.suffix_append _ _
      refine ⟨entry.2, value, blanks, ?_, hoperation, ?_, hvalue, hblanks, ?_⟩
      · rw [hsearch, hfind, Option.getD_some]
      · rw [FirstMark, ← htoken]
        refine ⟨hsuffix, before, after, hentries, ?_⟩
        intro other hother
        have hnone := hbefore other hother
        rw [Option.map_eq_none_iff] at hnone
        exact cut?_eq_none_iff.mp hnone
      · rw [← htoken, hraw]

/-- A text is overwritten with as it is just if no token ends it. -/
theorem split_eq_overwrite_iff :
    tokens.split raw = (.overwrite, raw) ↔ tokens.Unmarked raw := by
  refine ⟨fun h => ?_, split_of_unmarked⟩
  by_contra hmarked
  obtain ⟨operation, value, blanks, hsplit, hoperation, _⟩ := split_of_marked hmarked
  rw [hsplit] at h
  injection h with h
  exact hoperation h

/-! ## §4. Tokens that end no other one. -/

/-- No token ends another one. -/
def Apart (tokens : OperatorTokens) : Prop :=
  ∀ a ∈ tokens.entries, ∀ b ∈ tokens.entries, a.2 ≠ b.2 → ¬ a.1.toList <:+ b.1.toList

instance (tokens : OperatorTokens) : Decidable tokens.Apart :=
  inferInstanceAs (Decidable (∀ a ∈ tokens.entries, ∀ b ∈ tokens.entries, _))

/-- The empty text ends every text, so it is no token. -/
theorem Apart.nonempty (h : tokens.Apart) {entry : String × Operation}
    (hentry : entry ∈ tokens.entries) : entry.1.isEmpty = false := by
  rw [Bool.eq_false_iff]
  intro hempty
  -- There are three operations, so there is another one.
  obtain ⟨other, hother, hne⟩ : ∃ other ∈ tokens.entries, entry.2 ≠ other.2 := by
    by_cases hinsert : entry.2 = .insert
    · refine ⟨(tokens.remove, .remove), by simp [entries], ?_⟩
      simp [hinsert]
    · exact ⟨(tokens.insert, .insert), by simp [entries], hinsert⟩
  refine h entry hentry other hother hne ?_
  rw [String.isEmpty_iff.mp hempty]
  exact List.nil_suffix

theorem Apart.insert_nonempty (h : tokens.Apart) : tokens.insert.isEmpty = false :=
  h.nonempty (mem_entries_iff.mpr ⟨nofun, rfl⟩ : (tokens.insert, Operation.insert) ∈ _)

/-- Every text ends itself, so no token is the token of two operations. -/
theorem Apart.ne (h : tokens.Apart) {a b : String × Operation} (ha : a ∈ tokens.entries)
    (hb : b ∈ tokens.entries) (hne : a.2 ≠ b.2) : a.1 ≠ b.1 := by
  intro heq
  refine h a ha b hb hne ?_
  simp only [heq, List.suffix_refl]

/-- **WHAT WAS WRITTEN IS READ BACK** if no token ends another one. -/
theorem Apart.split_append (h : tokens.Apart) (hoperation : operation ≠ .overwrite)
    (hvalue : Text.Unblank value) {blanks : String} (hblanks : Text.isBlankText blanks = true) :
    tokens.split (value ++ blanks ++ tokens.token operation) = (operation, value) := by
  have hcut : cut? (tokens.token operation) (value ++ blanks ++ tokens.token operation)
      = some value := cut?_eq_some_iff.mpr ⟨hvalue, blanks, hblanks, rfl⟩
  have hsuffix : (tokens.token operation).toList
      <:+ (value ++ blanks ++ tokens.token operation).toList := by
    rw [String.toList_append]
    exact List.suffix_append _ _
  have hmarked : ¬ tokens.Unmarked (value ++ blanks ++ tokens.token operation) := fun hnone =>
    hnone (_, operation) (mem_entries_iff.mpr ⟨hoperation, rfl⟩) hsuffix
  obtain ⟨operation', value', blanks', hsplit, hoperation', hfirst, hvalue', hblanks', hraw⟩ :=
    split_of_marked hmarked
  -- Two tokens that end one text are comparable, so it is the token that was written.
  have hsame : operation' = operation := by
    by_contra hne
    have hmem : (tokens.token operation, operation) ∈ tokens.entries :=
      mem_entries_iff.mpr ⟨hoperation, rfl⟩
    have hmem' : (tokens.token operation', operation') ∈ tokens.entries :=
      mem_entries_iff.mpr ⟨hoperation', rfl⟩
    rcases List.suffix_or_suffix_of_suffix hfirst.1 hsuffix with hends | hends
    · exact h _ hmem' _ hmem hne hends
    · exact h _ hmem _ hmem' (Ne.symm hne) hends
  subst hsame
  have hcut' := cut?_eq_some_iff.mpr ⟨hvalue', blanks', hblanks', hraw⟩
  rw [hcut] at hcut'
  injection hcut' with hsameValue
  rw [hsplit, hsameValue]

/-- And only then: a token that ends with another one can be written for both operations. -/
theorem apart_of_split_append
    (h : ∀ operation, operation ≠ .overwrite → ∀ value blanks, Text.Unblank value →
      Text.isBlankText blanks = true →
      tokens.split (value ++ blanks ++ tokens.token operation) = (operation, value)) :
    tokens.Apart := by
  intro a ha b hb hne hends
  obtain ⟨hoperation, htoken⟩ := mem_entries_iff.mp ha
  obtain ⟨hoperation', htoken'⟩ := mem_entries_iff.mp hb
  obtain ⟨rest, hrest⟩ := hends
  obtain ⟨blanks, hblanks, happend⟩ := Text.exists_blanks rest
  -- The longer token, written as itself and as a value, blanks and the shorter one.
  have hlong := h b.2 hoperation' "" "" nofun rfl
  have hshort := h a.2 hoperation (String.ofList (Text.trimEnd rest)) (String.ofList blanks) ?_ ?_
  · have hsame : String.ofList (Text.trimEnd rest) ++ String.ofList blanks ++ tokens.token a.2
        = "" ++ "" ++ tokens.token b.2 := by
      rw [← String.toList_inj, ← htoken, ← htoken']
      simp [happend, hrest]
    rw [hsame, hlong] at hshort
    injection hshort with hsameOperation
    exact hne hsameOperation.symm
  · rw [Text.Unblank, String.toList_ofList]
    exact Text.unblank_trimEnd rest
  · simpa [Text.isBlankText] using hblanks

/-! ## §5. Values with nothing to cut off. -/

/-- The text is a value with nothing to cut off: it is not empty, its last character is no blank,
and no token ends it. -/
structure Plain (tokens : OperatorTokens) (value : String) : Prop where
  /-- It is not empty. -/
  nonempty : value.isEmpty = false
  /-- Its last character is no blank. -/
  unblank : ∀ c, value.toList.getLast? = some c → Text.isBlank c = false
  /-- No token ends it. -/
  unmarked : ∀ entry ∈ tokens.entries, ¬ entry.1.toList <:+ value.toList

theorem plain_iff {tokens : OperatorTokens} {value : String} :
    (value.isEmpty = false ∧ (value.toList.getLast?.all fun c => !Text.isBlank c) = true ∧
      ∀ entry ∈ tokens.entries, ¬ entry.1.toList <:+ value.toList) ↔ tokens.Plain value := by
  rw [Option.all_eq_true]
  constructor
  · rintro ⟨nonempty, unblank, unmarked⟩
    exact ⟨nonempty, fun c h => by simpa using unblank c h, unmarked⟩
  · intro h
    exact ⟨h.nonempty, fun c hc => by simpa using h.unblank c hc, h.unmarked⟩

instance (tokens : OperatorTokens) (value : String) : Decidable (tokens.Plain value) :=
  decidable_of_iff _ plain_iff

/-- The insert token is tried first. -/
theorem split_insert (tokens : OperatorTokens) (hblank : Text.Unblank value) :
    tokens.split (value ++ tokens.insert) = (.insert, value) := by
  simp [split, entries, cut?_append tokens.insert hblank]

/-- A bare token says nothing about a value. -/
theorem split_bare (tokens : OperatorTokens) : tokens.split tokens.insert = (.insert, "") := by
  have h : tokens.split ("" ++ tokens.insert) = (.insert, "") := split_insert tokens nofun
  rwa [String.empty_append] at h

/-- A text that ends in no token is a value to overwrite with. -/
theorem Plain.split_eq (h : tokens.Plain value) : tokens.split value = (.overwrite, value) :=
  split_of_unmarked h.unmarked

theorem Plain.append_nonempty (h : tokens.Plain value) (token : String) :
    (value ++ token).isEmpty = false := by
  rw [Bool.eq_false_iff]
  intro hempty
  have hvalue := (String.append_eq_empty_iff.mp (String.isEmpty_iff.mp hempty)).1
  exact Bool.noConfusion (h.nonempty.symm.trans (String.isEmpty_iff.mpr hvalue))

theorem Plain.not_blank (h : tokens.Plain value) : Text.isBlankText value = false := by
  have hne : value.toList ≠ [] := fun hnil => by
    rw [String.toList_eq_nil_iff.mp hnil] at h
    exact Bool.noConfusion h.nonempty
  rw [Text.isBlankText, List.all_eq_false]
  refine ⟨value.toList.getLast hne, List.getLast_mem hne, ?_⟩
  rw [h.unblank _ (List.getLast?_eq_some_getLast hne)]
  exact Bool.false_ne_true

/-! ## §6. The statement. -/

/-- How raw values are split, and when the operation and the value that were written can be
read back. -/
structure Splits (tokens : OperatorTokens) : Prop where
  /-- A text overwrites, as it is, just if no token ends it. -/
  plain : ∀ raw, tokens.split raw = (.overwrite, raw) ↔ tokens.Unmarked raw
  /-- Otherwise the first token that ends it selects the operation.  The value does not end in a
  blank, and the text is the value, blanks and the token. -/
  marked : ∀ raw, ¬ tokens.Unmarked raw →
    ∃ operation value blanks, tokens.split raw = (operation, value) ∧
      operation ≠ .overwrite ∧ tokens.FirstMark raw operation ∧ Text.Unblank value ∧
      Text.isBlankText blanks = true ∧ raw = value ++ blanks ++ tokens.token operation
  /-- All operations and values are read back as they are written just if no token ends another
  one. -/
  roundTrip : (∀ operation, operation ≠ .overwrite → ∀ value blanks, Text.Unblank value →
    Text.isBlankText blanks = true →
    tokens.split (value ++ blanks ++ tokens.token operation) = (operation, value)) ↔ tokens.Apart
  /-- Then no token is empty, and no two of them are the same. -/
  distinct : tokens.Apart → (∀ entry ∈ tokens.entries, entry.1.isEmpty = false) ∧
    ∀ a ∈ tokens.entries, ∀ b ∈ tokens.entries, a.2 ≠ b.2 → a.1 ≠ b.1

/-- **RAW VALUES ARE UNAMBIGUOUS JUST IF NO TOKEN ENDS ANOTHER ONE**, and the standard tokens
are unambiguous. -/
theorem split_unambiguous :
    (∀ tokens : OperatorTokens, tokens.Splits) ∧ OperatorTokens.standard.Apart := by
  refine ⟨fun tokens => ?_, by decide⟩
  constructor
  case plain => exact fun raw => split_eq_overwrite_iff
  case marked => exact fun raw => split_of_marked
  case roundTrip =>
    refine ⟨apart_of_split_append, ?_⟩
    intro apart operation hoperation value blanks hvalue hblanks
    exact apart.split_append hoperation hvalue hblanks
  case distinct =>
    intro apart
    exact ⟨fun entry hentry => apart.nonempty hentry, fun a ha b hb hne => apart.ne ha hb hne⟩

/-- The insert token ends the remove token here, and nothing can be removed any more. -/
example : (OperatorTokens.mk "+" "!+" "!d").split "x !+" = (.insert, "x !") := by decide

end OperatorTokens

end ConfigGraph
