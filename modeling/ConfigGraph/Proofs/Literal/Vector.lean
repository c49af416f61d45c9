/-
  ConfigGraph.Proofs.Literal.Vector
  ────────────────────────────────
  **THE GRAMMAR OF VECTORS.**

  A vector literal is a list of parts between parentheses, with a comma
  between two parts and none in them.  A text encloses at most one such list,
  and it encloses one as soon as it begins and ends with the parentheses, so
  the list decides what the text reads as: its length first, and then
  whether each part is a number literal.

  Main results:
    * `encloses_iff`, `exists_encloses_iff`
    * `vector_eq_iff`
    * `literals_grammar`
-/
import Mathlib.Data.List.Forall2
import ConfigGraph.Proofs.Literal.Number
import ConfigGraph.Proofs.Path.Codec

namespace ConfigGraph.Literal

open Numeral (Decimal)
open Text (trim)

variable {raw : String} {parts : List String} {cs inner : List Char} {dim : Dim}
  {components : List Binary32}

/-! ## §1. Parts between parentheses. -/

/-- The text is the parts between parentheses, with commas between them and none in them. -/
structure Encloses (raw : String) (parts : List String) : Prop where
  text : raw = "(" ++ ",".intercalate parts ++ ")"
  nonempty : parts ≠ []
  commaFree : ∀ part ∈ parts, ',' ∉ part.toList

/-- The text begins with the one parenthesis and, after that, ends with the other. -/
def Parenthesized (raw : String) : Prop :=
  ∃ rest, raw.toList = '(' :: rest ∧ rest.getLast? = some ')'

theorem enclosed?_eq_some_iff : enclosed? cs = some inner ↔ cs = '(' :: (inner ++ [')']) := by
  constructor
  · intro h
    unfold enclosed? at h
    split at h
    · rename_i rest
      split at h
      · rename_i hlast
        obtain ⟨init, rfl⟩ := List.getLast?_eq_some_iff.mp hlast
        injection h with h
        rw [List.dropLast_concat] at h
        rw [h]
      · cases h
    · cases h
  · rintro rfl
    rw [enclosed?, if_pos List.getLast?_concat, List.dropLast_concat]

theorem toList_enclosing (parts : List String) :
    ("(" ++ ",".intercalate parts ++ ")").toList
      = '(' :: ([','].intercalate (parts.map String.toList) ++ [')']) := by
  simp [String.toList_intercalate]

/-- **THE PARTS ARE WHAT IS BETWEEN THE COMMAS.** -/
theorem encloses_iff : Encloses raw parts ↔
    ∃ inner, enclosed? raw.toList = some inner ∧
      parts = (inner.splitOn ',').map String.ofList := by
  constructor
  · intro h
    refine ⟨[','].intercalate (parts.map String.toList), ?_, ?_⟩
    · rw [enclosed?_eq_some_iff, h.text, toList_enclosing]
    · rw [List.splitOn_intercalate ',' ?_ (by simpa using h.nonempty),
        FieldPath.map_ofList_toList]
      intro part hpart
      obtain ⟨text, htext, rfl⟩ := List.mem_map.mp hpart
      exact h.commaFree text htext
  · intro h
    obtain ⟨inner, hinner, rfl⟩ := h
    have hid : String.toList ∘ String.ofList = id := funext fun _ => String.toList_ofList
    refine ⟨?_, by simp, fun part hpart => ?_⟩
    · rw [← String.toList_inj, toList_enclosing, List.map_map, hid, List.map_id,
        List.intercalate_splitOn]
      exact enclosed?_eq_some_iff.mp hinner
    · obtain ⟨text, htext, rfl⟩ := List.mem_map.mp hpart
      rw [String.toList_ofList]
      exact Text.not_mem_of_mem_splitOn htext

/-- **THE PARENTHESES ARE ENOUGH** for a text to enclose parts. -/
theorem exists_encloses_iff : (∃ parts, Encloses raw parts) ↔ Parenthesized raw := by
  constructor
  · intro h
    obtain ⟨parts, hparts⟩ := h
    refine ⟨_, by rw [hparts.text, toList_enclosing], List.getLast?_concat⟩
  · intro h
    obtain ⟨rest, hraw, hlast⟩ := h
    obtain ⟨inner, rfl⟩ := List.getLast?_eq_some_iff.mp hlast
    exact ⟨_, encloses_iff.mpr ⟨inner, enclosed?_eq_some_iff.mpr hraw, rfl⟩⟩

/-! ## §2. Reading the parts. -/

theorem mapM_eq_some_iff {read : String → Option Binary32} :
    parts.mapM read = some components ↔
      List.Forall₂ (fun part x => read part = some x) parts components := by
  induction parts generalizing components with
  | nil => simp [eq_comm]
  | cons part rest ih =>
      rw [List.mapM_cons]
      constructor
      · intro h
        obtain ⟨x, hx, h⟩ := Option.bind_eq_some_iff.mp h
        obtain ⟨xs, hxs, h⟩ := Option.bind_eq_some_iff.mp h
        injection h with h
        rw [← h]
        exact .cons hx (ih.mp hxs)
      · intro h
        obtain ⟨x, xs, hx, hxs, rfl⟩ := List.forall₂_cons_left_iff.mp h
        simp [hx, ih.mpr hxs]

theorem mapM_eq_none_iff {read : String → Option Binary32} :
    parts.mapM read = none ↔ ∃ part ∈ parts, read part = none := by
  induction parts with
  | nil => simp
  | cons part rest ih =>
      rw [List.mapM_cons]
      cases hpart : read part with
      | none => simp [hpart]
      | some x => cases hrest : rest.mapM read <;> simp [← ih, hpart, hrest]

/-- **WHAT PARTS READ AS**: their number is looked at before they are. -/
theorem vector_of_encloses (h : Encloses raw parts) :
    vector dim raw =
      if parts.length = dim.size then (parts.mapM float?).elim (.error .malformed) .ok
      else .error (.wrongArity dim.size parts.length) := by
  obtain ⟨inner, hinner, rfl⟩ := encloses_iff.mp h
  have hread : ((inner.splitOn ',').map String.ofList).mapM float?
      = (inner.splitOn ',').mapM floatChars? := by
    rw [List.mapM_map]
    congr 1
    funext part
    show floatChars? (String.ofList part).toList = floatChars? part
    rw [String.toList_ofList]
  simp only [vector, hinner, hread, List.length_map]
  cases (inner.splitOn ',').mapM floatChars? <;> rfl

theorem vector_of_bare (h : ¬ Parenthesized raw) :
    vector dim raw = .error .missingParentheses := by
  have hnone : enclosed? raw.toList = none := by
    rw [Option.eq_none_iff_forall_not_mem]
    intro inner hinner
    exact h (exists_encloses_iff.mp ⟨_, encloses_iff.mpr ⟨inner, hinner, rfl⟩⟩)
  rw [vector, hnone]

/-- What a text reads as, if a vector of the given size is asked for. -/
inductive VectorRead (dim : Dim) (raw : String) : Except ParseIssue (List Binary32) → Prop where
  /-- Parentheses are missing. -/
  | bare (h : ¬ Parenthesized raw) : VectorRead dim raw (.error .missingParentheses)
  /-- There are too few or too many parts. -/
  | arity {parts : List String} (h : Encloses raw parts) (hlength : parts.length ≠ dim.size) :
      VectorRead dim raw (.error (.wrongArity dim.size parts.length))
  /-- A part is not a number literal. -/
  | malformed {parts : List String} (h : Encloses raw parts) (hlength : parts.length = dim.size)
      (hpart : ∃ part ∈ parts, float? part = none) : VectorRead dim raw (.error .malformed)
  /-- Each part is a number literal. -/
  | components {parts : List String} {components : List Binary32} (h : Encloses raw parts)
      (hlength : parts.length = dim.size)
      (hparts : List.Forall₂ (fun part x => float? part = some x) parts components) :
      VectorRead dim raw (.ok components)

variable {result : Except ParseIssue (List Binary32)}

theorem vectorRead_vector (dim : Dim) (raw : String) : VectorRead dim raw (vector dim raw) := by
  by_cases hparenthesized : Parenthesized raw
  · obtain ⟨parts, h⟩ := exists_encloses_iff.mpr hparenthesized
    rw [vector_of_encloses h]
    by_cases hlength : parts.length = dim.size
    · rw [if_pos hlength]
      cases hparts : parts.mapM float? with
      | some components => exact .components h hlength (mapM_eq_some_iff.mp hparts)
      | none => exact .malformed h hlength (mapM_eq_none_iff.mp hparts)
    · rw [if_neg hlength]
      exact .arity h hlength
  · rw [vector_of_bare hparenthesized]
    exact .bare hparenthesized

/-- **EVERY TEXT READS AS ONE THING.** -/
theorem vector_eq_iff : vector dim raw = result ↔ VectorRead dim raw result := by
  constructor
  · intro h
    rw [← h]
    exact vectorRead_vector dim raw
  · intro h
    cases h with
    | bare h => exact vector_of_bare h
    | arity h hlength => rw [vector_of_encloses h, if_neg hlength]
    | malformed h hlength hpart =>
        rw [vector_of_encloses h, if_pos hlength, mapM_eq_none_iff.mpr hpart, Option.elim_none]
    | components h hlength hparts =>
        rw [vector_of_encloses h, if_pos hlength, mapM_eq_some_iff.mpr hparts, Option.elim_some]

/-- A vector that is read has the number of components that was asked for. -/
theorem length_of_vector (h : vector dim raw = .ok components) :
    components.length = dim.size := by
  cases vector_eq_iff.mp h with
  | components _ hlength hparts => rw [← hparts.length_eq, hlength]

/-! ## §3. The statement. -/

/-- **LITERALS ARE READ BY THEIR GRAMMAR**: a number is a name in any mixture of cases or a
numeral; a number literal is, between blanks, one of four spellings or a numeral; a vector literal
is as many number literals as it has components, between parentheses and with commas between
them; and of any other text the first defect is named: the parentheses, the number of parts, or
the parts. -/
theorem literals_grammar :
    (∀ cs x, Binary32.read? cs = some x ↔
      Binary32.Named cs x ∨ ∃ n, Decimal cs n ∧ x = n.value) ∧
    (∀ raw x, float? raw = some x ↔
      Symbol (trim raw.toList) x ∨ ∃ n, Decimal (trim raw.toList) n ∧ x = n.value) ∧
    ∀ dim raw,
      (∀ components, vector dim raw = .ok components ↔ ∃ parts, Encloses raw parts ∧
        parts.length = dim.size ∧
        List.Forall₂ (fun part x => float? part = some x) parts components) ∧
      (vector dim raw = .error .missingParentheses ↔ ¬ Parenthesized raw) ∧
      (∀ expected found, vector dim raw = .error (.wrongArity expected found) ↔ ∃ parts,
        Encloses raw parts ∧ parts.length ≠ dim.size ∧ expected = dim.size ∧
        found = parts.length) ∧
      (vector dim raw = .error .malformed ↔ ∃ parts, Encloses raw parts ∧
        parts.length = dim.size ∧ ∃ part ∈ parts, float? part = none) := by
  refine ⟨fun _ _ => Binary32.read?_eq_some_iff, fun _ _ => floatChars?_eq_some_iff,
    fun dim raw => ⟨fun components => ?_, ?_, fun expected found => ?_, ?_⟩⟩ <;> rw [vector_eq_iff]
  · constructor
    · intro h
      cases h with
      | components h hlength hparts => exact ⟨_, h, hlength, hparts⟩
    · intro h
      obtain ⟨parts, h, hlength, hparts⟩ := h
      exact .components h hlength hparts
  · constructor
    · intro h
      cases h with
      | bare h => exact h
    · exact .bare
  · constructor
    · intro h
      cases h with
      | arity h hlength => exact ⟨_, h, hlength, rfl, rfl⟩
    · intro h
      obtain ⟨parts, h, hlength, rfl, rfl⟩ := h
      exact .arity h hlength
  · constructor
    · intro h
      cases h with
      | malformed h hlength hpart => exact ⟨_, h, hlength, hpart⟩
    · intro h
      obtain ⟨parts, h, hlength, hpart⟩ := h
      exact .malformed h hlength hpart

/-- The parts of a vector may have blanks around them; the parentheses may not. -/
example : vector .two "( 1 ,-.5e1)" = .ok [(⟨false, 1, 0⟩ : Numeral).value,
      (⟨true, 5, 0⟩ : Numeral).value] ∧
    vector .two " (1,2)" = .error .missingParentheses := by
  refine ⟨?_, by decide +kernel⟩
  decide +kernel

end ConfigGraph.Literal
