/-
  ConfigGraph.Proofs.Literal.VectorText
  ────────────────────────────────
  **THE TEXT OF A VECTOR IS A LITERAL OF IT.**

  A vector is written with a comma and a space between two components, and
  read from parts between commas, with blanks around the parts ignored.  The
  spaces are therefore no part of the components, and since no component has
  a comma in its text, the parts are the components.

  The text of a finite number reads back, and so does the name of
  not-a-number.  An infinity is written `inf`, which is not one of the four
  spellings that literals have for numbers without a numeral; a vector with
  an infinite component is the one kind of vector that does not read back.

  No operator token ends the text of a vector, so a directive that has it as
  its value overwrites.  A slot for vectors of another size refuses it before
  a component is looked at.

  Main results:
    * `floatChars?_textChars`
    * `vector_vectorText`
    * `vectors_round_trip`
-/
import ConfigGraph.Catalog.Samples
import ConfigGraph.Proofs.Exactness
import ConfigGraph.Proofs.Literal.Shortest
import ConfigGraph.Proofs.Literal.Vector
import ConfigGraph.Proofs.Operator

namespace ConfigGraph

open Literal (floatChars? float? isNumeralChar vector vectorText Encloses VectorRead)
open Text (isBlank)

/-! ## §1. The text of a component. -/

namespace Binary32

/-- The number is one of the two infinities. -/
def isInfinite : Binary32 → Bool
  | .infinite _ => true
  | _ => false

/-- The character is neither a blank nor a comma, so it is no end of a part. -/
def isPartChar (c : Char) : Bool :=
  !isBlank c && c != ','

theorem isPartChar_iff {c : Char} : isPartChar c = true ↔ isBlank c = false ∧ c ≠ ',' := by
  simp [isPartChar]

theorem isPartChar_of_isNumeralChar {c : Char} (h : isNumeralChar c = true) :
    isPartChar c = true := by
  rcases Bool.or_eq_true .. ▸ h with hdigit | hother
  · refine isPartChar_iff.mpr ⟨Text.isBlank_of_isDigit hdigit, ?_⟩
    rintro rfl
    cases hdigit
  · simp only [List.contains_eq_mem, List.mem_cons, List.not_mem_nil, or_false,
      decide_eq_true_eq] at hother
    rcases hother with rfl | rfl | rfl | rfl | rfl <;> rfl

/-- **THE TEXT OF A NUMBER HAS NO BLANKS AND NO COMMAS IN IT.** -/
theorem all_isPartChar_textChars (x : Binary32) : x.textChars.all isPartChar = true := by
  cases x with
  | nan => rfl
  | infinite negative => cases negative <;> rfl
  | finite negative place =>
      obtain ⟨n, hn, _⟩ := exists_decimal_textChars negative place
      exact List.all_eq_true.mpr fun c hc => isPartChar_of_isNumeralChar (hn.isNumeralChar c hc)

theorem plain_textChars (x : Binary32) {c : Char} (hc : c ∈ x.textChars) :
    isBlank c = false ∧ c ≠ ',' :=
  isPartChar_iff.mp (List.all_eq_true.mp x.all_isPartChar_textChars c hc)

theorem textChars_ne_nil (x : Binary32) : x.textChars ≠ [] := by
  intro hnil
  have hread := x.read?_textChars
  rw [hnil] at hread
  cases hread

theorem trim_textChars {blanks : List Char} (hblanks : ∀ c ∈ blanks, isBlank c = true)
    (x : Binary32) : Text.trim (blanks ++ x.textChars) = x.textChars := by
  have htrim : Text.trim (blanks ++ x.textChars ++ []) = x.textChars :=
    Text.trim_of_blankless x.textChars_ne_nil hblanks nofun fun c hc => (x.plain_textChars hc).1
  rwa [List.append_nil] at htrim

end Binary32

namespace Literal

/-- What the text of a number is as a literal: the number, unless it is infinite. -/
def readText (x : Binary32) : Option Binary32 :=
  if x.isInfinite then none else some x

/-- **THE TEXT OF A NUMBER IS A LITERAL OF IT** unless the number is infinite. -/
theorem floatChars?_textChars {blanks : List Char} (hblanks : ∀ c ∈ blanks, isBlank c = true)
    (x : Binary32) : floatChars? (blanks ++ x.textChars) = readText x := by
  have htrim := x.trim_textChars hblanks
  cases x with
  | nan =>
      show _ = some Binary32.nan
      rw [floatChars?_eq_some_iff, htrim]
      exact .inl .nan
  | infinite negative =>
      -- The name of an infinity has an `n` in it, and is not the name that literals have.
      show _ = none
      unfold floatChars?
      rw [htrim]
      cases negative <;> rfl
  | finite negative place =>
      obtain ⟨n, hn, hvalue⟩ := Binary32.exists_decimal_textChars negative place
      show _ = some (Binary32.finite negative place)
      rw [floatChars?_eq_some_iff, htrim]
      exact .inr ⟨n, hn, hvalue.symm⟩

theorem float?_append_text {blanks : String} (hblanks : Text.isBlankText blanks = true)
    (x : Binary32) : float? (blanks ++ x.text) = readText x := by
  unfold float? Binary32.text
  rw [String.toList_append, String.toList_ofList]
  exact floatChars?_textChars (List.all_eq_true.mp hblanks) x

/-! ## §2. The parts of the text. -/

variable {dim slotDim : Dim} {components : List Binary32}

/-- What stands between the commas: behind the first comma, a space in front of the component. -/
def textParts : List Binary32 → List String
  | [] => []
  | x :: xs => x.text :: xs.map fun y => " " ++ y.text

/-- A space behind a comma may as well be in front of the next part. -/
theorem append_intercalate (before first : String) (rest : List String) :
    before ++ ", ".intercalate (first :: rest)
      = ",".intercalate ((before ++ first) :: rest.map (" " ++ ·)) := by
  -- What is in front of the first part is general: the second one is reached with a space there.
  induction rest generalizing before first with
  | nil => simp
  | cons second rest ih =>
      have hcomma : ", " = "," ++ " " := by decide
      rw [List.map_cons, String.intercalate_cons_cons, String.intercalate_cons_cons, ← ih, hcomma]
      simp only [String.append_assoc]

theorem length_textParts (components : List Binary32) :
    (textParts components).length = components.length := by
  cases components <;> simp [textParts]

/-- Each part reads as its component does. -/
theorem map_float?_textParts (components : List Binary32) :
    (textParts components).map float? = components.map readText := by
  cases components with
  | nil => rfl
  | cons x xs =>
      have hfirst : float? x.text = readText x := by
        rw [← String.empty_append (s := x.text)]
        exact float?_append_text (by decide) x
      have hspace (y : Binary32) : float? (" " ++ y.text) = readText y :=
        float?_append_text (by decide) y
      simp [textParts, hfirst, hspace]

/-- **THE PARTS OF THE TEXT** are the components. -/
theorem encloses_vectorText (hne : components ≠ []) :
    Encloses (vectorText components) (textParts components) := by
  have hcomma (x : Binary32) : ',' ∉ x.text.toList := by
    unfold Binary32.text
    rw [String.toList_ofList]
    exact fun h => (x.plain_textChars h).2 rfl
  cases components with
  | nil => exact absurd rfl hne
  | cons x xs =>
      refine ⟨?_, by simp [textParts], fun part hpart => ?_⟩
      · have hparts := append_intercalate "" x.text (xs.map Binary32.text)
        rw [String.empty_append, String.empty_append, List.map_map] at hparts
        unfold vectorText
        rw [List.map_cons, hparts]
        rfl
      · rcases List.mem_cons.mp hpart with rfl | hpart
        · exact hcomma x
        · obtain ⟨y, _, rfl⟩ := List.mem_map.mp hpart
          rw [String.toList_append]
          simpa using hcomma y

theorem forall₂_textParts (hfinite : ∀ x ∈ components, x.isInfinite = false) :
    List.Forall₂ (fun part x => float? part = some x) (textParts components) components := by
  have hmap : (textParts components).map float? = components.map some := by
    rw [map_float?_textParts]
    exact List.map_congr_left fun x hx => by simp [readText, hfinite x hx]
  rw [← List.forall₂_map_left_iff (f := float?) (R := fun read x => read = some x), hmap]
  exact List.forall₂_map_left_iff.mpr (List.forall₂_same.mpr fun _ _ => rfl)

theorem exists_unread_textPart (hinfinite : ∃ x ∈ components, x.isInfinite = true) :
    ∃ part ∈ textParts components, float? part = none := by
  obtain ⟨x, hx, hinfinite⟩ := hinfinite
  have hnone : none ∈ (textParts components).map float? := by
    rw [map_float?_textParts]
    exact List.mem_map.mpr ⟨x, hx, by simp [readText, hinfinite]⟩
  exact List.mem_map.mp hnone

/-! ## §3. The text as a literal. -/

theorem ne_nil_of_size (size : components.length = dim.size) : components ≠ [] := by
  rintro rfl
  cases dim <;> cases size

/-- **A VECTOR READS BACK FROM ITS TEXT** if no component is infinite. -/
theorem vector_vectorText (size : components.length = dim.size)
    (hfinite : ∀ x ∈ components, x.isInfinite = false) :
    vector dim (vectorText components) = .ok components :=
  vector_eq_iff.mpr (.components (encloses_vectorText (ne_nil_of_size size))
    ((length_textParts components).trans size) (forall₂_textParts hfinite))

/-- If one is, the text is no literal. -/
theorem vector_vectorText_of_infinite (size : components.length = dim.size)
    (hinfinite : ∃ x ∈ components, x.isInfinite = true) :
    vector dim (vectorText components) = .error .malformed :=
  vector_eq_iff.mpr (.malformed (encloses_vectorText (ne_nil_of_size size))
    ((length_textParts components).trans size) (exists_unread_textPart hinfinite))

/-- The sign of zero is written and read; the name of an infinity is written and not read. -/
example : vectorText [.finite true ⟨0, by decide⟩, .infinite false] = "(-0, inf)" ∧
    vector .two "(-0, NaN)" = .ok [.finite true ⟨0, by decide⟩, .nan] ∧
    vector .two "(-0, inf)" = .error .malformed := by
  refine ⟨by decide +kernel, ?_, ?_⟩ <;> rfl

theorem vector_vectorText_eq_ok_iff (size : components.length = dim.size) :
    vector dim (vectorText components) = .ok components ↔
      ∀ x ∈ components, x.isInfinite = false := by
  refine ⟨fun hread x hx => ?_, vector_vectorText size⟩
  rw [Bool.eq_false_iff]
  intro hinfinite
  rw [vector_vectorText_of_infinite size ⟨x, hx, hinfinite⟩] at hread
  cases hread

theorem vector_vectorText_eq_malformed_iff (size : components.length = dim.size) :
    vector dim (vectorText components) = .error .malformed ↔
      ∃ x ∈ components, x.isInfinite = true := by
  refine ⟨fun hread => ?_, vector_vectorText_of_infinite size⟩
  by_contra hnone
  have hfinite : ∀ x ∈ components, x.isInfinite = false :=
    fun x hx => Bool.eq_false_iff.mpr fun hinfinite => hnone ⟨x, hx, hinfinite⟩
  rw [vector_vectorText size hfinite] at hread
  cases hread

/-- The number of components is looked at before they are. -/
theorem vector_vectorText_of_ne (size : components.length = dim.size) (hne : slotDim ≠ dim) :
    vector slotDim (vectorText components) = .error (.wrongArity slotDim.size dim.size) := by
  have hlength : (textParts components).length ≠ slotDim.size := by
    rw [length_textParts, size]
    cases slotDim <;> cases dim <;> first | exact absurd rfl hne | decide
  rw [vector_eq_iff, ← size, ← length_textParts]
  exact .arity (encloses_vectorText (ne_nil_of_size size)) hlength

/-! ## §4. The text as the value of a directive. -/

theorem vectorText_nonempty (components : List Binary32) :
    (vectorText components).isEmpty = false := by
  rw [Bool.eq_false_iff]
  intro hempty
  have hnil := congrArg String.toList (String.isEmpty_iff.mp hempty)
  simp [vectorText] at hnil

/-- No token ends in the parenthesis that the text ends in. -/
theorem split_vectorText (components : List Binary32) :
    OperatorTokens.standard.split (vectorText components)
      = (.overwrite, vectorText components) := by
  refine OperatorTokens.split_of_unmarked fun entry hentry hsuffix => ?_
  have hlast : (vectorText components).toList.getLast? = some ')' := by
    unfold vectorText
    rw [String.toList_append]
    exact List.getLast?_concat
  obtain ⟨before, hbefore⟩ := hsuffix
  rw [← hbefore] at hlast
  simp only [OperatorTokens.entries, OperatorTokens.standard, List.mem_cons, List.not_mem_nil,
    or_false] at hentry
  rcases hentry with rfl | rfl | rfl <;> simp at hlast

end Literal

/-- **AN OVERWRITE OF A LEAF** stores what the literal says and nothing else, or changes nothing
because the value is no literal. -/
theorem apply_overwrite_leaf {engine : Engine} (standard : engine.updaters = .standard)
    {root node : Value} (wf : root.WellFormed engine.schema) (directive : Directive)
    (nonempty : directive.value.isEmpty = false)
    (valid : FieldPath.validate directive.path = .ok ()) {value : String}
    (split : engine.config.operators.split directive.value = (.overwrite, value))
    {address : Address}
    (located : root.locate? (FieldPath.parse directive.path) = some (address, node)) {shape : Shape}
    (declared : engine.schema.declared? root address = some shape)
    (leaf : shape.resolved.isLeaf = true) :
    (∀ issue, Literal.read shape.resolved value = .error issue →
      engine.apply root directive
        = (root, ⟨.error (.unreadable value shape.resolved issue), []⟩)) ∧
    ∀ new, Literal.read shape.resolved value = .ok new → ∃ stored note, stored.shape = shape ∧
      stored.present? = new.present? ∧ engine.apply root directive
        = (root.update (fun _ => stored) address, ⟨.ok .edited, [note]⟩) := by
  obtain ⟨slot, hdeclared, hresult⟩ :=
    apply_selecting standard wf nonempty valid split (.inl rfl) located
  -- What happened determines what the literal was read as, and so which of the two claims applies.
  have hslot : slot.declared = shape := Option.some.inj (hdeclared.symm.trans declared)
  rw [← hslot] at leaf ⊢
  rcases hresult with
    ⟨fault, updates, happly⟩ | ⟨new, stored, note, written, hshape, hpresent, happly⟩
  · obtain ⟨_, issue, hread, rfl⟩ := updates.of_leaf leaf
    refine ⟨fun issue' hissue => ?_, fun new hnew => ?_⟩
    · rw [hread] at hissue
      injection hissue with hissue
      rw [happly, hissue]
    · rw [hread] at hnew
      cases hnew
  · have hread : Literal.read slot.declared.resolved value = .ok new := by
      rcases written.of_leaf leaf with ⟨_, hread⟩ | ⟨hop, _⟩
      · exact hread
      · cases hop
    refine ⟨fun issue hissue => ?_, fun new' hnew => ?_⟩
    · rw [hread] at hissue
      cases hissue
    · rw [hread] at hnew
      injection hnew with hnew
      exact ⟨stored, note, hshape, hnew ▸ hpresent, happly⟩

/-! ## §5. The statement. -/

/-- What a directive does to a slot for vectors of size `slotDim` if its value is the text of a
vector of size `dim`. -/
structure TakesVector (root after : Value) (outcome : Outcome) (address : Address) (shape : Shape)
    (slotDim dim : Dim) (components : List Binary32) : Prop where
  /-- A vector of the same size, with no infinite component, is stored as it is; apart from the
  slot, nothing is different. -/
  stores : slotDim = dim → (∀ x ∈ components, x.isInfinite = false) →
    outcome.result = .ok .edited ∧ ∃ stored, Value.ReplacedAt root after address stored ∧
      stored.shape = shape ∧ stored.present? = some (.vector dim components)
  /-- One with an infinite component is no literal. -/
  malformed : slotDim = dim → (∃ x ∈ components, x.isInfinite = true) →
    Fails root after outcome (.unreadable (vectorText components) (.vector dim) .malformed)
  /-- One of another size is refused for its size, whatever its components are. -/
  arity : slotDim ≠ dim → Fails root after outcome
    (.unreadable (vectorText components) (.vector slotDim) (.wrongArity slotDim.size dim.size))

/-- **VECTORS AND THEIR TEXTS**: the text of a vector reads as the vector just if no component is
infinite, and is no literal otherwise; as the value of a directive it stores the vector in every
slot for vectors of its size, and is refused for its size in every other slot for vectors. -/
theorem vectors_round_trip {dim : Dim} {components : List Binary32}
    (size : components.length = dim.size) :
    (vector dim (vectorText components) = .ok components ↔
      ∀ x ∈ components, x.isInfinite = false) ∧
    (vector dim (vectorText components) = .error .malformed ↔
      ∃ x ∈ components, x.isInfinite = true) ∧
    ∀ (engine : Engine), engine.updaters = .standard → engine.config.operators = .standard →
      ∀ (root node : Value) (path : String) (address : Address) (shape : Shape) (slotDim : Dim),
        root.WellFormed engine.schema → FieldPath.validate path = .ok () →
        root.locate? (FieldPath.parse path) = some (address, node) →
        engine.schema.declared? root address = some shape → shape.resolved = .vector slotDim →
        TakesVector root (engine.apply root ⟨path, vectorText components⟩).1
          (engine.apply root ⟨path, vectorText components⟩).2 address shape slotDim dim
          components := by
  refine ⟨Literal.vector_vectorText_eq_ok_iff size, Literal.vector_vectorText_eq_malformed_iff size,
    ?_⟩
  intro engine standard tokens root node path address shape slotDim wf valid located declared resolved
  -- The whole text is the value, and the slot is one for a leaf: what is read decides everything.
  have split : engine.config.operators.split (vectorText components)
      = (.overwrite, vectorText components) := by
    rw [tokens]
    exact Literal.split_vectorText components
  have hleaf := apply_overwrite_leaf standard wf ⟨path, vectorText components⟩
    (Literal.vectorText_nonempty components) valid split located declared (by rw [resolved]; rfl)
  rw [resolved] at hleaf
  obtain ⟨hunread, hread⟩ := hleaf
  refine ⟨?_, ?_, ?_⟩
  · rintro rfl hfinite
    have hvector : Literal.read (.vector slotDim) (vectorText components)
        = .ok (.vector slotDim components) := by
      rw [Literal.read, Literal.vector_vectorText size hfinite]
      rfl
    obtain ⟨stored, note, hshape, hpresent, happly⟩ := hread _ hvector
    rw [happly]
    exact ⟨rfl, stored,
      Value.replacedAt_update (Value.get?_of_locate? located) fun _ => stored, hshape, hpresent⟩
  · rintro rfl hinfinite
    have hvector : Literal.read (.vector slotDim) (vectorText components)
        = .error .malformed := by
      rw [Literal.read, Literal.vector_vectorText_of_infinite size hinfinite]
      rfl
    rw [hunread _ hvector]
    exact ⟨rfl, rfl⟩
  · intro hne
    have hvector : Literal.read (.vector slotDim) (vectorText components)
        = .error (.wrongArity slotDim.size dim.size) := by
      rw [Literal.read, Literal.vector_vectorText_of_ne size hne]
      rfl
    rw [hunread _ hvector]
    exact ⟨rfl, rfl⟩

/-- Negative zero and not-a-number are stored in a slot that was empty. -/
theorem vectors_round_trip_rig :
    [Binary32.finite true ⟨0, by decide⟩, .nan].length = Dim.two.size ∧
      vector .two (vectorText [.finite true ⟨0, by decide⟩, .nan])
        = .ok [.finite true ⟨0, by decide⟩, .nan] ∧
      Catalog.sampleRig.WellFormed (Engine.new Catalog.schema .standard).schema ∧
      TakesVector Catalog.sampleRig
        ((Engine.new Catalog.schema .standard).apply Catalog.sampleRig
          ⟨"m_vec", vectorText [.finite true ⟨0, by decide⟩, .nan]⟩).1
        ((Engine.new Catalog.schema .standard).apply Catalog.sampleRig
          ⟨"m_vec", vectorText [.finite true ⟨0, by decide⟩, .nan]⟩).2
        [.field "m_vec"] (.nullable (.vector .two)) .two .two
        [.finite true ⟨0, by decide⟩, .nan] := by
  have size : [Binary32.finite true ⟨0, by decide⟩, .nan].length = Dim.two.size := rfl
  obtain ⟨hread, _, hdirective⟩ := vectors_round_trip size
  exact ⟨size, hread.mpr (by decide), by decide,
    hdirective (Engine.new Catalog.schema .standard) rfl rfl Catalog.sampleRig
      (.vacant (.vector .two)) "m_vec" [.field "m_vec"] _ .two (by decide) (by rfl) (by rfl) (by rfl)
      rfl⟩

end ConfigGraph
