/-
  ConfigGraph.Proofs.Assignment
  ────────────────────────────────
  **TYPE-CHECKED ASSIGNMENT: WHAT IS TAKEN, WHAT IS SHOWN, WHAT IS KEPT.**

  A declared shape is a base with some number of nullable layers around it.
  Whether a value may be assigned to it is a matter of counting layers: the
  value has the base with at most as many, or the base takes everything.

  Layers do not show.  A dump of a value is the tree that a reader walks,
  with an empty slot as null and every other layer left out; it is
  determined by what is present behind the layers.  Conversion adds layers
  and nothing else, so what is stored is dumped as what was put in.

  A refusal names the base and the shape of the value, whichever operation
  was asked to store the value, and the receiver stays what it was.

  Main results:
    * `Value.dump_eq` — the dump of what is present
    * `assignment_checked`
-/
import ConfigGraph.Batch.Registry
import ConfigGraph.Proofs.Preservation

namespace ConfigGraph

/-! ## §1. Dumps. -/

/-- What a reader sees of a graph, walking all of it. -/
inductive Dump where
  /-- An empty slot. -/
  | null
  /-- A leaf, with its content. -/
  | leaf (value : Value)
  /-- A record, by its name and its fields. -/
  | record (name : String) (fields : List (String × Dump))
  /-- A list, by its items. -/
  | list (items : List Dump)
  /-- A map, by its values under the segments of their keys. -/
  | map (entries : List (String × Dump))

namespace Value

mutual

/-- The dump of a graph. Layers are left out. -/
def dump : Value → Dump
  | .vacant _ => .null
  | .filled _ value => value.dump
  | .dynamic value => value.dump
  | .record name fields => .record name (dumpFields fields)
  | .list _ items => .list (dumpItems items)
  | .map _ _ _ entries => .map (dumpEntries entries)
  | .text s => .leaf (.text s)
  | .bool b => .leaf (.bool b)
  | .int n => .leaf (.int n)
  | .float x => .leaf (.float x)
  | .vector dim components => .leaf (.vector dim components)
  | .textSet members => .leaf (.textSet members)
termination_by structural value => value

/-- The dumps of all fields of a record. -/
def dumpFields : List (String × Value) → List (String × Dump)
  | [] => []
  | (name, value) :: rest => (name, value.dump) :: dumpFields rest
termination_by structural fields => fields

/-- The dumps of all items of a list. -/
def dumpItems : List Value → List Dump
  | [] => []
  | value :: rest => value.dump :: dumpItems rest
termination_by structural items => items

/-- The dumps of all values of a map. -/
def dumpEntries : List (Key × Value) → List (String × Dump)
  | [] => []
  | (key, value) :: rest => (key.segment, value.dump) :: dumpEntries rest
termination_by structural entries => entries

end

/-- **A DUMP SHOWS WHAT IS PRESENT**, and null if nothing is. -/
theorem dump_eq (value : Value) : value.dump = (value.present?.map dump).getD .null := by
  induction value using layers_induction with
  | vacant inner => rfl
  | filled inner value ih => exact ih
  | dynamic value ih => exact ih
  | bare value hbare =>
      rw [present?_of_isBare hbare]
      rfl

theorem dump_congr {value value' : Value} (h : value.present? = value'.present?) :
    value.dump = value'.dump := by
  rw [dump_eq value, dump_eq value', h]

end Value

/-! ## §2. Receivers. -/

/-- How an operation on some contents ends, and the contents afterwards: an operation that fails
returns no new ones. -/
def received {α : Type} (contents : α) : Except AssignError α → Except AssignError Unit × α
  | .ok contents' => (.ok (), contents')
  | .error cause => (.error cause, contents)

/-- The value is refused by everything that stores values of the shape, and no receiver changes.
A position or key is looked at before the value. -/
structure Refused (shape : Shape) (value : Value) (cause : AssignError) : Prop where
  /-- By the conversion. -/
  convert : value.convert shape = .error cause
  /-- By a node of the shape. -/
  assign : ∀ current : Value, current.shape = shape →
    received current (current.assign value) = (.error cause, current)
  /-- By the items of a list that are to be replaced. -/
  set : ∀ items index, received items (Items.set shape items index value) =
    (.error (if index < items.length then cause else .indexOutOfBounds index items.length), items)
  /-- By a list that is to be longer by one, anywhere. -/
  insert : ∀ items index, received items (Items.insert shape items index value) =
    (.error (if index ≤ items.length then cause else .indexOutOfBounds index items.length), items)
  /-- By a list that is to be longer by one, at its end. -/
  push : ∀ items, received items (Items.push shape items value) = (.error cause, items)
  /-- By a map, at a key that is there or a new one. -/
  put : ∀ order kind entries text,
    received entries (Entries.put order kind shape entries text value) =
      (.error (if (kind.read? text).isSome then cause else .invalidKey text kind), entries)
  /-- By a collection of roots. -/
  upsert : ∀ (σ : Type) (collection : Collection σ) (key : String), collection.shape = shape →
    received collection ((collection.upsert key value).map (·.2)) = (.error cause, collection)

theorem Refused.of_convert {shape : Shape} {value : Value} {cause : AssignError}
    (h : value.convert shape = .error cause) : Refused shape value cause := by
  constructor
  · exact h
  · rintro current rfl
    rw [Value.assign, h]
    rfl
  -- The value is looked at only where there is a place for it.
  · intro items index
    rw [Items.set]
    by_cases hindex : index < items.length
    · rw [if_pos hindex, if_pos hindex, h]
      rfl
    · rw [if_neg hindex, if_neg hindex]
      rfl
  · intro items index
    rw [Items.insert]
    by_cases hindex : index ≤ items.length
    · rw [if_pos hindex, if_pos hindex, h]
      rfl
    · rw [if_neg hindex, if_neg hindex]
      rfl
  · intro items
    rw [Items.push, h]
    rfl
  · intro order kind entries text
    rw [Entries.put]
    cases kind.read? text with
    | none => rfl
    | some key =>
        simp only [h]
        rfl
  · rintro σ collection key rfl
    rw [Collection.upsert, h]
    rfl

/-! ## §3. The statement. -/

/-- What becomes of a value that is assigned to a slot declared as `n` nullable layers around
`base`. -/
structure Assigns (n : Nat) (base : Shape) (value : Value) : Prop where
  /-- It is taken if its shape fits. -/
  taken : (∃ stored, value.convert (.optional n base) = .ok stored) ↔
    Shape.Fits n base value.shape
  /-- What is stored has the declared shape. -/
  declared : ∀ stored, value.convert (.optional n base) = .ok stored →
    stored.shape = .optional n base
  /-- It is well formed if the value was. -/
  wellFormed : ∀ stored, value.convert (.optional n base) = .ok stored →
    ∀ schema, value.WellFormed schema → stored.WellFormed schema
  /-- A reader sees the value that was put in, near and far, or nothing if there was nothing to
  see. -/
  shows : ∀ stored, value.convert (.optional n base) = .ok stored →
    stored.dump = value.dump ∧ stored.present? = value.present?
  /-- It is refused if its shape does not fit, and the refusal names the base and the shape of
  the value. -/
  refused : ¬ Shape.Fits n base value.shape →
    Refused (.optional n base) value (.typeMismatch base value.shape)

/-- **ASSIGNMENT IS TYPE-CHECKED BY COUNTING LAYERS, AND TRANSPARENT TO READERS.** -/
theorem assignment_checked (n : Nat) {base : Shape} (plain : base.isNullable = false)
    (value : Value) : Assigns n base value := by
  have hfits : (Shape.optional n base).accepts value.shape = true ↔
      Shape.Fits n base value.shape := Shape.accepts_optional_iff plain
  have herror (misfit : ¬ Shape.Fits n base value.shape) : value.convert (.optional n base)
      = .error (.typeMismatch base value.shape) := by
    rw [← hfits, Bool.not_eq_true] at misfit
    rw [Value.convert_of_not_accepts misfit, Shape.resolved_optional plain]
  have hpresent {stored : Value} (h : value.convert (.optional n base) = .ok stored) :
      Shape.Fits n base value.shape ∧ stored.present? = value.present? := by
    by_cases fits : Shape.Fits n base value.shape
    · obtain ⟨stored', hok, _, hseen⟩ := Value.convert_of_accepts (hfits.mpr fits)
      obtain rfl : stored' = stored := Except.ok.inj (hok.symm.trans h)
      exact ⟨fits, hseen⟩
    · rw [herror fits] at h
      cases h
  constructor
  -- A conversion that succeeds was of an accepted value, because the others are refused.
  · refine ⟨fun ⟨stored, h⟩ => (hpresent h).1, fun fits => ?_⟩
    obtain ⟨stored, hok, _, _⟩ := Value.convert_of_accepts (hfits.mpr fits)
    exact ⟨stored, hok⟩
  · exact fun stored h => Value.shape_of_convert h
  · exact fun stored h schema wf => (wf.convert h).1
  · exact fun stored h => ⟨Value.dump_congr (hpresent h).2, (hpresent h).2⟩
  · exact fun misfit => .of_convert (herror misfit)

/-- A doubly nullable text, which takes a text and refuses an integer. -/
theorem assignment_checked_text :
    Shape.text.isNullable = false ∧ Assigns 2 .text (.text "deep") ∧ Assigns 2 .text (.int 5) :=
  ⟨rfl, assignment_checked 2 rfl (.text "deep"), assignment_checked 2 rfl (.int 5)⟩

end ConfigGraph
