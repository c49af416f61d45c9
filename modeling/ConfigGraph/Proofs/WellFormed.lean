/-
  ConfigGraph.Proofs.WellFormed
  ────────────────────────────────
  **GRAPHS THAT OBEY THEIR DECLARATIONS.**

  A value is well formed when it and everything below it is what its own
  declarations promise: a record has the fields of the schema under the
  shapes of the schema, items and map values have the declared shape, keys
  are of the declared kind and stand in the order of their map, the members
  of a set ascend, and a vector has as many components as its size says.

  Well-formedness is decidable, so a concrete graph is checked by evaluation.

  Main results:
    * `WellFormed.get?` — every node of a well-formed graph is well formed
    * `WellFormed.declared?_eq_shape` — and has the shape declared for it
-/
import ConfigGraph.Catalog.Samples
import ConfigGraph.Proofs.Address

namespace ConfigGraph

/-! ## §1. The predicate. -/

/-- The keys stand in the order that the map keeps, none of them twice. -/
def MapOrder.Keeps : MapOrder → List Key → Prop
  | .sorted, keys => keys.Pairwise (· < ·)
  | .arrival, keys => keys.Nodup

instance (order : MapOrder) (keys : List Key) : Decidable (order.Keeps keys) :=
  match order with
  | .sorted => inferInstanceAs (Decidable (keys.Pairwise (· < ·)))
  | .arrival => inferInstanceAs (Decidable keys.Nodup)

/-- The names and the shapes of fields, in declaration order. -/
def RecordFields.signature (fields : RecordFields) : List (String × Shape) :=
  fields.map fun field => (field.1, field.2.shape)

/-- The value and everything below it is what its declarations promise. -/
inductive Value.WellFormed (schema : Schema) : Value → Prop where
  | text (s : String) : WellFormed schema (.text s)
  | bool (b : Bool) : WellFormed schema (.bool b)
  | int (n : Int32) : WellFormed schema (.int n)
  | float (x : Binary32) : WellFormed schema (.float x)
  | vector {dim : Dim} {components : List Binary32} (size : components.length = dim.size) :
      WellFormed schema (.vector dim components)
  | textSet {members : List String} (ascending : members.Pairwise (· < ·)) :
      WellFormed schema (.textSet members)
  | record {name : String} {fields : List (String × Value)}
      (declared : RecordFields.signature fields = RecordFields.signature (schema.fields name))
      (inner : ∀ field ∈ fields, WellFormed schema field.2) :
      WellFormed schema (.record name fields)
  | list {element : Shape} {items : List Value}
      (declared : ∀ item ∈ items, item.shape = element)
      (inner : ∀ item ∈ items, WellFormed schema item) :
      WellFormed schema (.list element items)
  | map {order : MapOrder} {kind : KeyKind} {shape : Shape} {entries : List (Key × Value)}
      (keeps : order.Keeps (entries.map (·.1)))
      (kinds : ∀ entry ∈ entries, entry.1.kind = kind)
      (declared : ∀ entry ∈ entries, entry.2.shape = shape)
      (inner : ∀ entry ∈ entries, WellFormed schema entry.2) :
      WellFormed schema (.map order kind shape entries)
  | vacant (inner : Shape) : WellFormed schema (.vacant inner)
  | filled {inner : Shape} {value : Value} (declared : value.shape = inner)
      (inside : WellFormed schema value) : WellFormed schema (.filled inner value)
  | dynamic {value : Value} (inside : WellFormed schema value) :
      WellFormed schema (.dynamic value)

namespace Value

/-! ## §2. Deciding it. -/

mutual

/-- Decide well-formedness, layer by layer. -/
def decideWellFormed (schema : Schema) : (value : Value) → Decidable (value.WellFormed schema)
  | .text s => isTrue (.text s)
  | .bool b => isTrue (.bool b)
  | .int n => isTrue (.int n)
  | .float x => isTrue (.float x)
  | .vector dim components =>
      decidable_of_iff (components.length = dim.size)
        ⟨.vector, fun h => by cases h; assumption⟩
  | .textSet members =>
      decidable_of_iff (members.Pairwise (· < ·)) ⟨.textSet, fun h => by cases h; assumption⟩
  | .record name fields =>
      have := decideFields schema fields
      decidable_of_iff
        (RecordFields.signature fields = RecordFields.signature (schema.fields name) ∧
          ∀ field ∈ fields, WellFormed schema field.2)
        ⟨fun h => .record h.1 h.2, fun h => by cases h; constructor <;> assumption⟩
  | .list element items =>
      have := decideItems schema items
      decidable_of_iff
        ((∀ item ∈ items, item.shape = element) ∧ ∀ item ∈ items, WellFormed schema item)
        ⟨fun h => .list h.1 h.2, fun h => by cases h; constructor <;> assumption⟩
  | .map order kind shape entries =>
      have := decideEntries schema entries
      decidable_of_iff
        ((order.Keeps (entries.map (·.1)) ∧ ∀ entry ∈ entries, entry.1.kind = kind) ∧
          (∀ entry ∈ entries, entry.2.shape = shape) ∧
          ∀ entry ∈ entries, WellFormed schema entry.2)
        ⟨fun h => .map h.1.1 h.1.2 h.2.1 h.2.2, fun h => by
          cases h
          refine ⟨⟨?_, ?_⟩, ?_, ?_⟩ <;> assumption⟩
  | .vacant inner => isTrue (.vacant inner)
  | .filled inner value =>
      have := decideWellFormed schema value
      decidable_of_iff (value.shape = inner ∧ value.WellFormed schema)
        ⟨fun h => .filled h.1 h.2, fun h => by cases h; constructor <;> assumption⟩
  | .dynamic value =>
      have := decideWellFormed schema value
      decidable_of_iff (value.WellFormed schema) ⟨.dynamic, fun h => by cases h; assumption⟩
termination_by structural value => value

/-- Decide it of every item of a list. -/
def decideItems (schema : Schema) :
    (items : List Value) → Decidable (∀ item ∈ items, item.WellFormed schema)
  | [] => isTrue fun _ h => nomatch h
  | item :: rest =>
      have := decideWellFormed schema item
      have := decideItems schema rest
      decidable_of_iff (item.WellFormed schema ∧ ∀ item ∈ rest, item.WellFormed schema)
        List.forall_mem_cons.symm
termination_by structural items => items

/-- Decide it of every field of a record. -/
def decideFields (schema : Schema) :
    (fields : List (String × Value)) → Decidable (∀ field ∈ fields, field.2.WellFormed schema)
  | [] => isTrue fun _ h => nomatch h
  | (name, value) :: rest =>
      have := decideWellFormed schema value
      have := decideFields schema rest
      decidable_of_iff (value.WellFormed schema ∧ ∀ field ∈ rest, field.2.WellFormed schema)
        (List.forall_mem_cons (a := (name, value)) (p := fun f => f.2.WellFormed schema)).symm
termination_by structural fields => fields

/-- Decide it of every value of a map. -/
def decideEntries (schema : Schema) :
    (entries : List (Key × Value)) → Decidable (∀ entry ∈ entries, entry.2.WellFormed schema)
  | [] => isTrue fun _ h => nomatch h
  | (key, value) :: rest =>
      have := decideWellFormed schema value
      have := decideEntries schema rest
      decidable_of_iff (value.WellFormed schema ∧ ∀ entry ∈ rest, entry.2.WellFormed schema)
        (List.forall_mem_cons (a := (key, value)) (p := fun e => e.2.WellFormed schema)).symm
termination_by structural entries => entries

end

instance (schema : Schema) (value : Value) : Decidable (value.WellFormed schema) :=
  decideWellFormed schema value

example : Catalog.sampleRig.WellFormed Catalog.schema := by decide

/-- A map whose keys do not ascend is not well formed. -/
example : ¬ (Value.map .sorted .text .int [(.text "b", .int 1), (.text "a", .int 2)]).WellFormed
    Catalog.schema := by decide

end Value

/-! ## §3. Declared shapes. -/

namespace Schema

/-- The shape that a bare node declares for the part that a step leads to. Lists and maps
declare one shape for all parts; the fields of a record are declared by the schema. -/
def partShape? (schema : Schema) : Value → Step → Option Shape
  | .record name _, .field field => (Ordered.find? field (schema.fields name)).map Value.shape
  | .list element _, .index _ => some element
  | .map _ _ shape _, .key _ => some shape
  | _, _ => none

/-- The declared shape of the slot at an address. The root is not a slot. -/
def declared? (schema : Schema) (root : Value) : Address → Option Shape
  | [] => none
  | [step] => root.present?.bind (schema.partShape? · step)
  | step :: rest => (root.child? step).bind (schema.declared? · rest)

/-- The slot that a step leads to is declared by the node before it. -/
theorem declared?_concat {schema : Schema} {root parent : Value} {address : Address} {step : Step}
    (h : root.get? address = some parent) :
    schema.declared? root (address ++ [step])
      = parent.present?.bind (schema.partShape? · step) := by
  induction address generalizing root with
  | nil =>
      injection h with h
      rw [← h]
      rfl
  | cons first rest ih =>
      rw [Value.get?, Option.bind_eq_some_iff] at h
      obtain ⟨part, hpart, hparent⟩ := h
      have hstep : schema.declared? root (first :: rest ++ [step])
          = (root.child? first).bind (schema.declared? · (rest ++ [step])) := by
        cases rest <;> rfl
      rw [hstep, hpart]
      exact ih hparent

end Schema

namespace Value

variable {schema : Schema}

theorem WellFormed.present {value inside : Value} (wf : value.WellFormed schema)
    (h : value.present? = some inside) : inside.WellFormed schema := by
  induction value using layers_induction with
  | vacant => cases h
  | filled _ _ ih =>
      cases wf with
      | filled _ hinside => exact ih hinside h
  | dynamic _ ih =>
      cases wf with
      | dynamic hinside => exact ih hinside h
  | bare value hbare =>
      rw [present?_of_isBare hbare] at h
      injection h with h
      rw [← h]
      exact wf

/-- The members of a set, seen through layers; an empty slot has none. -/
def members (value : Value) : List String :=
  match value.present? with
  | some (.textSet members) => members
  | _ => []

theorem WellFormed.members_ascending {value : Value} (wf : value.WellFormed schema) :
    value.members.Pairwise (· < ·) := by
  unfold members
  split
  · rename_i members hset
    cases wf.present hset with
    | textSet ascending => exact ascending
  · exact .nil

/-- Fields with one signature have fields of one shape under each name. -/
theorem shape_of_signature {fields initial : RecordFields} {name : String} {part : Value}
    (hsig : RecordFields.signature fields = RecordFields.signature initial)
    (h : Ordered.find? name fields = some part) :
    (Ordered.find? name initial).map shape = some part.shape := by
  -- Equal signatures have equal names in the same places, so both searches stop together.
  induction fields generalizing initial with
  | nil => cases h
  | cons field rest ih =>
      cases initial with
      | nil => cases hsig
      | cons field' rest' =>
          obtain ⟨n, v⟩ := field
          obtain ⟨n', v'⟩ := field'
          rw [RecordFields.signature, RecordFields.signature, List.map_cons, List.map_cons] at hsig
          injection hsig with hhead hrest
          injection hhead with hname hshape
          simp only at hname hshape
          by_cases hn : name = n
          · rw [Ordered.find?, if_pos hn] at h
            injection h with h
            rw [Ordered.find?, if_pos (hn.trans hname), Option.map_some, ← hshape, h]
          · rw [Ordered.find?, if_neg hn] at h
            rw [Ordered.find?, if_neg (fun h' => hn (h'.trans hname.symm))]
            exact ih hrest h

theorem WellFormed.part {value part : Value} {step : Step} (wf : value.WellFormed schema)
    (h : value.part? step = some part) :
    part.WellFormed schema ∧ schema.partShape? value step = some part.shape := by
  cases wf with
  | record declared inner =>
      cases step with
      | field name => exact ⟨inner _ (Ordered.mem_of_find? h), shape_of_signature declared h⟩
      | _ => cases h
  | list declared inner =>
      cases step with
      | index i =>
          have hmem := List.mem_of_getElem? h
          exact ⟨inner _ hmem, congrArg some (declared _ hmem).symm⟩
      | _ => cases h
  | map _ _ declared inner =>
      cases step with
      | key key =>
          have hmem := Ordered.mem_of_find? h
          exact ⟨inner _ hmem, congrArg some (declared _ hmem).symm⟩
      | _ => cases h
  | _ => cases h

theorem WellFormed.child {value part : Value} {step : Step} (wf : value.WellFormed schema)
    (h : value.child? step = some part) : part.WellFormed schema := by
  obtain ⟨inside, hinside, hpart⟩ := child?_eq_some_iff.mp h
  exact ((wf.present hinside).part hpart).1

/-- Every node of a well-formed graph is well formed. -/
theorem WellFormed.get? {root node : Value} {address : Address} (wf : root.WellFormed schema)
    (h : root.get? address = some node) : node.WellFormed schema := by
  induction address generalizing root with
  | nil =>
      injection h with h
      rw [← h]
      exact wf
  | cons step rest ih =>
      rw [Value.get?, Option.bind_eq_some_iff] at h
      obtain ⟨part, hpart, hnode⟩ := h
      exact ih (wf.child hpart) hnode

/-- **Every slot of a well-formed graph holds a value of the shape declared for it.** -/
theorem WellFormed.declared?_eq_shape {root node : Value} {address : Address}
    (wf : root.WellFormed schema) (hne : address ≠ []) (h : root.get? address = some node) :
    schema.declared? root address = some node.shape := by
  -- Only the last step is declared; the steps before it lead to the node that declares it.
  induction address generalizing root with
  | nil => exact absurd rfl hne
  | cons step rest ih =>
      rw [Value.get?, Option.bind_eq_some_iff] at h
      obtain ⟨part, hpart, hnode⟩ := h
      cases rest with
      | nil =>
          injection hnode with hnode
          obtain ⟨inside, hinside, hstep⟩ := child?_eq_some_iff.mp hpart
          rw [Schema.declared?, hinside, ← hnode]
          exact ((wf.present hinside).part hstep).2
      | cons step' rest' =>
          show (root.child? step).bind (schema.declared? · (step' :: rest')) = some node.shape
          rw [hpart]
          exact ih (wf.child hpart) (List.cons_ne_nil _ _) hnode

end Value

end ConfigGraph
