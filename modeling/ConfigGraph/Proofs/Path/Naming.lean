/-
  ConfigGraph.Proofs.Path.Naming
  ────────────────────────────────
  **EVERY NODE HAS A PATH, AND A PATH HAS ONE NODE.**

  A node is reached by steps, each to a field, to an item or to an entry.
  Each step has a segment that writes it, and the path joined from these
  segments leads back along the same steps.  Here it matters that a map has
  no key twice, and that the decimal text of an index or of an integer key
  reads back as the number.

  In the other direction, a step can be written in more than one way.  Two
  segments write the same step if they are the same field name, read as the
  same index or as the same key; and two paths lead to the same place if
  they write the same steps one by one.  Then neither a look-up nor a
  landing can tell them apart.

  Main results:
    * `Reaches.locate?_format`
    * `address_eq_iff`, `put_eq_iff`
    * `SameSteps.locateFrom?_eq`, `SameSteps.found_eq`
    * `sameSteps_respelled`
-/
import ConfigGraph.Proofs.Landing
import ConfigGraph.Proofs.Path.Codec

namespace ConfigGraph

/-! ## §1. Reaching a node. -/

/-- The steps lead from the value to the node, layers looked through. -/
inductive Value.Reaches : Value → Address → Value → Prop where
  /-- Without a step, to the value itself. -/
  | here (value : Value) : Reaches value [] value
  /-- To a field of a record, by its name. -/
  | field {value part node : Value} {record name : String} {fields : List (String × Value)}
      {rest : Address} (present : value.present? = some (.record record fields))
      (named : Ordered.find? name fields = some part) (reaches : Reaches part rest node) :
      Reaches value (.field name :: rest) node
  /-- To an item of a list, by its position. -/
  | item {value part node : Value} {element : Shape} {items : List Value} {i : Nat}
      {rest : Address} (present : value.present? = some (.list element items))
      (stands : items[i]? = some part) (reaches : Reaches part rest node) :
      Reaches value (.index i :: rest) node
  /-- To the value of an entry of a map, by the key of the entry. -/
  | entry {value part node : Value} {order : MapOrder} {kind : KeyKind} {shape : Shape}
      {entries : List (Key × Value)} {key : Key} {rest : Address}
      (present : value.present? = some (.map order kind shape entries))
      (mem : (key, part) ∈ entries) (reaches : Reaches part rest node) :
      Reaches value (.key key :: rest) node

/-! ## §2. The segment of a step. -/

/-- The path segment that writes a step. -/
def Step.segment : Step → String
  | .field name => name
  | .index i => Text.ofNat i
  | .key k => k.segment

/-- The step can be written: its text has no separator in it, its index is not too great. -/
def Step.Writable : Step → Prop
  | .field name => FieldPath.Plain name
  | .index i => i ≤ Text.maxIndex
  | .key (.text s) => FieldPath.Plain s
  | .key (.int _) => True

/-- The segment of a key reads as the key. -/
theorem Key.read?_segment (key : Key) : key.kind.read? key.segment = some key := by
  cases key with
  | text s => rfl
  | int n => rw [kind, segment, KeyKind.read?, Text.int?_ofInt, Option.map_some]

theorem Step.Writable.plain {step : Step} (h : step.Writable) : FieldPath.Plain step.segment := by
  cases step with
  | field name => exact h
  | index i => exact FieldPath.plain_ofNat i
  | key key =>
      cases key with
      | text s => exact h
      | int n => exact FieldPath.plain_ofInt n.toInt

/-- **THE SEGMENTS OF THE STEPS LEAD WHERE THE STEPS LEAD.** -/
theorem Value.Reaches.locateFrom? {schema : Schema} {value node : Value} {address : Address}
    (reaches : value.Reaches address node) (wf : value.WellFormed schema) {depth : Nat}
    (hdepth : depth ≠ 0 ∨ ∃ name rest, address = .field name :: rest)
    (hwritable : ∀ step ∈ address, step.Writable) :
    value.locateFrom? depth (address.map Step.segment) = some (address, node) := by
  induction reaches generalizing depth with
  | here value => rfl
  | @field value part node record name fields rest present named _ ih =>
      have hstep : value.step? depth name = some (.field name, part) := by
        rw [step?_record present, named]
        rfl
      have hrest := ih (wf.child (child?_of_step? hstep)) (.inl (Nat.succ_ne_zero depth))
        fun step hmem => hwritable step (List.mem_cons_of_mem _ hmem)
      exact locateFrom?_cons_eq_some_iff.mpr ⟨_, _, _, hstep, hrest, rfl⟩
  | @item value part node element items i rest present stands _ ih =>
      have hbehind : depth ≠ 0 := hdepth.resolve_right fun ⟨_, _, h⟩ => nomatch h
      have hstep : value.step? depth (Text.ofNat i) = some (.index i, part) := by
        rw [step?_list present hbehind, Text.index?_ofNat (hwritable _ List.mem_cons_self),
          Option.bind_some, stands]
        rfl
      have hrest := ih (wf.child (child?_of_step? hstep)) (.inl (Nat.succ_ne_zero depth))
        fun step hmem => hwritable step (List.mem_cons_of_mem _ hmem)
      exact locateFrom?_cons_eq_some_iff.mpr ⟨_, _, _, hstep, hrest, rfl⟩
  | @entry value part node order kind shape entries key rest present mem _ ih =>
      have hbehind : depth ≠ 0 := hdepth.resolve_right fun ⟨_, _, h⟩ => nomatch h
      have hstep : value.step? depth key.segment = some (.key key, part) := by
        cases wf.present present with
        | map keeps kinds _ _ =>
            rw [step?_map present hbehind, ← kinds _ mem, Key.read?_segment, Option.bind_some,
              Ordered.find?_of_mem keeps.nodup mem]
            rfl
      have hrest := ih (wf.child (child?_of_step? hstep)) (.inl (Nat.succ_ne_zero depth))
        fun step hmem => hwritable step (List.mem_cons_of_mem _ hmem)
      exact locateFrom?_cons_eq_some_iff.mpr ⟨_, _, _, hstep, hrest, rfl⟩

/-- A node that is reached from a field of the root is found at the path joined from the
segments of its steps. -/
theorem Value.Reaches.locate?_format {schema : Schema} {root node : Value} {name : String}
    {rest : Address} (reaches : root.Reaches (.field name :: rest) node)
    (wf : root.WellFormed schema) (hname : name ≠ "")
    (hwritable : ∀ step ∈ Step.field name :: rest, step.Writable) :
    root.locate? (FieldPath.parse (FieldPath.format ((Step.field name :: rest).map Step.segment)))
      = some (.field name :: rest, node) := by
  have hplain : ∀ segment ∈ (Step.field name :: rest).map Step.segment,
      FieldPath.Plain segment := by
    intro segment hsegment
    obtain ⟨step, hstep, rfl⟩ := List.mem_map.mp hsegment
    exact (hwritable step hstep).plain
  have hne : (Step.field name :: rest).map Step.segment ≠ [""] := by
    intro h
    injection h with hfirst _
    exact hname hfirst
  rw [FieldPath.parse_format hplain hne]
  exact reaches.locateFrom? wf (.inr ⟨name, rest, rfl⟩) hwritable

/-! ## §3. Places. -/

namespace Value

variable {root node node' : Value} {address other : Address}

/-- Whoever exchanges the node at one address, and finds what was put there at another one,
has found it above or at the first. -/
theorem prefix_of_update_eq (hother : root.get? other = some node')
    (h : ∀ new, root.update (fun _ => new) address = root.update (fun _ => new) other) :
    address <+: other := by
  by_contra hbelow
  -- Unless the address is above the other one, an update keeps the outline of the other node.
  have houtline : ∀ new, (some new).map outline = (some node').map outline := by
    intro new
    have hget : (root.update (fun _ => new) address).get? other = some new := by
      rw [h new, get?_update_self, hother]
      rfl
    rw [← hget, ← hother]
    by_cases habove : other <+: address
    · refine outline_update_above habove ?_ _ root
      rintro rfl
      exact hbelow (List.prefix_refl _)
    · rw [get?_update_apart hbelow habove]
  have hsame := (houtline (.bool true)).trans (houtline (.bool false)).symm
  cases hsame

/-- **AN ADDRESS IS A PLACE**: at different addresses, different nodes are exchanged. -/
theorem address_eq_of_update_eq (hnode : root.get? address = some node)
    (hother : root.get? other = some node')
    (h : ∀ new, root.update (fun _ => new) address = root.update (fun _ => new) other) :
    address = other := by
  have hbelow := prefix_of_update_eq hother h
  have habove := prefix_of_update_eq hnode fun new => (h new).symm
  exact hbelow.eq_of_length (Nat.le_antisymm hbelow.length_le habove.length_le)

end Value

/-! ## §4. Writing the same steps. -/

/-- At the value, the segment writes the step, whether it leads to a part or not. -/
inductive Writes (value : Value) : String → Step → Prop where
  /-- It is the name of a field. -/
  | field {record : String} {fields : List (String × Value)} (name : String)
      (present : value.present? = some (.record record fields)) : Writes value name (.field name)
  /-- It reads as the index. -/
  | index {element : Shape} {items : List Value} {segment : String} {i : Nat}
      (present : value.present? = some (.list element items))
      (reads : Text.index? segment = some i) : Writes value segment (.index i)
  /-- It reads as the key. -/
  | key {order : MapOrder} {kind : KeyKind} {shape : Shape} {entries : List (Key × Value)}
      {segment : String} {key : Key}
      (present : value.present? = some (.map order kind shape entries))
      (reads : kind.read? segment = some key) : Writes value segment (.key key)

/-- The two segments are the same text, or they write the same step: they are the same field
name, or read as the same index or the same key. -/
def SameStep (value : Value) (s t : String) : Prop :=
  s = t ∨ ∃ step, Writes value s step ∧ Writes value t step

/-- From the value on, the two paths are of one length and write the same steps, as far as
there are nodes to step from. -/
inductive SameSteps : Value → Nat → List String → List String → Prop where
  /-- There is nothing left to write. -/
  | nil (value : Value) (depth : Nat) : SameSteps value depth [] []
  /-- They write the same step, and the same steps from the part that it leads to. -/
  | cons {value : Value} {depth : Nat} {s t : String} {p q : List String}
      (same : SameStep value s t) (length : p.length = q.length)
      (rest : ∀ step part, value.step? depth s = some (step, part) →
        SameSteps part (depth + 1) p q) : SameSteps value depth (s :: p) (t :: q)

section

variable {value node : Value} {depth : Nat} {s t : String} {p q : List String}

theorem Writes.of_step? {step : Step} {part : Value}
    (h : value.step? depth s = some (step, part)) : Writes value s step := by
  obtain ⟨inside, present, hpart⟩ := Value.child?_eq_some_iff.mp (Value.child?_of_step? h)
  have hdepth (hrecord : ∀ name fields, inside ≠ .record name fields) : depth ≠ 0 := by
    rintro rfl
    rw [Value.step?_zero present hrecord] at h
    cases h
  cases inside with
  | record record fields =>
      rw [Value.step?_record present] at h
      obtain ⟨rfl, _⟩ := Value.map_step_eq_some h
      exact .field s present
  | list element items =>
      rw [Value.step?_list present (hdepth nofun)] at h
      obtain ⟨i, reads, hi⟩ := Option.bind_eq_some_iff.mp h
      obtain ⟨rfl, _⟩ := Value.map_step_eq_some hi
      exact .index present reads
  | map order kind shape entries =>
      rw [Value.step?_map present (hdepth nofun)] at h
      obtain ⟨key, reads, hkey⟩ := Option.bind_eq_some_iff.mp h
      obtain ⟨rfl, _⟩ := Value.map_step_eq_some hkey
      exact .key present reads
  | _ => cases hpart

theorem SameStep.step?_eq (h : SameStep value s t) (depth : Nat) :
    value.step? depth s = value.step? depth t := by
  rcases h with rfl | ⟨step, hs, ht⟩
  · rfl
  cases hs with
  | field _ _ =>
      cases ht
      rfl
  | index present reads =>
      cases ht with
      | index _ reads' => simp only [Value.step?, present, reads, reads']
  | key present reads =>
      cases ht with
      | key present' reads' =>
          rw [present] at present'
          cases present'
          simp only [Value.step?, present, reads, reads']

theorem SameSteps.length_eq (h : SameSteps value depth p q) : p.length = q.length := by
  cases h with
  | nil => rfl
  | cons _ length _ => exact congrArg (· + 1) length

/-- Paths that write the same steps are read alike. -/
theorem SameSteps.locateFrom?_eq (h : SameSteps value depth p q) :
    value.locateFrom? depth p = value.locateFrom? depth q := by
  induction h with
  | nil value depth => rfl
  | @cons value depth s t p q same length rest ih =>
      rw [Value.locateFrom?, Value.locateFrom?, ← same.step?_eq]
      cases hstep : value.step? depth s with
      | none => rfl
      | some found =>
          show (found.2.locateFrom? (depth + 1) p).bind _
            = (found.2.locateFrom? (depth + 1) q).bind _
          rw [ih found.1 found.2 hstep]

/-- Paths that lead along the same steps write the same steps. -/
theorem sameSteps_of_locateFrom? {address : Address} {node' : Value}
    (hp : value.locateFrom? depth p = some (address, node))
    (hq : value.locateFrom? depth q = some (address, node')) : SameSteps value depth p q := by
  induction p generalizing value depth q address with
  | nil =>
      injection hp with hp
      injection hp with haddress _
      cases q with
      | nil => exact .nil value depth
      | cons t q =>
          obtain ⟨step, part, below, _, _, hcons⟩ := Value.locateFrom?_cons_eq_some_iff.mp hq
          exact nomatch haddress.trans hcons
  | cons s p ih =>
      obtain ⟨step, part, below, hstep, hrest, rfl⟩ := Value.locateFrom?_cons_eq_some_iff.mp hp
      cases q with
      | nil =>
          injection hq with hq
          injection hq with haddress _
          cases haddress
      | cons t q =>
          obtain ⟨step', part', below', hstep', hrest', hcons⟩ :=
            Value.locateFrom?_cons_eq_some_iff.mp hq
          injection hcons with hsame hbelow
          subst hsame hbelow
          -- One step leads to one part, so both paths go on from the same node.
          have hpart : part' = part := by
            have hchild := Value.child?_of_step? hstep'
            rw [Value.child?_of_step? hstep] at hchild
            exact (Option.some.inj hchild).symm
          subst hpart
          have hsteps := ih hrest hrest'
          refine .cons (.inr ⟨step, .of_step? hstep, .of_step? hstep'⟩) hsteps.length_eq ?_
          intro other part' hother
          rw [hstep] at hother
          cases hother
          exact hsteps

/-- The beginnings of such paths are such paths, and the last segments write the same step. -/
theorem SameSteps.concat_inv (h : SameSteps value depth (p ++ [s]) (q ++ [t])) :
    SameSteps value depth p q ∧ ∀ address node,
      value.locateFrom? depth p = some (address, node) → SameStep node s t := by
  have hlength : p.length = q.length := by
    have := h.length_eq
    simpa using this
  induction p generalizing value depth q with
  | nil =>
      obtain rfl := List.eq_nil_of_length_eq_zero hlength.symm
      refine ⟨.nil value depth, fun address node hlocate => ?_⟩
      injection hlocate with hlocate
      injection hlocate with _ hnode
      cases h with
      | cons same _ _ => exact hnode ▸ same
  | cons first p ih =>
      obtain ⟨first', q, rfl⟩ := List.exists_cons_of_length_eq_add_one hlength.symm
      cases h with
      | cons same _ rest =>
          have hlength' : p.length = q.length := Nat.succ.inj hlength
          refine ⟨.cons same hlength' fun step part hstep =>
            (ih (rest step part hstep) hlength').1, ?_⟩
          intro address node hlocate
          obtain ⟨step, part, below, hstep, hbelow, _⟩ :=
            Value.locateFrom?_cons_eq_some_iff.mp hlocate
          exact (ih (rest step part hstep) hlength').2 below node hbelow

theorem SameSteps.refl (value : Value) (depth : Nat) (p : List String) :
    SameSteps value depth p p := by
  induction p generalizing value depth with
  | nil => exact .nil value depth
  | cons s p ih => exact .cons (.inl rfl) rfl fun _ part _ => ih part (depth + 1)

/-- From a node on a path, the same steps may be written in either way. -/
theorem SameSteps.of_locateFrom? {before : List String} {address : Address}
    (h : value.locateFrom? depth before = some (address, node))
    (steps : SameSteps node (depth + before.length) p q) :
    SameSteps value depth (before ++ p) (before ++ q) := by
  induction before generalizing value depth address with
  | nil =>
      injection h with h
      injection h with _ hnode
      exact hnode ▸ steps
  | cons first before ih =>
      obtain ⟨step, part, below, hstep, hbelow, _⟩ := Value.locateFrom?_cons_eq_some_iff.mp h
      have hlength : (before ++ p).length = (before ++ q).length := by
        rw [List.length_append, List.length_append, steps.length_eq]
      refine .cons (.inl rfl) hlength ?_
      intro other part' hother
      rw [hstep] at hother
      cases hother
      refine ih hbelow ?_
      rw [List.length_cons, ← Nat.add_assoc, Nat.add_right_comm] at steps
      exact steps

/-- **A SPELLING CAN BE EXCHANGED** for another one of the same number, wherever the number is
an index or the key of an entry. -/
theorem sameSteps_respelled {before after : List String} {address : Address} {n : Int32}
    (h : value.locateFrom? depth before = some (address, node))
    (hnumber : (0 ≤ n.toInt ∧ ∃ element items, node.present? = some (.list element items)) ∨
      ∃ order shape entries, node.present? = some (.map order .int shape entries))
    (hs : Text.Spells s n.toInt) (ht : Text.Spells t n.toInt) :
    SameSteps value depth (before ++ s :: after) (before ++ t :: after) := by
  refine .of_locateFrom? h (.cons (.inr ?_) rfl fun _ part _ => .refl part _ after)
  have reads := Text.int?_of_spells hs
  have reads' := Text.int?_of_spells ht
  rcases hnumber with ⟨hn, element, items, present⟩ | ⟨order, shape, entries, present⟩
  · exact ⟨_, .index present (Text.index?_of_int? reads hn),
      .index present (Text.index?_of_int? reads' hn)⟩
  · have hkey : ∀ {u}, Text.int? u = some n → KeyKind.read? .int u = some (.int n) := by
      intro u hu
      rw [KeyKind.read?, hu, Option.map_some]
    exact ⟨_, .key present (hkey reads), .key present (hkey reads')⟩

end

/-! ## §5. Landing. -/

/-- The step to the part that a slot is the place of. -/
def Slot.step? : Slot → Option Step
  | .element _ _ i => some (.index i)
  | .entry _ kind _ _ text => (kind.read? text).map .key
  | .field _ _ name _ => some (.field name)

/-- Where a path ended, apart from the words in which it was written. -/
inductive Found where
  /-- Nowhere. -/
  | failed
  /-- The directive is complete. -/
  | finished (status : Status)
  /-- At a slot: the address of its parent, the contents around it and the step to it. -/
  | slot (parent : Address) (container : Value) (step : Option Step)

/-- What a landing found, and the graph afterwards. -/
def Landing.found (landing : Landing) : Value × Found :=
  (landing.root, match landing.result with
    | .error _ => .failed
    | .ok (.finished status) => .finished status
    | .ok (.slot parent slot) => .slot parent slot.container slot.step?)

section

variable {root node : Value} {address : Address} {s t : String}

/-- A slot is found by its key, however the key is written. -/
theorem found_entry {order : MapOrder} {kind : KeyKind} {shape : Shape}
    {entries : List (Key × Value)} {key : Key} (notes notes' : List Note)
    (reads : kind.read? s = some key) (reads' : kind.read? t = some key)
    (present : node.present? = some (.map order kind shape entries)) :
    (Landing.of root address node (.ok ⟨none, notes, .update (.key s)⟩)).found
      = (Landing.of root address node (.ok ⟨none, notes', .update (.key t)⟩)).found := by
  simp only [Landing.of, Landing.found, Slot.resolve, present, Entries.find?, reads, reads',
    Option.bind_some]
  cases Ordered.find? key entries with
  | none => rfl
  | some part => simp [Except.map, Slot.container, Slot.step?, reads, reads']

/-- At one node, segments that write the same step land alike. -/
theorem SameStep.found_eq (h : SameStep node s t) (schema : Schema) (root : Value)
    (address : Address) (depth : Nat) (operation : Operation) (value : String) :
    (Landing.of root address node (finalStep schema node depth s operation value)).found
      = (Landing.of root address node (finalStep schema node depth t operation value)).found := by
  rcases h with rfl | ⟨step, hs, ht⟩
  · rfl
  cases hs with
  | field _ _ =>
      cases ht
      rfl
  | index present reads =>
      cases ht with
      | index _ reads' =>
          simp only [finalStep, present]
          split
          · rfl
          · simp only [finalStepList, reads, reads']
  | @key order kind shape entries _ key present reads =>
      cases ht with
      | key present' reads' =>
          rw [present] at present'
          cases present'
          simp only [finalStep, present]
          split
          · rfl
          cases kind with
          | text =>
              -- A text writes itself, so the two segments are the same.
              injection reads.trans reads'.symm with hsame
              injection hsame with hsame
              rw [hsame]
          | int =>
              cases operation with
              | insert => rfl
              | remove =>
                  simp only [finalStepMap, Entries.remove?, reads, reads', Option.bind_some]
                  cases Ordered.find? key entries <;> rfl
              | overwrite | defaultValue =>
                  simp only [finalStepMap, Entries.find?, reads, reads', Option.bind_some]
                  split
                  · exact found_entry [] [] reads reads' present
                  · rfl

end

/-- Paths that write the same steps land alike. -/
theorem SameSteps.found_eq {root : Value} {p q : List String} (h : SameSteps root 0 p q)
    (schema : Schema) (operation : Operation) (value : String) :
    (land schema root p operation value).found = (land schema root q operation value).found := by
  rcases List.eq_nil_or_concat p with rfl | ⟨before, last, rfl⟩
  · cases h
    rfl
  obtain ⟨before', last', rfl⟩ : ∃ before' last', q = before' ++ [last'] := by
    rcases List.eq_nil_or_concat q with rfl | ⟨before', last', rfl⟩
    · have := h.length_eq
      simp at this
    · exact ⟨before', last', by rw [List.concat_eq_append]⟩
  rw [List.concat_eq_append] at h ⊢
  obtain ⟨hbefore, hlast⟩ := h.concat_inv
  have hlocate : root.locate? before = root.locate? before' := hbefore.locateFrom?_eq
  cases located : root.locate? before with
  | none =>
      have located' := hlocate.symm.trans located
      obtain ⟨_, _, hland⟩ := land_of_locate?_eq_none located schema last operation value
      obtain ⟨_, _, hland'⟩ := land_of_locate?_eq_none located' schema last' operation value
      rw [hland, hland']
      rfl
  | some found =>
      obtain ⟨address, node⟩ := found
      have located' := hlocate.symm.trans located
      rw [land_of_locate? located, land_of_locate? located', hbefore.length_eq]
      exact (hlast address node located).found_eq schema root address _ operation value

/-! ## §6. Nodes and their paths. -/

/-- What the paths of a graph name. -/
structure PathsName (root : Value) : Prop where
  /-- Whatever is reached from a field of the root is found at the path of its steps. -/
  path : ∀ name rest node, root.Reaches (.field name :: rest) node → name ≠ "" →
    (∀ step ∈ Step.field name :: rest, step.Writable) →
    root.locate? (FieldPath.parse (FieldPath.format ((Step.field name :: rest).map Step.segment)))
      = some (.field name :: rest, node)
  /-- Two paths lead to one address if they write the same steps, and only then. -/
  address : ∀ p q above below node node', root.locate? p = some (above, node) →
    root.locate? q = some (below, node') → (above = below ↔ SameSteps root 0 p q)
  /-- One address is one place: whoever exchanges the node there exchanges the same node. -/
  place : ∀ p q here there, root.place? p = some here → root.place? q = some there →
    ((∀ new, here.put new = there.put new) ↔ SameSteps root 0 p q)
  /-- Paths that write the same steps find the same node and land in the same way. -/
  alike : ∀ p q, SameSteps root 0 p q → root.locate? p = root.locate? q ∧
    ∀ schema operation value,
      (land schema root p operation value).found = (land schema root q operation value).found
  /-- An index or an integer key may be spelled in every way that writes the number. -/
  respelled : ∀ before after address node s t, ∀ n : Int32,
    root.locate? before = some (address, node) →
    (0 ≤ n.toInt ∧ (∃ element items, node.present? = some (.list element items)) ∨
      ∃ order shape entries, node.present? = some (.map order .int shape entries)) →
    Text.Spells s n.toInt → Text.Spells t n.toInt →
    SameSteps root 0 (before ++ s :: after) (before ++ t :: after)

/-- Two paths that are read lead to one address just if they write the same steps. -/
theorem address_eq_iff {root node node' : Value} {p q : List String} {above below : Address}
    (hp : root.locate? p = some (above, node)) (hq : root.locate? q = some (below, node')) :
    above = below ↔ SameSteps root 0 p q := by
  constructor
  · rintro rfl
    exact sameSteps_of_locateFrom? hp hq
  · intro steps
    injection hp.symm.trans (steps.locateFrom?_eq.trans hq) with hfound
    injection hfound

/-- And just then they are the same place. -/
theorem put_eq_iff {root : Value} {p q : List String} {here there : Value.Place}
    (hp : root.place? p = some here) (hq : root.place? q = some there) :
    (∀ new, here.put new = there.put new) ↔ SameSteps root 0 p q := by
  rw [Value.place?_eq] at hp hq
  obtain ⟨⟨above, node⟩, hlocate, rfl⟩ := Option.map_eq_some_iff.mp hp
  obtain ⟨⟨below, node'⟩, hlocate', rfl⟩ := Option.map_eq_some_iff.mp hq
  rw [← address_eq_iff hlocate hlocate']
  constructor
  · exact Value.address_eq_of_update_eq (Value.get?_of_locate? hlocate)
      (Value.get?_of_locate? hlocate')
  · rintro rfl
    exact fun _ => rfl

/-- **EVERY NODE HAS A PATH, AND A PATH HAS ONE NODE.** -/
theorem paths_name_nodes {schema : Schema} {root : Value} (wf : root.WellFormed schema) :
    PathsName root where
  path := fun _ _ _ reaches hname hwritable => reaches.locate?_format wf hname hwritable
  address := fun _ _ _ _ _ _ => address_eq_iff
  place := fun _ _ _ _ => put_eq_iff
  alike := fun _ _ steps => ⟨steps.locateFrom?_eq, steps.found_eq⟩
  respelled := fun _ _ _ _ _ _ _ => sameSteps_respelled

/-- The rig is well formed, and the entry of the key -1 in its codes is found at its path. -/
theorem paths_name_nodes_sampleRig :
    Catalog.sampleRig.WellFormed Catalog.schema ∧
      Catalog.sampleRig.locate? (FieldPath.parse "codes.-1")
        = some ([.field "codes", .key (.int (-1))], .text "minus") := by
  have wf : Catalog.sampleRig.WellFormed Catalog.schema := by decide
  refine ⟨wf, (paths_name_nodes wf).path "codes" [.key (.int (-1))] (.text "minus") ?_ ?_ ?_⟩
  · exact .field rfl rfl (.entry rfl (.tail _ (.head _)) (.here _))
  · decide
  · intro step hstep
    rcases List.mem_cons.mp hstep with rfl | hkey
    · exact (by decide : FieldPath.Plain "codes")
    · rw [List.mem_singleton.mp hkey]
      trivial

end ConfigGraph
