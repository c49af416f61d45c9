/-
  ConfigGraph.Proofs.Container.Gain
  ────────────────────────────────
  **ONE PART MORE.**

  `Gains` says that one graph is another one with one item of a list, one
  entry of a map or one member of a set more.  The items behind a new item
  have moved up, so the addresses in the two graphs are not the same; where
  a node of the smaller graph is in the greater one is its address `past`
  what is new.

  Leaf slots are never above what is new, because nothing is below a leaf.
  So each of them is in both graphs with one value, or it is in what is new.

  Main results:
    * `OneMore.part?_past`, `OneMore.part?_cases`
    * `Gains.kept`, `Gains.covered`
-/
import ConfigGraph.Proofs.Container.Members

namespace ConfigGraph

/-! ## §1. Moving up. -/

/-- Where a step leads once there is a new part: items behind a new item have moved up. -/
def Step.past : Step → Step → Step
  | .index i, .index j => .index (if i ≤ j then j + 1 else j)
  | _, step => step

/-- Where the node at an address is once there is a new part in the node `above`. -/
def Address.past (above : Address) (new : Step) (other : Address) : Address :=
  match above.isPrefixOf? other with
  | some (step :: rest) => above ++ new.past step :: rest
  | _ => other

theorem Address.past_below (above : Address) (new step : Step) (rest : Address) :
    Address.past above new (above ++ step :: rest) = above ++ new.past step :: rest := by
  have hprefix : above.isPrefixOf? (above ++ step :: rest) = some (step :: rest) :=
    List.isPrefixOf?_eq_some_iff_append_eq.mpr rfl
  simp only [past, hprefix]

theorem Address.past_apart {above other : Address} (h : ¬ above <+: other) (new : Step) :
    Address.past above new other = other := by
  unfold past
  split
  · rename_i step rest hprefix
    exact absurd ⟨_, List.isPrefixOf?_eq_some_iff_append_eq.mp hprefix⟩ h
  · rfl

/-- A new member moves nothing. -/
theorem Address.past_field (above : Address) (name : String) (other : Address) :
    Address.past above (.field name) other = other := by
  unfold past
  split
  · rename_i step rest hprefix
    exact List.isPrefixOf?_eq_some_iff_append_eq.mp hprefix
  · rfl

/-! ## §2. Containers. -/

/-- The second list or map is the first with one more item or entry, to which the step leads. -/
inductive OneMore : Value → Step → Value → Prop where
  /-- A list has one more item. -/
  | item {shape : Shape} {before after : List Value} {added : Value} :
      OneMore (.list shape (before ++ after)) (.index before.length)
        (.list shape (before ++ added :: after))
  /-- A map has one more entry, at a key that it did not have. -/
  | entry {order : MapOrder} {kind : KeyKind} {shape : Shape} {before after : List (Key × Value)}
      {key : Key} {added : Value} (absent : key ∉ (before ++ after).map (·.1)) :
      OneMore (.map order kind shape (before ++ after)) (.key key)
        (.map order kind shape (before ++ (key, added) :: after))

namespace OneMore

variable {container container' part : Value} {new step : Step}

theorem isBare (h : OneMore container new container') :
    container.isBare = true ∧ container'.isBare = true := by
  cases h <;> exact ⟨rfl, rfl⟩

/-- **EVERY PART IS STILL THERE**, and may have moved up. -/
theorem part?_past (h : OneMore container new container') (hpart : container.part? step = some part) :
    container'.part? (new.past step) = some part := by
  cases h with
  | @item shape before after added =>
      cases step with
      | index j =>
          replace hpart : (before ++ after)[j]? = some part := hpart
          show (before ++ added :: after)[if before.length ≤ j then j + 1 else j]? = some part
          rw [← hpart]
          by_cases hj : before.length ≤ j
          · rw [if_pos hj, List.getElem?_append_right hj, List.getElem?_append_right (by omega),
              Nat.succ_sub hj, List.getElem?_cons_succ]
          · rw [if_neg hj, List.getElem?_append_left (by omega),
              List.getElem?_append_left (by omega)]
      | _ => cases hpart
  | @entry order kind shape before after key added absent =>
      cases step with
      | key other =>
          replace hpart : Ordered.find? other (before ++ after) = some part := hpart
          have hne : other ≠ key := by
            rintro rfl
            exact absent (List.mem_map_of_mem (Ordered.mem_of_find? hpart))
          exact (Ordered.find?_insert_of_ne hne added before after).trans hpart
      | _ => cases hpart

/-- **EVERY PART WAS THERE BEFORE**, apart from the new one. -/
theorem part?_cases (h : OneMore container new container')
    (hpart : container'.part? step = some part) :
    step = new ∨ ∃ step', new.past step' = step ∧ container.part? step' = some part := by
  cases h with
  | @item shape before after added =>
      cases step with
      | index j =>
          replace hpart : (before ++ added :: after)[j]? = some part := hpart
          rcases Nat.lt_trichotomy j before.length with hlt | rfl | hlt
          · refine .inr ⟨.index j, by rw [Step.past, if_neg (by omega)], ?_⟩
            rw [List.getElem?_append_left hlt] at hpart
            exact (List.getElem?_append_left hlt).trans hpart
          · exact .inl rfl
          · obtain ⟨i, rfl⟩ : ∃ i, j = i + 1 := ⟨j - 1, by omega⟩
            refine .inr ⟨.index i, by rw [Step.past, if_pos (by omega)], ?_⟩
            rw [List.getElem?_append_right (by omega), Nat.succ_sub (by omega),
              List.getElem?_cons_succ] at hpart
            exact (List.getElem?_append_right (by omega)).trans hpart
      | _ => cases hpart
  | @entry order kind shape before after key added absent =>
      cases step with
      | key other =>
          by_cases hne : other = key
          · exact .inl (congrArg Step.key hne)
          · refine .inr ⟨.key other, rfl, ?_⟩
            exact (Ordered.find?_insert_of_ne hne added before after).symm.trans hpart
      | _ => cases hpart

end OneMore

/-! ## §3. Leaf slots. -/

namespace Value

variable {schema : Schema} {root value node inside : Value} {address other : Address}

/-- The slot is one for a text, a truth value, a number or a vector: such a value is in it,
perhaps behind layers, or it is empty and declared for one. -/
def IsLeafSlot (value : Value) : Prop :=
  match value.present? with
  | some inside => inside.shape.isLeaf = true
  | none => value.shape.resolved.isLeaf = true

/-- Behind nullable layers is what the layers are declared for. -/
theorem WellFormed.shape_of_present (wf : value.WellFormed schema)
    (h : value.present? = some inside) (static : value.shape.resolved ≠ .dynamic) :
    inside.shape = value.shape.resolved := by
  induction value using layers_induction with
  | vacant => cases h
  | filled inner value ih =>
      cases wf with
      | filled hinner hvalue =>
          rw [shape, Shape.resolved, ← hinner] at static ⊢
          exact ih hvalue h static
  | dynamic => exact absurd rfl static
  | bare value hbare =>
      rw [present?_of_isBare hbare] at h
      injection h with h
      rw [← h]
      cases value <;> first | rfl | cases hbare

theorem IsLeafSlot.child?_eq_none (h : value.IsLeafSlot) (step : Step) :
    value.child? step = none := by
  unfold IsLeafSlot at h
  rw [child?]
  split at h
  · rename_i inside present
    rw [present, Option.bind_some]
    cases inside <;> first | rfl | cases h
  · rename_i vacant
    rw [vacant]
    rfl

/-- **A LEAF SLOT IS BELOW ANOTHER NODE OR APART FROM IT**, unless that node is a leaf slot. -/
theorem IsLeafSlot.place (h : value.IsLeafSlot) (held : root.get? other = some value)
    (hnode : root.get? address = some node) (hno : ¬ node.IsLeafSlot) :
    (¬ address <+: other ∧ ¬ other <+: address) ∨ ∃ step rest part,
      other = address ++ step :: rest ∧ node.child? step = some part ∧
      part.get? rest = some value := by
  by_cases hbelow : address <+: other
  · obtain ⟨rest, rfl⟩ := hbelow
    rw [get?_append, hnode, Option.bind_some] at held
    cases rest with
    | nil =>
        injection held with held
        exact absurd (held ▸ h) hno
    | cons step rest =>
        obtain ⟨part, hpart, hrest⟩ := Option.bind_eq_some_iff.mp held
        exact .inr ⟨step, rest, part, rfl, hpart, hrest⟩
  · refine .inl ⟨hbelow, fun habove => ?_⟩
    obtain ⟨rest, rfl⟩ := habove
    rw [get?_append, held, Option.bind_some] at hnode
    cases rest with
    | nil => exact hbelow (by simp)
    | cons step rest =>
        rw [get?, h.child?_eq_none step] at hnode
        cases hnode

/-- A list or map is no leaf slot, whatever layers are around it. -/
theorem not_isLeafSlot_of_present (present : node.present? = some inside)
    (h : inside.shape.isLeaf = false) : ¬ node.IsLeafSlot := by
  unfold IsLeafSlot
  rw [present]
  exact Bool.eq_false_iff.mp h

section

variable {n : Nat} (wf : node.WellFormed schema) (set : node.shape = .optional n .textSet)

include wf set

/-- What is behind the layers of a set is a set. -/
theorem WellFormed.shape_of_set (present : node.present? = some inside) :
    inside.shape = .textSet := by
  have hresolved : node.shape.resolved = .textSet := by rw [set, Shape.resolved_optional rfl]
  rw [wf.shape_of_present present (by rw [hresolved]; decide), hresolved]

/-- A set is no leaf slot, whether it is there or not. -/
theorem WellFormed.not_isLeafSlot : ¬ node.IsLeafSlot := by
  unfold IsLeafSlot
  split
  · rename_i inside present
    rw [wf.shape_of_set set present]
    decide
  · rw [set, Shape.resolved_optional rfl]
    decide

/-- And nothing is below it. -/
theorem WellFormed.child?_eq_none (step : Step) : node.child? step = none := by
  rw [child?]
  cases present : node.present? with
  | none => rfl
  | some inside =>
      have hshape := wf.shape_of_set set present
      cases inside <;> first | rfl | cases hshape

end

end Value

/-! ## §4. Graphs. -/

/-- The graph `more` is the graph `less` with one more item, entry or member. An item or entry
is new in the node `above`; a member is new in a set that is a field of that node, where an
empty field is a set without members. -/
inductive Gains (less : Value) (above : Address) : Step → Value → Prop where
  /-- One more item or entry. -/
  | part {node container container' : Value} {new : Step} (held : less.get? above = some node)
      (present : node.present? = some container) (more : OneMore container new container') :
      Gains less above new (less.replaceAt above container')
  /-- One more member. -/
  | member {node : Value} {name : String} {n : Nat} {before after : List String} {text : String}
      (held : less.get? (above ++ [.field name]) = some node)
      (set : node.shape = .optional n .textSet) (members : node.members = before ++ after)
      (absent : text ∉ before ++ after) :
      Gains less above (.field name)
        (less.withMembers (above ++ [.field name]) n (before ++ text :: after))

namespace Gains

variable {schema : Schema} {less more value : Value} {above other : Address} {new : Step}

/-- **EVERY LEAF SLOT KEEPS ITS VALUE**, and may have moved up. -/
theorem kept (h : Gains less above new more) (wf : less.WellFormed schema)
    (leaf : value.IsLeafSlot) (held : less.get? other = some value) :
    more.get? (Address.past above new other) = some value := by
  cases h with
  | @part node container container' new hnode present grows =>
      have hno : ¬ node.IsLeafSlot :=
        Value.not_isLeafSlot_of_present present (by cases grows <;> rfl)
      have hnode' := (Value.replacedAt_replaceAt hnode container').reachable.2
      have hpresent' : (node.mapPresent fun _ => container').present? = some container' := by
        rw [Value.present?_mapPresent, present]
        exact Value.present?_of_isBare grows.isBare.2
      rcases leaf.place held hnode hno with
        ⟨hbelow, habove⟩ | ⟨step, rest, part, rfl, hpart, hrest⟩
      · rw [Address.past_apart hbelow]
        exact (Value.get?_update_apart hbelow habove _ less).trans held
      · rw [Value.child?, present, Option.bind_some] at hpart
        rw [Address.past_below, Value.get?_append, hnode', Option.bind_some, Value.get?,
          Value.child?, hpresent', Option.bind_some, grows.part?_past hpart, Option.bind_some, hrest]
  | @member node name n before after text hnode set members absent =>
      have wfNode := wf.get? hnode
      rw [Address.past_field]
      rcases leaf.place held hnode (wfNode.not_isLeafSlot set) with
        ⟨hbelow, habove⟩ | ⟨step, rest, part, rfl, hpart, hrest⟩
      · exact (Value.get?_update_apart hbelow habove _ less).trans held
      · rw [wfNode.child?_eq_none set step] at hpart
        cases hpart

/-- **EVERY LEAF SLOT IS AN OLD ONE**, unless it is in what is new. -/
theorem covered (h : Gains less above new more) (leaf : value.IsLeafSlot)
    (held : more.get? other = some value) :
    above ++ [new] <+: other ∨
      ∃ other', Address.past above new other' = other ∧ less.get? other' = some value := by
  cases h with
  | @part node container container' new hnode present grows =>
      have hnode' := (Value.replacedAt_replaceAt hnode container').reachable.2
      have hpresent' : (node.mapPresent fun _ => container').present? = some container' := by
        rw [Value.present?_mapPresent, present]
        exact Value.present?_of_isBare grows.isBare.2
      have hno : ¬ (node.mapPresent fun _ => container').IsLeafSlot :=
        Value.not_isLeafSlot_of_present hpresent' (by cases grows <;> rfl)
      rcases leaf.place held hnode' hno with
        ⟨hbelow, habove⟩ | ⟨step, rest, part, rfl, hpart, hrest⟩
      · refine .inr ⟨other, Address.past_apart hbelow new, ?_⟩
        exact (Value.get?_update_apart hbelow habove _ less).symm.trans held
      · rw [Value.child?, hpresent', Option.bind_some] at hpart
        rcases grows.part?_cases hpart with rfl | ⟨step', rfl, hpart'⟩
        · exact .inl ⟨rest, by simp⟩
        · refine .inr ⟨above ++ step' :: rest, Address.past_below _ _ _ _, ?_⟩
          rw [Value.get?_append, hnode, Option.bind_some, Value.get?, Value.child?, present,
            Option.bind_some, hpart', Option.bind_some, hrest]
  | @member node name n before after text hnode set members absent =>
      have hnode' := Value.get?_withMembers hnode n (before ++ text :: after)
      have hbare : (Value.textSet (before ++ text :: after)).isBare = true := rfl
      have hpresent := Value.present?_layered hbare n
      rcases leaf.place held hnode' (Value.not_isLeafSlot_of_present hpresent rfl) with
        ⟨hbelow, habove⟩ | ⟨step, rest, part, rfl, hpart, hrest⟩
      · refine .inr ⟨other, Address.past_field _ _ _, ?_⟩
        exact (Value.get?_update_apart hbelow habove _ less).symm.trans held
      · rw [Value.child?, hpresent] at hpart
        cases hpart

end Gains

end ConfigGraph
