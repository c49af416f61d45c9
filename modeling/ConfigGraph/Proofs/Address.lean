/-
  ConfigGraph.Proofs.Address
  ────────────────────────────────
  **CHANGING ONE NODE OF A GRAPH.**

  `update` changes the node at an address.  The laws below say that it
  changes nothing else: reading at the address gives the changed node,
  reading apart from it gives what was there before, and a node above it
  keeps everything but that one part.  What a node is apart from its parts
  (its layers, the names of its fields, the number of its items, its keys in
  their order) is its `outline`.

  None of the laws needs a well-formed graph: a step leads to the first field
  or entry of its name, and that is also the one that changes.

  Main results:
    * `get?_update_self`, `get?_update_apart`, `outline_update_above`
    * `update_eq_replace`, `update_append`
    * `update_update_self`, `update_comm` — two changes of one graph
    * `replacedAt_update` — all of them together, as `ReplacedAt`
-/
import ConfigGraph.Graph.Address
import ConfigGraph.Proofs.Ordered

namespace ConfigGraph.Value

/-! ## §1. Layers. -/

/-- The value has no nullable or dynamic layer of its own. -/
def isBare : Value → Bool
  | .vacant _ | .filled .. | .dynamic _ => false
  | _ => true

theorem present?_of_isBare {value : Value} (h : value.isBare = true) :
    value.present? = some value := by
  cases value <;> first | rfl | cases h

theorem mapPresent_of_isBare {value : Value} (f : Value → Value) (h : value.isBare = true) :
    value.mapPresent f = f value := by
  cases value <;> first | rfl | cases h

/-- **Induction over layers**: what holds of empty slots and of values without layers and
is kept by adding a layer holds of every value. -/
theorem layers_induction {motive : Value → Prop}
    (vacant : ∀ inner, motive (.vacant inner))
    (filled : ∀ inner value, motive value → motive (.filled inner value))
    (dynamic : ∀ value, motive value → motive (.dynamic value))
    (bare : ∀ value, value.isBare = true → motive value) (value : Value) : motive value := by
  induction value using present?.induct with
  | case1 inner => exact vacant inner
  | case2 inner value ih => exact filled inner value ih
  | case3 value ih => exact dynamic value ih
  | case4 value hvacant hfilled hdynamic =>
      refine bare value ?_
      cases value with
      | vacant inner => exact absurd rfl (hvacant inner)
      | filled inner value => exact absurd rfl (hfilled inner value)
      | dynamic value => exact absurd rfl (hdynamic value)
      | _ => rfl

theorem isBare_of_present? {value inside : Value} (h : value.present? = some inside) :
    inside.isBare = true := by
  induction value using layers_induction with
  | vacant => cases h
  | filled _ _ ih => exact ih h
  | dynamic _ ih => exact ih h
  | bare value hbare =>
      rw [present?_of_isBare hbare] at h
      injection h with h
      rw [← h, hbare]

theorem present?_mapPresent (f : Value → Value) (value : Value) :
    (value.mapPresent f).present? = value.present?.bind fun inside => (f inside).present? := by
  induction value using layers_induction with
  | vacant => rfl
  | filled _ _ ih => exact ih
  | dynamic _ ih => exact ih
  | bare value hbare =>
      rw [mapPresent_of_isBare f hbare, present?_of_isBare hbare]
      rfl

theorem mapPresent_congr {value : Value} {f g : Value → Value}
    (h : ∀ inside, value.present? = some inside → f inside = g inside) :
    value.mapPresent f = value.mapPresent g := by
  induction value using layers_induction with
  | vacant => rfl
  | filled _ _ ih => rw [mapPresent, mapPresent, ih h]
  | dynamic _ ih => rw [mapPresent, mapPresent, ih h]
  | bare value hbare =>
      rw [mapPresent_of_isBare f hbare, mapPresent_of_isBare g hbare,
        h value (present?_of_isBare hbare)]

/-- Only what the function does to the one value behind the layers matters. -/
theorem mapPresent_congr_of_present? {value inside : Value} {f g : Value → Value}
    (h : value.present? = some inside) (hfg : f inside = g inside) :
    value.mapPresent f = value.mapPresent g := by
  refine mapPresent_congr fun inside' hinside' => ?_
  rw [h] at hinside'
  injection hinside' with hinside'
  rw [← hinside', hfg]

/-- Two changes behind the layers are one, if the first makes no layers of its own. -/
theorem mapPresent_mapPresent {value : Value} {f : Value → Value} (g : Value → Value)
    (h : ∀ inside, value.present? = some inside → (f inside).isBare = true) :
    (value.mapPresent f).mapPresent g = value.mapPresent fun node => g (f node) := by
  induction value using layers_induction with
  | vacant => rfl
  | filled _ _ ih => rw [mapPresent, mapPresent, mapPresent, ih h]
  | dynamic _ ih => rw [mapPresent, mapPresent, mapPresent, ih h]
  | bare value hbare =>
      rw [mapPresent_of_isBare f hbare, mapPresent_of_isBare _ hbare,
        mapPresent_of_isBare g (h value (present?_of_isBare hbare))]

/-- What is behind the layers may be put there. -/
theorem mapPresent_eq_self {value inside : Value} {f : Value → Value}
    (h : value.present? = some inside) (hf : f inside = inside) : value.mapPresent f = value := by
  induction value using layers_induction with
  | vacant => rfl
  | filled _ _ ih => rw [mapPresent, ih h]
  | dynamic _ ih => rw [mapPresent, ih h]
  | bare value hbare =>
      rw [present?_of_isBare hbare] at h
      injection h with h
      rw [mapPresent_of_isBare f hbare, h, hf]

/-! ## §2. One step. -/

theorem isBare_mapPart (step : Step) (f : Value → Value) (value : Value) :
    (mapPart step f value).isBare = value.isBare := by
  cases value <;> cases step <;> rfl

/-- Exchanging an item is setting it. -/
theorem mapPart_index_const (i : Nat) (value : Value) (element : Shape) (items : List Value) :
    mapPart (.index i) (fun _ => value) (.list element items)
      = .list element (items.set i value) := by
  have : Inhabited Value := ⟨value⟩
  rw [mapPart, List.modify_eq_set]

theorem part?_mapPart_self (step : Step) (f : Value → Value) (value : Value) :
    (mapPart step f value).part? step = (value.part? step).map f := by
  cases value <;> cases step <;>
    simp [mapPart, part?, Ordered.find?_modify_self, List.getElem?_modify_eq]

theorem part?_mapPart_of_ne {step other : Step} (hne : other ≠ step) (f : Value → Value)
    (value : Value) : (mapPart step f value).part? other = value.part? other := by
  cases value with
  | record name fields =>
      cases step <;> cases other <;> try rfl
      exact Ordered.find?_modify_of_ne (fun h => hne (congrArg Step.field h)) f fields
  | list element items =>
      cases step <;> cases other <;> try rfl
      exact List.getElem?_modify_ne f items fun h => hne (congrArg Step.index h.symm)
  | map order kind shape entries =>
      cases step <;> cases other <;> try rfl
      exact Ordered.find?_modify_of_ne (fun h => hne (congrArg Step.key h)) f entries
  | _ => rfl

/-- Only what the function does to the part matters. -/
theorem mapPart_congr {step : Step} {value part : Value} {f g : Value → Value}
    (h : value.part? step = some part) (hfg : f part = g part) :
    mapPart step f value = mapPart step g value := by
  cases value <;> cases step <;> try rfl
  · rw [mapPart, mapPart, Ordered.modify_congr h hfg]
  · rw [mapPart, mapPart]
    congr 1
    -- Item by item: only the item at the index of the step is asked for.
    refine List.ext_getElem? fun j => ?_
    rw [List.getElem?_modify, List.getElem?_modify]
    split
    · rename_i hij
      rw [part?, hij] at h
      simp [h, hfg]
    · rfl
  · rw [mapPart, mapPart, Ordered.modify_congr h hfg]

/-- A change that changes nothing. -/
theorem mapPart_eq_self {step : Step} {value part : Value} {f : Value → Value}
    (h : value.part? step = some part) (hf : f part = part) : mapPart step f value = value := by
  rw [mapPart_congr h (g := id) hf]
  cases value <;> cases step <;> try rfl
  · rw [mapPart, Ordered.modify_eq_self h rfl]
  · rw [mapPart, List.modify_id]
  · rw [mapPart, Ordered.modify_eq_self h rfl]

/-- Two changes of one part are one change. -/
theorem mapPart_mapPart_self (step : Step) (f g : Value → Value) (value : Value) :
    mapPart step g (mapPart step f value) = mapPart step (fun part => g (f part)) value := by
  cases value <;> cases step <;> try rfl
  · rw [mapPart, mapPart, mapPart, Ordered.modify_modify_self]
  · rw [mapPart, mapPart, mapPart, List.modify_modify_eq]
    rfl
  · rw [mapPart, mapPart, mapPart, Ordered.modify_modify_self]

/-- Two parts can be changed in either order. -/
theorem mapPart_comm {step other : Step} (hne : other ≠ step) (f g : Value → Value)
    (value : Value) :
    mapPart other g (mapPart step f value) = mapPart step f (mapPart other g value) := by
  cases value with
  | record name fields =>
      cases step <;> cases other <;> try rfl
      rw [mapPart, mapPart, mapPart, mapPart,
        Ordered.modify_comm (fun h => hne (congrArg Step.field h))]
  | list element items =>
      cases step <;> cases other <;> try rfl
      rw [mapPart, mapPart, mapPart, mapPart,
        List.modify_modify_ne _ _ _ fun h => hne (congrArg Step.index h.symm)]
  | map order kind shape entries =>
      cases step <;> cases other <;> try rfl
      rw [mapPart, mapPart, mapPart, mapPart,
        Ordered.modify_comm (fun h => hne (congrArg Step.key h))]
  | _ => rfl

/-- Changing a part makes no layers, so a second change reaches the same contents. -/
theorem mapPresent_mapPart_mapPresent (step : Step) (f g : Value → Value) (value : Value) :
    (value.mapPresent (mapPart step f)).mapPresent g
      = value.mapPresent fun inside => g (mapPart step f inside) := by
  refine mapPresent_mapPresent g fun inside h => ?_
  rw [isBare_mapPart, isBare_of_present? h]

theorem child?_eq_some_iff {value part : Value} {step : Step} :
    value.child? step = some part ↔
      ∃ inside, value.present? = some inside ∧ inside.part? step = some part := by
  rw [child?, Option.bind_eq_some_iff]

theorem child?_mapPresent_mapPart (step other : Step) (f : Value → Value) (value : Value) :
    (value.mapPresent (mapPart step f)).child? other =
      if other = step then (value.child? step).map f else value.child? other := by
  rw [child?, child?, child?, present?_mapPresent]
  cases h : value.present? with
  | none => simp
  | some inside =>
      have hbare : (mapPart step f inside).isBare = true := by
        rw [isBare_mapPart]
        exact isBare_of_present? h
      rw [Option.bind_some, present?_of_isBare hbare]
      by_cases hne : other = step
      · rw [if_pos hne, hne]
        exact part?_mapPart_self step f inside
      · rw [if_neg hne]
        exact part?_mapPart_of_ne hne f inside

/-! ## §3. Addresses. -/

theorem get?_append (root : Value) (above below : Address) :
    root.get? (above ++ below) = (root.get? above).bind (·.get? below) := by
  induction above generalizing root with
  | nil => rfl
  | cons step rest ih =>
      rw [List.cons_append, get?, get?, Option.bind_assoc]
      congr 1
      funext part
      exact ih part

theorem update_append (f : Value → Value) (root : Value) (above below : Address) :
    root.update f (above ++ below) = root.update (update f below) above := by
  induction above generalizing root with
  | nil => rfl
  | cons step rest ih =>
      rw [List.cons_append, update, update]
      congr 2
      funext part
      exact ih part

/-- Reading at the address gives the changed node. -/
theorem get?_update_self (f : Value → Value) (address : Address) (root : Value) :
    (root.update f address).get? address = (root.get? address).map f := by
  induction address generalizing root with
  | nil => rfl
  | cons step rest ih =>
      rw [update, get?, get?, child?_mapPresent_mapPart, if_pos rfl]
      cases h : root.child? step with
      | none => rfl
      | some part => exact ih part

/-- Reading at an address that is neither above nor below gives what was there before. -/
theorem get?_update_apart {address other : Address} (hbelow : ¬ address <+: other)
    (habove : ¬ other <+: address) (f : Value → Value) (root : Value) :
    (root.update f address).get? other = root.get? other := by
  -- The two addresses share some steps and then part; the induction is on the shared ones.
  induction address generalizing root other with
  | nil => exact absurd List.nil_prefix hbelow
  | cons step rest ih =>
      cases other with
      | nil => exact absurd List.nil_prefix habove
      | cons step' rest' =>
          rw [update, get?, get?, child?_mapPresent_mapPart]
          by_cases hstep : step' = step
          -- Still on the way to the changed node: neither rest may be above the other.
          · subst hstep
            rw [if_pos rfl]
            cases h : root.child? step' with
            | none => rfl
            | some part =>
                refine ih ?_ ?_ part
                · exact fun hp => hbelow (List.cons_prefix_cons.mpr ⟨rfl, hp⟩)
                · exact fun hp => habove (List.cons_prefix_cons.mpr ⟨rfl, hp⟩)
          · rw [if_neg hstep]

/-- What the function does to other values does not matter. -/
theorem update_eq_replace {root node : Value} {address : Address}
    (h : root.get? address = some node) (f : Value → Value) :
    root.update f address = root.update (fun _ => f node) address := by
  induction address generalizing root with
  | nil =>
      injection h with h
      rw [update, update, h]
  | cons step rest ih =>
      rw [get?, Option.bind_eq_some_iff] at h
      obtain ⟨part, hpart, hnode⟩ := h
      obtain ⟨inside, hinside, hstep⟩ := child?_eq_some_iff.mp hpart
      rw [update, update]
      -- The two functions agree on the part that the step leads to, which is all that counts.
      exact mapPresent_congr_of_present? hinside (mapPart_congr hstep (ih hnode))

theorem update_eq_self {root node : Value} {address : Address} {f : Value → Value}
    (h : root.get? address = some node) (hf : f node = node) : root.update f address = root := by
  induction address generalizing root with
  | nil =>
      injection h with h
      rw [update, h, hf]
  | cons step rest ih =>
      rw [get?, Option.bind_eq_some_iff] at h
      obtain ⟨part, hpart, hnode⟩ := h
      obtain ⟨inside, hinside, hstep⟩ := child?_eq_some_iff.mp hpart
      exact mapPresent_eq_self hinside (mapPart_eq_self hstep (ih hnode))

/-- Two changes at one address are one change. -/
theorem update_update_self (f g : Value → Value) (address : Address) (root : Value) :
    (root.update f address).update g address = root.update (fun node => g (f node)) address := by
  induction address generalizing root with
  | nil => rfl
  | cons step rest ih =>
      rw [update, update, update, mapPresent_mapPart_mapPresent]
      congr 1
      funext inside
      rw [mapPart_mapPart_self]
      congr 1
      funext part
      exact ih part

/-- **CHANGES AT TWO ADDRESSES CAN BE MADE IN EITHER ORDER** if neither is above the other. -/
theorem update_comm {address other : Address} (hbelow : ¬ address <+: other)
    (habove : ¬ other <+: address) (f g : Value → Value) (root : Value) :
    (root.update f address).update g other = (root.update g other).update f address := by
  -- Where the addresses part, two parts of one node change; before, one part changes twice.
  induction address generalizing root other with
  | nil => exact absurd List.nil_prefix hbelow
  | cons step rest ih =>
      cases other with
      | nil => exact absurd List.nil_prefix habove
      | cons step' rest' =>
          rw [update, update, update, update, mapPresent_mapPart_mapPresent,
            mapPresent_mapPart_mapPresent]
          congr 1
          funext inside
          by_cases hstep : step' = step
          · subst hstep
            rw [mapPart_mapPart_self, mapPart_mapPart_self]
            congr 1
            funext part
            refine ih ?_ ?_ part
            · exact fun hp => hbelow (List.cons_prefix_cons.mpr ⟨rfl, hp⟩)
            · exact fun hp => habove (List.cons_prefix_cons.mpr ⟨rfl, hp⟩)
          · exact mapPart_comm hstep _ _ inside

/-! ## §4. What surrounds a changed node. -/

/-- The value with every part blanked out: names, keys, their order and their number stay. -/
def blankParts : Value → Value
  | .record name fields => .record name (fields.map fun field => (field.1, .bool false))
  | .list element items => .list element (items.map fun _ => .bool false)
  | .map order kind shape entries =>
      .map order kind shape (entries.map fun entry => (entry.1, .bool false))
  | leaf => leaf

/-- What a node is apart from its parts: its layers, its shape, the names of its fields, the
number of its items, its keys in their order, or its content if it is a leaf. -/
def outline (value : Value) : Value :=
  value.mapPresent blankParts

theorem blankParts_mapPart (step : Step) (f : Value → Value) (value : Value) :
    blankParts (mapPart step f value) = blankParts value := by
  -- Fields and entries are the same kind of list; what is kept of both is their keys.
  have hentries : ∀ {κ : Type} [DecidableEq κ] (key : κ) (entries : List (κ × Value)),
      (Ordered.modify key f entries).map (fun entry => (entry.1, Value.bool false))
        = entries.map fun entry => (entry.1, .bool false) := by
    intro κ _ key entries
    have hkeys := congrArg (List.map fun k => (k, Value.bool false))
      (Ordered.keys_modify key f entries)
    rw [List.map_map, List.map_map] at hkeys
    exact hkeys
  cases value <;> cases step <;> try rfl
  · rw [mapPart, blankParts, hentries, blankParts]
  · rw [mapPart, blankParts, blankParts, List.map_const', List.map_const', List.length_modify]
  · rw [mapPart, blankParts, hentries, blankParts]

/-- Changing a part of a node leaves the node's outline as it is. -/
theorem outline_mapPresent_mapPart (step : Step) (f : Value → Value) (value : Value) :
    (value.mapPresent (mapPart step f)).outline = value.outline := by
  rw [outline, mapPresent_mapPart_mapPresent, outline]
  exact mapPresent_congr fun inside _ => blankParts_mapPart step f inside

/-- A node above the changed one keeps its outline. -/
theorem outline_update_above {above address : Address} (habove : above <+: address)
    (hne : above ≠ address) (f : Value → Value) (root : Value) :
    ((root.update f address).get? above).map outline = (root.get? above).map outline := by
  induction above generalizing root address with
  | nil =>
      cases address with
      | nil => exact absurd rfl hne
      | cons step rest =>
          rw [update, get?, get?, Option.map_some, Option.map_some, outline_mapPresent_mapPart]
  | cons step rest ih =>
      cases address with
      | nil => exact absurd (List.prefix_nil.mp habove) (List.cons_ne_nil _ _)
      | cons step' rest' =>
          obtain ⟨hstep, hrest⟩ := List.cons_prefix_cons.mp habove
          subst hstep
          rw [update, get?, get?, child?_mapPresent_mapPart, if_pos rfl]
          cases root.child? step with
          | none => rfl
          | some part => exact ih hrest (fun h => hne (congrArg _ h)) part

/-- The graph `root'` is the graph `root` with `value` in the place of the node at `address`,
and nothing else is different. -/
structure ReplacedAt (root root' : Value) (address : Address) (value : Value) : Prop where
  /-- It is the update at that address. -/
  eq_update : root' = root.update (fun _ => value) address
  /-- There was a node, and now there is the value. -/
  reachable : (root.get? address).isSome = true ∧ root'.get? address = some value
  /-- Apart from the address every node is what it was. -/
  apart : ∀ other, ¬ address <+: other → ¬ other <+: address → root'.get? other = root.get? other
  /-- Above the address every node has the layers, names, keys and length that it had. -/
  above : ∀ other, other <+: address → other ≠ address →
    (root'.get? other).map outline = (root.get? other).map outline

/-- **AN UPDATE REPLACES ONE NODE AND TOUCHES NOTHING ELSE.** -/
theorem replacedAt_update {root node : Value} {address : Address}
    (h : root.get? address = some node) (f : Value → Value) :
    ReplacedAt root (root.update f address) address (f node) where
  eq_update := update_eq_replace h f
  reachable := by
    refine ⟨by rw [h]; rfl, ?_⟩
    rw [get?_update_self, h]
    rfl
  apart := fun _ hbelow habove => get?_update_apart hbelow habove f root
  above := fun _ habove hne => outline_update_above habove hne f root

end ConfigGraph.Value
