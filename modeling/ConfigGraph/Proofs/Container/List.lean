/-
  ConfigGraph.Proofs.Container.List
  ────────────────────────────────
  **INSERTING INTO A LIST AND REMOVING FROM IT.**

  A list is edited by a directive with one more segment than the path of the
  list.  If the segment is no index, nothing is done.  Otherwise an insertion
  puts a default instance at the index, or behind the last item if the list
  ends before it; a removal takes the item at the index away, or fails if the
  list ends before it.  Around the list, nothing changes.

  Items of any type have no default instance.  Into a list of such items
  nothing can be inserted, and a removal behind the refused insertion takes
  away an item that was there before.

  Main results:
    * `list_edits`
    * `dynamic_list_not_restored`
-/
import ConfigGraph.Proofs.Container.Growth

namespace ConfigGraph

/-- What directives do to a list, at one segment behind the path of the list. -/
structure ListEdits (engine : Engine) (root : Value) (path segment : String) (address : Address)
    (node : Value) (element : Shape) (items : List Value) : Prop where
  /-- A segment that is no index fails for every operation. -/
  unread : Text.index? segment = none → ∀ raw operation value, Wants engine raw operation value →
    engine.apply root ⟨FieldPath.extend path segment, raw⟩
      = (root, ⟨.error (.invalidIndex (FieldPath.parse path).length segment), []⟩)
  /-- An insertion puts a default instance between the items in front of the index and the
  others. -/
  inserted : ∀ i, Text.index? segment = some i → element ≠ .dynamic →
    ∃ fresh root' message, engine.schema.instantiate element = some fresh ∧
      Value.ReplacedAt root root' address (node.mapPresent fun _ => .list element
        (items.take (min i items.length) ++ fresh :: items.drop (min i items.length))) ∧
      ∀ raw value, Wants engine raw .insert value → Text.isBlankText value = true →
        engine.apply root ⟨FieldPath.extend path segment, raw⟩
          = (root', ⟨.ok .edited, [⟨.edit, message⟩]⟩)
  /-- Items of any type have no default instance. -/
  barren : ∀ i, Text.index? segment = some i → element = .dynamic →
    ∀ raw value, Wants engine raw .insert value →
      engine.apply root ⟨FieldPath.extend path segment, raw⟩
        = (root, ⟨.error (.noDefault .dynamic), []⟩)
  /-- A removal takes the item at the index away. -/
  removed : ∀ i, Text.index? segment = some i → i < items.length →
    ∃ root' message, Value.ReplacedAt root root' address
        (node.mapPresent fun _ => .list element (items.take i ++ items.drop (i + 1))) ∧
      ∀ raw value, Wants engine raw .remove value →
        engine.apply root ⟨FieldPath.extend path segment, raw⟩
          = (root', ⟨.ok .edited, [⟨.edit, message⟩]⟩)
  /-- Behind the last item there is nothing to remove. -/
  beyond : ∀ i, Text.index? segment = some i → items.length ≤ i →
    ∀ raw value, Wants engine raw .remove value →
      engine.apply root ⟨FieldPath.extend path segment, raw⟩ = (root,
        ⟨.error (.indexOutOfBounds (FieldPath.parse path).length i items.length), []⟩)
  /-- What has been inserted, with whatever value, can be removed again, unless an updater of a
  host has changed other items. -/
  restored : engine.updaters.Confined → ∀ i, Text.index? segment = some i → element ≠ .dynamic →
    ∀ raw value raw' value', Wants engine raw .insert value → Wants engine raw' .remove value' →
      ∃ message, engine.apply
          (engine.apply root ⟨FieldPath.extend path segment, raw⟩).1
          ⟨FieldPath.extend path (Text.ofNat (min i items.length)), raw'⟩
        = (root, ⟨.ok .edited, [⟨.edit, message⟩]⟩)

section

variable {engine : Engine} {root node : Value} {path segment : String} {address : Address}
  {element : Shape} {items : List Value}

/-- **A LIST TAKES AND GIVES ITEMS AT AN INDEX.** -/
theorem list_edits (valid : FieldPath.validate (FieldPath.extend path segment) = .ok ())
    (plain : FieldPath.Plain segment)
    (located : root.locate? (FieldPath.parse path) = some (address, node))
    (present : node.present? = some (.list element items)) :
    ListEdits engine root path segment address node element items := by
  have leads : Leads root path segment address node (.list element items) :=
    ⟨valid, plain, located, present⟩
  have hget := Value.get?_of_locate? located
  have hgrows : ∀ {i}, Text.index? segment = some i →
      Grows segment (.list element items) (.item element items (min i items.length)) := .item
  -- Whatever is asked for, the last segment decides at the list.
  have happly : ∀ {raw operation value}, Wants engine raw operation value →
      engine.apply root ⟨FieldPath.extend path segment, raw⟩
        = engine.settle operation value (.of root address node
            (finalStepList engine.schema element items (FieldPath.parse path).length segment
              operation value)) := by
    intro raw operation value wants
    rw [leads.apply_eq wants, finalStep_list present leads.depth_ne_zero]
  constructor
  case unread =>
    intro hindex raw operation value wants
    rw [happly wants]
    simp only [finalStepList, hindex]
    rfl
  case inserted =>
    intro i hindex hdynamic
    obtain ⟨fresh, instantiates⟩ : ∃ fresh, engine.schema.instantiate element = some fresh :=
      Schema.exists_instantiate hdynamic
    obtain ⟨message, hinsert⟩ := (hgrows hindex).apply_insert leads instantiates
    refine ⟨fresh, root.replaceAt address (.list element (items.insertIdx (min i items.length)
      fresh)), message, instantiates, ?_, ?_⟩
    · rw [← Items.insertIdx_eq (Nat.min_le_right i items.length)]
      exact Value.replacedAt_replaceAt hget _
    · intro raw value wants blank
      rw [hinsert raw value wants, if_pos blank]
      rfl
  case barren =>
    intro i hindex hdynamic raw value wants
    subst hdynamic
    exact (hgrows hindex).apply_insert_barren leads rfl wants
  case removed =>
    intro i hindex hlt
    rw [← List.eraseIdx_eq_take_drop_succ]
    refine ⟨_, "Removing entry at index " ++ Text.ofNat i ++ " of the list (step " ++
      Text.ofNat (FieldPath.parse path).length ++ ")", Value.replacedAt_replaceAt hget _, ?_⟩
    intro raw value wants
    rw [happly wants]
    simp only [finalStepList, hindex, Items.remove?, List.getElem?_eq_getElem hlt, Option.map_some]
    rfl
  case beyond =>
    intro i hindex hle raw value wants
    rw [happly wants]
    simp only [finalStepList, hindex, Items.remove?, List.getElem?_eq_none hle, Option.map_none]
    rfl
  case restored =>
    intro confined i hindex hdynamic raw value raw' value' wants wants'
    obtain ⟨fresh, instantiates⟩ : ∃ fresh, engine.schema.instantiate element = some fresh :=
      Schema.exists_instantiate hdynamic
    exact Grows.apply_insert_remove confined (hgrows hindex) leads instantiates wants wants'

end

/-- In the names of the rig, one is inserted in front of the second, with a value, and removed
again. -/
theorem list_edits_rig :
    FieldPath.validate (FieldPath.extend "names" "+1") = .ok () ∧ FieldPath.Plain "+1" ∧
      ∃ message, (Engine.new Catalog.schema .standard).apply
          ((Engine.new Catalog.schema .standard).apply Catalog.sampleRig
            ⟨FieldPath.extend "names" "+1", "one and a half!+"⟩).1
          ⟨FieldPath.extend "names" "1", "!-"⟩
        = (Catalog.sampleRig, ⟨.ok .edited, [⟨.edit, message⟩]⟩) := by
  have edits : ListEdits (.new Catalog.schema .standard) Catalog.sampleRig "names" "+1" _ _ _ _ :=
    list_edits (by decide) (by decide) (by rfl) rfl
  refine ⟨by decide, by decide, ?_⟩
  exact edits.restored UpdaterTable.builtIn_standard.confined 1 (by rfl) nofun "one and a half!+"
    "one and a half" "!-" "" ⟨rfl, by rfl⟩ ⟨rfl, by rfl⟩

/-- A list of items of any type refuses the insertion; the removal behind it finds an item that
was there before. -/
theorem dynamic_list_not_restored :
    ¬ ∀ (engine : Engine) (root node : Value) (path segment raw value raw' value' : String)
      (address : Address) (element : Shape) (items : List Value) (i : Nat),
      root.WellFormed engine.schema →
      root.locate? (FieldPath.parse path) = some (address, node) →
      node.present? = some (.list element items) →
      FieldPath.validate (FieldPath.extend path segment) = .ok () → FieldPath.Plain segment →
      Text.index? segment = some i → Wants engine raw .insert value →
      Wants engine raw' .remove value' →
      (engine.apply (engine.apply root ⟨FieldPath.extend path segment, raw⟩).1
        ⟨FieldPath.extend path (Text.ofNat (min i items.length)), raw'⟩).1 = root := by
  intro h
  have hroot := h (.new Catalog.schema .standard) Catalog.sampleRig _ "dyns" "0" "!+" "" "!-" ""
    _ _ _ 0 (by decide) (by rfl) (by rfl) (by decide) (by decide) (by rfl) ⟨rfl, by rfl⟩
    ⟨rfl, by rfl⟩
  -- Of four items, three are left.
  have hlast := congrArg (fun root => (root.lookup? ["dyns", "3"]).isSome) hroot
  have hgone : ((Engine.new Catalog.schema .standard).apply ((Engine.new Catalog.schema
      .standard).apply Catalog.sampleRig ⟨FieldPath.extend "dyns" "0", "!+"⟩).1
        ⟨FieldPath.extend "dyns" "0", "!-"⟩).1.lookup? ["dyns", "3"] = none := by rfl
  exact Bool.noConfusion (hlast.symm.trans (congrArg Option.isSome hgone))

end ConfigGraph
