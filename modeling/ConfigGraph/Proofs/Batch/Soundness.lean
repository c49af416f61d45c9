/-
  ConfigGraph.Proofs.Batch.Soundness
  ────────────────────────────────
  **NO BATCH BREAKS A REGISTRY.**

  A registry is well formed when every root in it is a well-formed graph of
  its collection's shape.  Overrides bring in graphs from outside and hooks
  are code from outside, so two things are asked of the outside: the roots of
  overrides are well formed for whatever type they have, and a hook gives a
  well-formed root of the collection's shape back for one that it is given.

  The type of an override's root need not be that of the collection.  Either
  the conversion refuses the root, or it makes a graph of the right shape out
  of it; both are `Value.WellFormed.convert`.

  Every change that a batch makes is one collection that is put back, with
  the name, the shape and the hooks that it had, so there is one lemma about
  that, `Registry.WellFormed.replace`, and each kind of change is a case of it.

  Main results:
    * `Registry.WellFormed.replace`
    * `Item.change_preserves`, `runTouched_preserves`
    * `wellFormed_invariant`
-/
import ConfigGraph.Catalog.Hooks
import ConfigGraph.Proofs.Batch.Change
import ConfigGraph.Proofs.Batch.Registry
import ConfigGraph.Proofs.Batch.Sequence
import ConfigGraph.Proofs.Preservation

namespace ConfigGraph

variable {σ : Type}

/-! ## §1. Well-formed registries. -/

/-- A hook makes well-formed roots of the shape out of well-formed roots of the shape. -/
def Hook.Preserves (schema : Schema) (shape : Shape) (hook : Hook σ) : Prop :=
  ∀ (key : String) (root : Value) (state : σ), root.WellFormed schema → root.shape = shape →
    (hook key root state).1.WellFormed schema ∧ (hook key root state).1.shape = shape

/-- The collection holds well-formed roots of its shape, and its hooks keep them so. -/
structure Collection.WellFormed (schema : Schema) (collection : Collection σ) : Prop where
  /-- The keys ascend. -/
  ascending : collection.Ascending
  /-- The roots are well-formed graphs of the shape. -/
  roots : ∀ entry ∈ collection.entries,
    entry.2.WellFormed schema ∧ entry.2.shape = collection.shape
  /-- The hooks keep them so. -/
  hooks : ∀ hook ∈ collection.hooks, Hook.Preserves schema collection.shape hook

/-- The names are distinct and the collections well formed. -/
structure Registry.WellFormed (schema : Schema) (registry : Registry σ) : Prop where
  /-- No name is registered twice. -/
  distinct : registry.names.Nodup
  /-- The collections are well formed. -/
  collections : ∀ entry ∈ registry.collections, entry.2.WellFormed schema

/-- The names of the collections with the shapes of their roots, in order of registration. -/
def Registry.types (registry : Registry σ) : List (String × Shape) :=
  registry.collections.map fun entry => (entry.1, entry.2.shape)

variable {schema : Schema} {registry : Registry σ}

theorem Registry.WellFormed.find? (wf : registry.WellFormed schema) {name : String}
    {collection : Collection σ} (h : registry.find? name = some collection) :
    collection.WellFormed schema :=
  wf.collections (name, collection) (Ordered.mem_of_find? h)

theorem Collection.WellFormed.find? {collection : Collection σ}
    (wf : collection.WellFormed schema) {key : String} {root : Value}
    (h : collection.find? key = some root) :
    root.WellFormed schema ∧ root.shape = collection.shape :=
  wf.roots (key, root) (Ordered.mem_of_find? h)

/-- **A WELL-FORMED COLLECTION OF THE SAME SHAPE MAY BE PUT BACK.** -/
theorem Registry.WellFormed.replace (wf : registry.WellFormed schema) {name : String}
    {collection collection' : Collection σ} (found : registry.find? name = some collection)
    (wf' : collection'.WellFormed schema) (hshape : collection'.shape = collection.shape) :
    (registry.replace name collection').WellFormed schema ∧
      (registry.replace name collection').types = registry.types := by
  refine ⟨⟨?_, ?_⟩, ?_⟩
  · rw [Registry.names_replace]
    exact wf.distinct
  · intro entry hentry
    rcases Ordered.mem_modify hentry with hold | ⟨_, _, hnew⟩
    · exact wf.collections entry hold
    · rw [hnew]
      exact wf'
  · exact Ordered.map_modify found (fun entry => (entry.1, entry.2.shape)) (by rw [hshape])

/-! ## §2. Changing one root. -/

namespace Collection.WellFormed

variable {collection : Collection σ} (wf : collection.WellFormed schema)
include wf

/-- A well-formed root of the collection's shape may be put at any key. -/
theorem put {root : Value} (hroot : root.WellFormed schema) (hshape : root.shape = collection.shape)
    (key : String) : (collection.put key root).WellFormed schema where
  ascending := wf.ascending.put key root
  roots := by
    intro entry hentry
    rcases Ordered.mem_putSorted hentry with hnew | hold
    · rw [hnew]
      exact ⟨hroot, hshape⟩
    · exact wf.roots entry hold
  hooks := wf.hooks

/-- A root may be exchanged for a well-formed one of the collection's shape. -/
theorem modify {root : Value} (hroot : root.WellFormed schema)
    (hshape : root.shape = collection.shape) (key : String) :
    (collection.modify key fun _ => root).WellFormed schema where
  ascending := wf.ascending.modify key _
  roots := by
    intro entry hentry
    rcases Ordered.mem_modify hentry with hold | ⟨_, _, hnew⟩
    · exact wf.roots entry hold
    · rw [hnew]
      exact ⟨hroot, hshape⟩
  hooks := wf.hooks

theorem erase (key : String) : (collection.erase key).WellFormed schema where
  ascending := wf.ascending.erase key
  roots := fun entry hentry =>
    wf.roots entry ((Ordered.erase_sublist key collection.entries).mem hentry)
  hooks := wf.hooks

end Collection.WellFormed

/-! ## §3. Hooks. -/

theorem runHooks_preserves {shape : Shape} {hooks : List (Hook σ)}
    (preserve : ∀ hook ∈ hooks, Hook.Preserves schema shape hook) (key : String) {root : Value}
    (hroot : root.WellFormed schema) (hshape : root.shape = shape) (state : σ) :
    (Collection.runHooks key hooks root state).1.WellFormed schema ∧
      (Collection.runHooks key hooks root state).1.shape = shape := by
  induction hooks generalizing root state with
  | nil => exact ⟨hroot, hshape⟩
  | cons hook rest ih =>
      have hfirst := preserve hook List.mem_cons_self key root state hroot hshape
      have hrest : ∀ hook ∈ rest, Hook.Preserves schema shape hook :=
        fun hook hmem => preserve hook (List.mem_cons_of_mem _ hmem)
      exact ih hrest hfirst.1 hfirst.2 _

/-- Hooks run on the roots and leave the keys alone. -/
theorem runEntries_preserves {shape : Shape} {hooks : List (Hook σ)}
    (preserve : ∀ hook ∈ hooks, Hook.Preserves schema shape hook) {entries : List (String × Value)}
    (roots : ∀ entry ∈ entries, entry.2.WellFormed schema ∧ entry.2.shape = shape) (state : σ) :
    (Collection.runEntries hooks entries state).1.map (·.1) = entries.map (·.1) ∧
      ∀ entry ∈ (Collection.runEntries hooks entries state).1,
        entry.2.WellFormed schema ∧ entry.2.shape = shape := by
  induction entries generalizing state with
  | nil => exact ⟨rfl, nofun⟩
  | cons entry rest ih =>
      obtain ⟨key, root⟩ := entry
      obtain ⟨hroot, hshape⟩ := roots (key, root) List.mem_cons_self
      have hdone := runHooks_preserves preserve key hroot hshape state
      -- The hooks of the next root go on from the state that those of this one left.
      obtain ⟨hkeys, hentries⟩ := ih (fun entry hmem => roots entry (List.mem_cons_of_mem _ hmem))
        (Collection.runHooks key hooks root state).2
      refine ⟨congrArg (key :: ·) hkeys, ?_⟩
      intro entry hentry
      rcases List.mem_cons.mp hentry with hfirst | hrest
      · rw [hfirst]
        exact hdone
      · exact hentries entry hrest

theorem Collection.WellFormed.finishBatch {collection : Collection σ}
    (wf : collection.WellFormed schema) (state : σ) :
    (collection.finishBatch state).1.WellFormed schema := by
  obtain ⟨hkeys, hroots⟩ := runEntries_preserves wf.hooks wf.roots state
  refine ⟨?_, hroots, wf.hooks⟩
  show ((Collection.runEntries collection.hooks collection.entries state).1.map (·.1)).Pairwise _
  rw [hkeys]
  exact wf.ascending

/-- Hooks of touched collections keep the registry well formed. -/
theorem runTouched_preserves (wf : registry.WellFormed schema) (journal : Journal) (state : σ)
    (touched : List String) :
    (Engine.runTouched registry journal state touched).1.WellFormed schema ∧
      (Engine.runTouched registry journal state touched).1.types = registry.types := by
  induction touched generalizing registry journal state with
  | nil => exact ⟨wf, rfl⟩
  | cons name rest ih =>
      unfold Engine.runTouched
      cases hfound : registry.find? name with
      | none => exact ih wf journal state
      | some collection =>
          -- The collection is put back under its name with the shape that it had.
          have hfinished := (wf.find? hfound).finishBatch state
          obtain ⟨hreplaced, htypes⟩ := wf.replace hfound hfinished rfl
          obtain ⟨hrest, hsame⟩ := ih hreplaced (journal.hear (.hooks name collection.size))
            (collection.finishBatch state).2
          exact ⟨hrest, hsame.trans htypes⟩

namespace Catalog

theorem successor_preserves {value : Value} (wf : value.WellFormed schema) :
    (successor value).WellFormed schema ∧ (successor value).shape = value.shape := by
  unfold successor
  split
  · exact ⟨.int _, rfl⟩
  · exact ⟨wf, rfl⟩

/-- Counting one field on keeps a record well formed, also one that does not have the field. -/
theorem successorField_preserves {name : String} {fields : RecordFields}
    (wf : (Value.record name fields).WellFormed schema) (field : String) :
    (Value.record name (Ordered.modify field successor fields)).WellFormed schema := by
  cases hfind : Ordered.find? field fields with
  | none =>
      rw [Ordered.modify_of_find?_eq_none hfind]
      exact wf
  | some part =>
      have hpart : (Value.record name fields).part? (.field field) = some part := hfind
      obtain ⟨hcounted, hshape⟩ := successor_preserves (wf.part hpart).1
      exact (wf.mapPart hpart hshape hcounted).1

/-- **THE COUNTING HOOKS KEEP WELL-FORMED ROOTS OF EVERY SHAPE.** -/
theorem countingHook_preserves (schema : Schema) (shape : Shape) (collection : String)
    (number : Nat) : Hook.Preserves schema shape (countingHook collection number) := by
  intro key root lines wf hshape
  show (count root).WellFormed schema ∧ (count root).shape = shape
  rw [← hshape]
  unfold count
  split
  · exact ⟨.int _, rfl⟩
  · exact ⟨successorField_preserves wf "ammo", rfl⟩
  · exact ⟨successorField_preserves wf "count", rfl⟩
  · exact ⟨wf, rfl⟩

end Catalog

/-! ## §4. Items. -/

/-- The root of an override is well formed; scripts bring no roots. -/
def Item.WellFormed (schema : Schema) : Item → Prop
  | override _ o => o.root.WellFormed schema
  | script .. => True

/-- **NO ITEM BREAKS A REGISTRY.** -/
theorem Item.change_preserves (engine : Engine) (typed : engine.updaters.Typed engine.schema)
    (sound : engine.schema.WellFormed) (wf : registry.WellFormed engine.schema) {item : Item}
    (hitem : item.WellFormed engine.schema) :
    (item.change engine registry).registry.WellFormed engine.schema ∧
      (item.change engine registry).registry.types = registry.types := by
  cases item with
  | override context o =>
      have overrides := applyOverride_overrides context registry o
      show (Engine.applyOverride context registry o).registry.WellFormed _ ∧
        (Engine.applyOverride context registry o).registry.types = _
      generalize Engine.applyOverride context registry o = change at overrides
      cases overrides with
      | unknown _ | refused _ _ => exact ⟨wf, rfl⟩
      | stored found converts =>
          -- The root may be of another type; what is stored is of the collection's.
          obtain ⟨hroot, hshape⟩ := Value.WellFormed.convert hitem converts
          exact wf.replace found ((wf.find? found).put hroot hshape o.key) rfl
  | script context count index s =>
      have scripts := applyScript_scripts engine context registry s
      show (engine.applyScript context registry s).registry.WellFormed _ ∧
        (engine.applyScript context registry s).registry.types = _
      generalize engine.applyScript context registry s = change at scripts
      cases scripts with
      | unknown _ | absent _ _ | idle _ _ _ _ => exact ⟨wf, rfl⟩
      | removed found _ _ => exact wf.replace found ((wf.find? found).erase s.key) rfl
      | edited found present _ _ =>
          -- The directives run on one root, and what they may do to it is known.
          obtain ⟨hroot, hshape⟩ := (wf.find? found).find? present
          obtain ⟨hroot', hsame⟩ := applyAll_preserves engine typed sound hroot s.edits
          exact wf.replace found
            ((wf.find? found).modify hroot' (hsame.trans hshape) s.key) rfl

theorem registryAfter_preserves (engine : Engine) (typed : engine.updaters.Typed engine.schema)
    (sound : engine.schema.WellFormed) (wf : registry.WellFormed engine.schema) {items : List Item}
    (hitems : ∀ item ∈ items, item.WellFormed engine.schema) :
    (registryAfter engine registry items).WellFormed engine.schema ∧
      (registryAfter engine registry items).types = registry.types := by
  induction items generalizing registry with
  | nil => exact ⟨wf, rfl⟩
  | cons item rest ih =>
      obtain ⟨hchange, htypes⟩ :=
        Item.change_preserves engine typed sound wf (hitems item List.mem_cons_self)
      obtain ⟨hrest, hsame⟩ := ih hchange fun item hmem => hitems item (List.mem_cons_of_mem _ hmem)
      exact ⟨hrest, hsame.trans htypes⟩

/-- The items of overlays are as well formed as their overrides. -/
theorem Item.wellFormed_of_overlays {overlays : List Overlay}
    (roots : ∀ overlay ∈ overlays, ∀ o ∈ overlay.overrides, o.root.WellFormed schema) :
    ∀ item ∈ batchItems overlays, item.WellFormed schema := by
  intro item hitem
  obtain ⟨index, overlay, hoverlay, hmem⟩ := mem_batchItems hitem
  cases item with
  | override context o =>
      exact roots overlay (List.mem_of_getElem? hoverlay) o
        (Overlay.mem_overrides_of_mem_items hmem)
  | script context count index s => trivial

/-! ## §5. Runs. -/

theorem applyOverlays_preserves (engine : Engine) (typed : engine.updaters.Typed engine.schema)
    (sound : engine.schema.WellFormed) (wf : registry.WellFormed engine.schema)
    {overlays : List Overlay}
    (roots : ∀ overlay ∈ overlays, ∀ o ∈ overlay.overrides, o.root.WellFormed engine.schema)
    (state : σ) :
    (engine.applyOverlays registry overlays state).1.WellFormed engine.schema ∧
      (engine.applyOverlays registry overlays state).1.types = registry.types := by
  unfold Engine.applyOverlays
  split
  -- Overlays, scripts and overrides are one row of items, and the hooks come after all of them.
  · rw [runOverlays_eq_foldl]
    simp only []
    rw [foldl_run_registry]
    obtain ⟨hitems, htypes⟩ :=
      registryAfter_preserves engine typed sound wf (Item.wellFormed_of_overlays roots)
    obtain ⟨hhooks, hsame⟩ := runTouched_preserves hitems _ state _
    exact ⟨hhooks, hsame.trans htypes⟩
  · exact ⟨wf, rfl⟩

/-- **WELL-FORMEDNESS IS AN INVARIANT OF EVERY RUN**: of directives on a graph, whatever their
outcomes, and of overlays on a registry, whatever the types of the overrides. -/
theorem wellFormed_invariant (engine : Engine) (typed : engine.updaters.Typed engine.schema)
    (sound : engine.schema.WellFormed) :
    (∀ (root : Value) (directives : List Directive), root.WellFormed engine.schema →
      (engine.applyAll root directives).1.WellFormed engine.schema ∧
        (engine.applyAll root directives).1.shape = root.shape) ∧
    ∀ (σ : Type) (registry : Registry σ) (overlays : List Overlay) (state : σ),
      registry.WellFormed engine.schema →
      (∀ overlay ∈ overlays, ∀ o ∈ overlay.overrides, o.root.WellFormed engine.schema) →
      (engine.applyOverlays registry overlays state).1.WellFormed engine.schema ∧
        (engine.applyOverlays registry overlays state).1.types = registry.types := by
  refine ⟨?_, ?_⟩
  · intro root directives wf
    exact applyAll_preserves engine typed sound wf directives
  · intro σ registry overlays state wf roots
    exact applyOverlays_preserves engine typed sound wf roots state

/-- A switch that is toggled holds a truth value. -/
theorem Catalog.toggling_typed (schema : Schema) : Catalog.toggling.Typed schema := by
  intro context container step slot' binds wf h
  unfold Catalog.toggling at h
  simp only [] at h
  split at h
  · split at h
    · split at h
      · rename_i hwrite
        injection h with h
        exact binds.write_preserves wf (.bool _) (h ▸ hwrite)
      · cases h
    · cases h
  · cases h

/-- A registry of one preset, with a hook, against an override of another type and a script with
a directive that the host's own updater takes. -/
theorem wellFormed_invariant_preset :
    let engine := Catalog.switching
    let registry : Registry (List String) := ⟨[("Preset", ⟨"Preset", .record "Preset",
      [("mech_a", Catalog.samplePreset)], [Catalog.countingHook "Preset" 0]⟩)]⟩
    let directives : List Directive := [⟨"slots.b", "!+"⟩, ⟨"count", "many"⟩, ⟨"enabled", "toggle"⟩]
    let overlay : Overlay := ⟨"better-mechs", [⟨"Preset", "mech_a", .text "no preset"⟩],
      [⟨"Preset", "mech_a", none, false, directives⟩]⟩
    engine.updaters.Typed Catalog.schema ∧
    ((engine.applyAll Catalog.samplePreset directives).1.WellFormed Catalog.schema ∧
      (engine.applyAll Catalog.samplePreset directives).1.shape = .record "Preset") ∧
    (engine.applyOverlays registry [overlay] []).1.WellFormed Catalog.schema ∧
      (engine.applyOverlays registry [overlay] []).1.types = [("Preset", .record "Preset")] := by
  intro engine registry directives overlay
  have typed : engine.updaters.Typed engine.schema :=
    UpdaterTable.Each.register UpdaterTable.builtIn_standard.typed .bool (Catalog.toggling_typed _)
  have sound : engine.schema.WellFormed := by decide
  have preset : Catalog.samplePreset.WellFormed Catalog.schema := by decide
  have presets : registry.WellFormed Catalog.schema := by
    refine ⟨by decide, ?_⟩
    intro entry hentry
    rw [List.mem_singleton.mp hentry]
    -- The hook is a function, so that it keeps roots well formed is proved and not evaluated.
    refine ⟨by decide, ?_, ?_⟩
    · intro entry hentry
      rw [List.mem_singleton.mp hentry]
      exact ⟨preset, rfl⟩
    · intro hook hhook
      rw [List.mem_singleton.mp hhook]
      exact Catalog.countingHook_preserves _ _ _ _
  have roots : ∀ o ∈ [overlay], ∀ r ∈ o.overrides, r.root.WellFormed engine.schema := by decide
  exact ⟨typed, (wellFormed_invariant engine typed sound).1 _ directives preset,
    (wellFormed_invariant engine typed sound).2 _ registry [overlay] [] presets roots⟩

end ConfigGraph
