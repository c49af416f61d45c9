/-
  ConfigGraph.Proofs.Batch.Sequence
  ────────────────────────────────
  **A BATCH IS ONE SEQUENCE OF ITEMS.**

  Overlays are nested lists of overrides and scripts.  To the registry and to
  the report the nesting does not matter: a batch does one item after the
  other, and an item carries what its diagnostics need to know about the
  overlay it came from.  `batchItems` lists the items in their order, and
  running the batch is folding `Item.run` over that list.

  So a property of batches needs one lemma about one item, and an induction
  over a list of items.

  Main results:
    * `runOverlays_eq_foldl`
    * `foldl_run_registry`, `foldl_run_journal` — what the fold leaves behind
-/
import ConfigGraph.Batch.Apply

namespace ConfigGraph

variable {σ : Type}

/-! ## §1. Items. -/

/-- One thing that a batch does: an override, or one of the scripts of an overlay. -/
inductive Item where
  | override (context : OverlayContext) (o : Override)
  | script (context : OverlayContext) (count index : Nat) (s : EditScript)

namespace Item

/-- The overlay that the item came from. -/
def context : Item → OverlayContext
  | override context _ => context
  | script context .. => context

/-- The name of the collection that the item is about. -/
def collection : Item → String
  | override _ o => o.collection
  | script _ _ _ s => s.collection

/-- The key of the root that the item is about. -/
def key : Item → String
  | override _ o => o.key
  | script _ _ _ s => s.key

/-- What an item does to a registry. The notice in front of a script is part of it. -/
def change (engine : Engine) (registry : Registry σ) : Item → Change σ
  | override context o => Engine.applyOverride context registry o
  | script context count index s =>
      let change := engine.applyScript context registry s
      { change with
        diagnostics := Engine.scriptNotice context count index s :: change.diagnostics }

/-- The batch after an item. -/
def run (engine : Engine) (batch : BatchState σ) (item : Item) : BatchState σ :=
  batch.record item.collection (item.change engine batch.registry)

end Item

/-- The items of an overlay at a place of the batch: overrides go first. -/
def Overlay.items (overlay : Overlay) (index : Nat) : List Item :=
  overlay.overrides.map (.override ⟨overlay.id, index⟩) ++
    overlay.edits.mapIdx fun i script => .script ⟨overlay.id, index⟩ overlay.edits.length i script

/-- The items of a batch, in the order in which they run. -/
def batchItems (overlays : List Overlay) : List Item :=
  (overlays.mapIdx fun index overlay => overlay.items index).flatten

/-! ## §2. Running them. -/

theorem runOverrides_eq_foldl (engine : Engine) (context : OverlayContext) (batch : BatchState σ)
    (overrides : List Override) :
    Engine.runOverrides context batch overrides
      = (overrides.map (.override context)).foldl (Item.run engine) batch := by
  induction overrides generalizing batch with
  | nil => rfl
  | cons override rest ih => exact ih _

theorem runScripts_eq_foldl (engine : Engine) (context : OverlayContext) (count index : Nat)
    (batch : BatchState σ) (scripts : List EditScript) :
    engine.runScripts context count index batch scripts
      = (scripts.mapIdx fun i script => .script context count (index + i) script).foldl
          (Item.run engine) batch := by
  induction scripts generalizing index batch with
  | nil => rfl
  | cons script rest ih =>
      rw [Engine.runScripts, List.mapIdx_cons, List.foldl_cons]
      simp only
      rw [ih]
      -- The notice is pushed in front of the script's diagnostics, or with them.
      have hindex : (fun i script => Item.script context count (index + (i + 1)) script)
          = fun i script => Item.script context count (index + 1 + i) script := by
        funext i script
        rw [Nat.add_assoc, Nat.add_comm 1 i]
      rw [hindex]
      rfl

theorem runOverlay_eq_foldl (engine : Engine) (index : Nat) (batch : BatchState σ)
    (overlay : Overlay) :
    engine.runOverlay index batch overlay
      = (overlay.items index).foldl (Item.run engine) batch := by
  unfold Engine.runOverlay Overlay.items
  rw [List.foldl_append, runScripts_eq_foldl, runOverrides_eq_foldl engine]
  simp only [Nat.zero_add]

/-- **RUNNING A BATCH IS RUNNING ITS ITEMS.** -/
theorem runOverlays_eq_foldl (engine : Engine) (batch : BatchState σ) (overlays : List Overlay) :
    engine.runOverlays 0 batch overlays
      = (batchItems overlays).foldl (Item.run engine) batch := by
  -- The places of the overlays are counted on from that of the first one.
  have hfrom : ∀ (index : Nat) (batch : BatchState σ), engine.runOverlays index batch overlays
      = (overlays.mapIdx fun i overlay => overlay.items (index + i)).flatten.foldl
          (Item.run engine) batch := by
    induction overlays with
    | nil =>
        intro index batch
        rfl
    | cons overlay rest ih =>
        intro index batch
        have hindex : (fun i (overlay : Overlay) => overlay.items (index + (i + 1)))
            = fun i overlay => overlay.items (index + 1 + i) := by
          funext i overlay
          rw [Nat.add_assoc, Nat.add_comm 1 i]
        rw [Engine.runOverlays, ih, runOverlay_eq_foldl, List.mapIdx_cons, List.flatten_cons,
          List.foldl_append, hindex]
        rfl
  rw [hfrom 0 batch]
  simp only [Nat.zero_add, batchItems]

/-! ## §3. What the fold leaves behind. -/

/-- The registry after items. -/
def registryAfter (engine : Engine) (registry : Registry σ) (items : List Item) : Registry σ :=
  items.foldl (fun registry item => (item.change engine registry).registry) registry

/-- What items report, each about the registry that the ones before it left. -/
def diagnosticsOf (engine : Engine) (registry : Registry σ) : List Item → List Diagnostic
  | [] => []
  | item :: rest =>
      let change := item.change engine registry
      change.diagnostics ++ diagnosticsOf engine change.registry rest

theorem foldl_run_registry (engine : Engine) (batch : BatchState σ) (items : List Item) :
    (items.foldl (Item.run engine) batch).registry
      = registryAfter engine batch.registry items := by
  induction items generalizing batch with
  | nil => rfl
  | cons item rest ih => exact ih _

theorem pushAll_append (journal : Journal) (ds ds' : List Diagnostic) :
    (journal.pushAll ds).pushAll ds' = journal.pushAll (ds ++ ds') :=
  List.foldl_append.symm

theorem foldl_run_journal (engine : Engine) (batch : BatchState σ) (items : List Item) :
    (items.foldl (Item.run engine) batch).journal
      = batch.journal.pushAll (diagnosticsOf engine batch.registry items) := by
  induction items generalizing batch with
  | nil => rfl
  | cons item rest ih =>
      rw [List.foldl_cons, ih, diagnosticsOf, ← pushAll_append]
      rfl

/-! ## §4. Where items come from. -/

theorem mem_batchItems {overlays : List Overlay} {item : Item} (h : item ∈ batchItems overlays) :
    ∃ (index : Nat) (overlay : Overlay),
      overlays[index]? = some overlay ∧ item ∈ overlay.items index := by
  unfold batchItems at h
  obtain ⟨items, hitems, hitem⟩ := List.mem_flatten.mp h
  obtain ⟨index, hlt, rfl⟩ := List.mem_mapIdx.mp hitems
  exact ⟨index, overlays[index], List.getElem?_eq_getElem hlt, hitem⟩

/-- An override of the batch is one of its overlay's overrides. -/
theorem Overlay.mem_overrides_of_mem_items {overlay : Overlay} {index : Nat}
    {context : OverlayContext} {override : Override}
    (h : Item.override context override ∈ overlay.items index) :
    override ∈ overlay.overrides := by
  unfold Overlay.items at h
  rcases List.mem_append.mp h with hoverride | hscript
  · obtain ⟨override', hmem, heq⟩ := List.mem_map.mp hoverride
    injection heq with _ heq
    exact heq ▸ hmem
  · obtain ⟨_, _, heq⟩ := List.mem_mapIdx.mp hscript
    cases heq

end ConfigGraph
