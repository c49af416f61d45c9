/-
  ConfigGraph.Proofs.Batch.Composition
  ────────────────────────────────
  **BATCHES COMPOSE.**

  Where there are no hooks, nothing but the registry goes from one overlay to
  the next.  A batch can be cut between any two overlays, and the rest can be
  run as a batch of its own.  Only the places of the overlays differ, which
  are counted from the first overlay of the batch; `later` is the difference.

  Hooks would be in the way, because a batch that is cut runs them twice.
  That items keep a registry without hooks is not proved for each item: a
  registry has no hooks if taking them away leaves it as it is, and items do
  not see hooks (`registryAfter_withHooks`).

  Main results:
    * `batchItems_append`
    * `Item.change_later` — an item does not look at its place
    * `Registry.Hookless.registryAfter`, `Registry.Hookless.foldl_finish`
    * `applyOverlays_append`
-/
import ConfigGraph.Proofs.Batch.Hooks

namespace ConfigGraph

variable {σ : Type}

/-! ## §1. Later places. -/

/-- The same overlay, a number of places later. -/
def OverlayContext.later (n : Nat) (context : OverlayContext) : OverlayContext :=
  { context with index := context.index + n }

/-- The same fact about an overlay that is a number of places later. -/
def Diagnostic.later (n : Nat) (d : Diagnostic) : Diagnostic :=
  { d with context := d.context.later n }

/-- The same item of an overlay that is a number of places later. -/
def Item.later (n : Nat) : Item → Item
  | .override context o => .override (context.later n) o
  | .script context count index s => .script (context.later n) count index s

/-- The same change, reported for an overlay that is a number of places later. -/
def Change.later (n : Nat) (change : Change σ) : Change σ :=
  { change with diagnostics := change.diagnostics.map (Diagnostic.later n) }

theorem Overlay.items_later (overlay : Overlay) (index n : Nat) :
    overlay.items (index + n) = (overlay.items index).map (Item.later n) := by
  unfold Overlay.items
  rw [List.map_append, List.map_map, List.mapIdx_eq_zipIdx_map, List.mapIdx_eq_zipIdx_map,
    List.map_map]
  rfl

/-- **THE ITEMS OF TWO BATCHES IN A ROW** are those of the first and those of the second, whose
overlays have moved behind the ones of the first. -/
theorem batchItems_append (first second : List Overlay) :
    batchItems (first ++ second)
      = batchItems first ++ (batchItems second).map (Item.later first.length) := by
  unfold batchItems
  rw [List.mapIdx_append, List.flatten_append, List.map_flatten]
  simp only [Overlay.items_later, List.mapIdx_eq_zipIdx_map, List.map_map]
  rfl

section

variable (engine : Engine) (n : Nat)

theorem Outcome.diagnostics_later (outcome : Outcome) (context : OverlayContext)
    (collection key path : String) :
    outcome.diagnostics (context.later n) collection key path
      = (outcome.diagnostics context collection key path).map (Diagnostic.later n) := by
  unfold Outcome.diagnostics
  rw [List.map_append, List.map_map]
  obtain ⟨fault | status, _⟩ := outcome
  · rfl
  · cases status <;> rfl

theorem runDirectives_later (context : OverlayContext) (collection key : String)
    (count index : Nat) (root : Value) (directives : List Directive) :
    engine.runDirectives (context.later n) collection key count index root directives
      = ((engine.runDirectives context collection key count index root directives).1,
          (engine.runDirectives context collection key count index root directives).2.map
            (Diagnostic.later n)) := by
  induction directives generalizing index root with
  | nil => rfl
  | cons directive rest ih =>
      unfold Engine.runDirectives
      simp only [ih, Outcome.diagnostics_later, List.map_append, List.map_cons]
      rfl

theorem applyOverride_later (context : OverlayContext) (registry : Registry σ) (o : Override) :
    Engine.applyOverride (context.later n) registry o
      = (Engine.applyOverride context registry o).later n := by
  have overrides := applyOverride_overrides context registry o
  generalize Engine.applyOverride context registry o = change at overrides ⊢
  cases overrides with
  | unknown missing => exact Overrides.eq (.unknown missing)
  | refused found refuses => exact Overrides.eq (.refused found refuses)
  | stored found converts => exact Overrides.eq (.stored found converts)

theorem applyScript_later (context : OverlayContext) (registry : Registry σ) (s : EditScript) :
    engine.applyScript (context.later n) registry s
      = (engine.applyScript context registry s).later n := by
  have scripts := applyScript_scripts engine context registry s
  generalize engine.applyScript context registry s = change at scripts ⊢
  cases scripts with
  | unknown missing => exact Scripts.eq (.unknown missing)
  | absent found missing => exact Scripts.eq (.absent found missing)
  | removed found present removing => exact Scripts.eq (.removed found present removing)
  | idle found present editing empty => exact Scripts.eq (.idle found present editing empty)
  | edited found present editing nonempty =>
      rw [Scripts.eq (.edited found present editing nonempty), runDirectives_later]
      rfl

/-- **AN ITEM DOES NOT LOOK AT ITS PLACE**: later in a batch it does the same, and only its
report names another place. -/
theorem Item.change_later (registry : Registry σ) (item : Item) :
    (item.later n).change engine registry = (item.change engine registry).later n := by
  cases item with
  | override context o => exact applyOverride_later n context registry o
  | script context count index s =>
      unfold Item.change Item.later
      simp only [applyScript_later]
      rfl

theorem registryAfter_later (registry : Registry σ) (items : List Item) :
    registryAfter engine registry (items.map (Item.later n))
      = registryAfter engine registry items := by
  induction items generalizing registry with
  | nil => rfl
  | cons item rest ih =>
      show registryAfter engine ((item.later n).change engine registry).registry
        (rest.map (Item.later n)) = _
      rw [Item.change_later]
      exact ih _

theorem diagnosticsOf_later (registry : Registry σ) (items : List Item) :
    diagnosticsOf engine registry (items.map (Item.later n))
      = (diagnosticsOf engine registry items).map (Diagnostic.later n) := by
  induction items generalizing registry with
  | nil => rfl
  | cons item rest ih =>
      rw [List.map_cons, diagnosticsOf, diagnosticsOf, Item.change_later, List.map_append]
      exact congrArg ((item.change engine registry).diagnostics.map (Diagnostic.later n) ++ ·)
        (ih _)

end

theorem diagnosticsOf_append (engine : Engine) (registry : Registry σ) (before after : List Item) :
    diagnosticsOf engine registry (before ++ after)
      = diagnosticsOf engine registry before
        ++ diagnosticsOf engine (registryAfter engine registry before) after := by
  induction before generalizing registry with
  | nil => rfl
  | cons item rest ih =>
      rw [List.cons_append, diagnosticsOf, diagnosticsOf, ih, List.append_assoc]
      rfl

/-! ## §2. Registries without hooks. -/

/-- No collection has hooks. -/
def Registry.Hookless (registry : Registry σ) : Prop :=
  ∀ entry ∈ registry.collections, entry.2.hooks = []

namespace Registry

variable {registry : Registry σ}

/-- A registry has no hooks if taking them away leaves it as it is. -/
theorem hookless_iff_withHooks :
    registry.Hookless ↔ registry.withHooks (fun _ => []) = registry := by
  constructor
  · intro hookless
    have hsame : ∀ entry ∈ registry.collections,
        (entry.1, entry.2.withHooks ([] : List (Hook σ))) = id entry := by
      intro entry hentry
      show (entry.1, Collection.mk _ _ _ _) = (entry.1, entry.2)
      rw [← hookless entry hentry]
    exact congrArg Registry.mk ((List.map_congr_left hsame).trans (List.map_id _))
  · intro hsame entry hentry
    rw [← hsame] at hentry
    obtain ⟨_, _, rfl⟩ := List.mem_map.mp hentry
    rfl

namespace Hookless

variable (hookless : registry.Hookless)
include hookless

theorem find? {name : String} {collection : Collection σ}
    (found : registry.find? name = some collection) : collection.hooks = [] :=
  hookless (name, collection) (Ordered.mem_of_find? found)

/-- Items do not add hooks. -/
theorem registryAfter (engine : Engine) (items : List Item) :
    (registryAfter engine registry items).Hookless := by
  have hafter := registryAfter_withHooks (fun _ => ([] : List (Hook σ))) engine registry items
  rw [hookless_iff_withHooks.mp hookless] at hafter
  exact hookless_iff_withHooks.mpr hafter.symm

/-- Without hooks there is nothing to finish. -/
theorem finish (state : σ) (name : String) :
    Registry.finish (registry, state) name = (registry, state) := by
  have hnone (entries : List (String × Value)) :
      Collection.runEntries ([] : List (Hook σ)) entries state = (entries, state) := by
    induction entries with
    | nil => rfl
    | cons entry rest ih =>
        unfold Collection.runEntries Collection.runHooks
        simp only [ih]
  unfold Registry.finish
  cases hfound : registry.find? name with
  | none => rfl
  | some collection =>
      have hfinish : collection.finishBatch state = (collection, state) := by
        unfold Collection.finishBatch
        rw [hookless.find? hfound, hnone, ← hookless.find? hfound]
      simp only [hfinish, Registry.replace_self hfound]

theorem foldl_finish (state : σ) (touched : List String) :
    touched.foldl Registry.finish (registry, state) = (registry, state) := by
  induction touched with
  | nil => rfl
  | cons name rest ih =>
      rw [List.foldl_cons, hookless.finish]
      exact ih

end Hookless

end Registry

/-- Without hooks, a batch ends where its items end. -/
theorem applyOverlays_of_hookless {engine : Engine} (enabled : engine.config.enabled = true)
    {registry : Registry σ} (hookless : registry.Hookless) (overlays : List Overlay) (state : σ) :
    (engine.applyOverlays registry overlays state).1
        = registryAfter engine registry (batchItems overlays) ∧
      (engine.applyOverlays registry overlays state).2.2 = state := by
  obtain ⟨journal, touched, _, _, hbatch⟩ :=
    applyOverlays_of_enabled enabled registry overlays state
  have hfinish := runTouched_eq_foldl (registryAfter engine registry (batchItems overlays)) journal
    state touched
  rw [(hookless.registryAfter engine (batchItems overlays)).foldl_finish] at hfinish
  rw [hbatch]
  exact ⟨congrArg Prod.fst hfinish, congrArg Prod.snd hfinish⟩

/-- A disabled engine leaves everything as it is, and reports nothing. -/
theorem applyOverlays_of_disabled {engine : Engine} (disabled : engine.config.enabled ≠ true)
    (registry : Registry σ) (overlays : List Overlay) (state : σ) :
    engine.applyOverlays registry overlays state = (registry, Journal.empty.hear .disabled, state) := by
  unfold Engine.applyOverlays
  rw [if_neg disabled]

/-! ## §3. The statement. -/

/-- One batch has done what two in a row do. `whole` is what the one leaves, `begun` is what the
first of the two leaves, and `ended` is what the second leaves, which begins where the first
ended. -/
structure Composes (engine : Engine) (first second : List Overlay)
    (whole begun ended : Registry σ × Journal × σ) : Prop where
  /-- The registry is the same. -/
  registry : whole.1 = ended.1
  /-- So is the hooks' state. -/
  state : whole.2.2 = ended.2.2
  /-- The report is the first report and behind it the second, in which every overlay has moved
  behind those of the first batch. -/
  report : whole.2.1.report.diagnostics = begun.2.1.report.diagnostics
    ++ ended.2.1.report.diagnostics.map (Diagnostic.later first.length)
  /-- Nothing that the first batch does keeps an item of the second from being attempted: behind
  the first report, the whole report has what each of these items reports, one after the other, in
  the registry that the first batch leaves. -/
  items : engine.config.enabled = true → whole.2.1.report.diagnostics
    = begun.2.1.report.diagnostics
      ++ diagnosticsOf engine begun.1 ((batchItems second).map (Item.later first.length))
  /-- If the updaters report what they do, this accounts for all of these items. -/
  attempts : engine.config.enabled = true → engine.updaters.Reports → ∃ later,
    whole.2.1.report.diagnostics = begun.2.1.report.diagnostics ++ later ∧
      Recounts engine begun.1 ((batchItems second).map (Item.later first.length)) later

/-- **BATCHES COMPOSE.** -/
theorem applyOverlays_append (engine : Engine) (registry : Registry σ)
    (hookless : registry.Hookless) (first second : List Overlay) (state : σ) :
    let begun := engine.applyOverlays registry first state
    Composes engine first second (engine.applyOverlays registry (first ++ second) state) begun
      (engine.applyOverlays begun.1 second begun.2.2) := by
  intro begun
  by_cases enabled : engine.config.enabled = true
  · obtain ⟨hbegun, hstate⟩ := applyOverlays_of_hookless enabled hookless first state
    obtain ⟨hwhole, hstate'⟩ := applyOverlays_of_hookless enabled hookless (first ++ second) state
    have hookless' : begun.1.Hookless := by
      show (engine.applyOverlays registry first state).1.Hookless
      rw [hbegun]
      exact hookless.registryAfter engine (batchItems first)
    obtain ⟨hended, hstate''⟩ := applyOverlays_of_hookless enabled hookless' second begun.2.2
    -- The items of the second batch find the registry that the first batch leaves.
    have hitems : diagnosticsOf engine registry (batchItems (first ++ second))
        = diagnosticsOf engine registry (batchItems first) ++ diagnosticsOf engine begun.1
            ((batchItems second).map (Item.later first.length)) := by
      rw [batchItems_append, diagnosticsOf_append, ← hbegun]
    have hreport : (engine.applyOverlays registry (first ++ second) state).2.1.report.diagnostics
        = begun.2.1.report.diagnostics ++ diagnosticsOf engine begun.1
            ((batchItems second).map (Item.later first.length)) := by
      rw [applyOverlays_report enabled, applyOverlays_report enabled, hitems]
    refine ⟨?_, ?_, ?_, fun _ => hreport, ?_⟩
    · rw [hwhole, hended, batchItems_append, registryAfter_append, registryAfter_later, ← hbegun]
    · rw [hstate', hstate'']
      exact hstate.symm
    · rw [hreport, diagnosticsOf_later, applyOverlays_report enabled begun.1 second]
    · intro _ reports
      exact ⟨_, hreport, diagnosticsOf_recounts reports begun.1 _⟩
  · have hdisabled (registry : Registry σ) (overlays : List Overlay) (state : σ) :=
      applyOverlays_of_disabled enabled registry overlays state
    show Composes engine first second _ (engine.applyOverlays registry first state)
      (engine.applyOverlays (engine.applyOverlays registry first state).1 second
        (engine.applyOverlays registry first state).2.2)
    simp only [hdisabled]
    exact ⟨rfl, rfl, rfl, fun h => absurd h enabled, fun h => absurd h enabled⟩

/-- A batch that fails twice and deletes a root, and behind it one that puts the root back. -/
theorem applyOverlays_append_numbers :
    let engine := Engine.new Catalog.schema .standard
    let registry : Registry (List String) :=
      ⟨[("Numbers", ⟨"Numbers", .int, [("one", .int 1), ("two", .int 2)], []⟩)]⟩
    let first : List Overlay := [⟨"first", [⟨"Words", "one", .text "1"⟩],
      [⟨"Numbers", "one", none, true, []⟩, ⟨"Numbers", "one", none, false, [⟨"x", "1"⟩]⟩]⟩]
    let second : List Overlay := [⟨"second", [⟨"Numbers", "one", .int 3⟩], []⟩]
    let whole := engine.applyOverlays registry (first ++ second) []
    let begun := engine.applyOverlays registry first []
    registry.Hookless ∧
      whole.2.1.report.diagnostics.map (fun d => (d.context.index, d.kind))
        = [(0, .attempt), (0, .notice), (0, .edit), (0, .notice), (0, .attempt), (1, .edit)] ∧
      Composes engine first second whole begun
        (engine.applyOverlays begun.1 second begun.2.2) := by
  intro engine registry first second whole begun
  have hookless : registry.Hookless := by
    intro entry hentry
    rw [List.mem_singleton.mp hentry]
  exact ⟨hookless, by decide, applyOverlays_append engine registry hookless first second []⟩

end ConfigGraph
