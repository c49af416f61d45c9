/-
  ConfigGraph.Proofs.Batch.Noninterference
  ────────────────────────────────
  **A SCRIPT READS AND WRITES ONE ROOT.**

  Two registries may have different collections, roots, hooks and hook
  states: if the same is seen in both at the address of a script, the script
  does the same in both, says the same about it, and leaves the same to be
  seen.  So what a script does at its address cannot depend on anything else
  in the registry.  Nor does it change anything else.  The same holds of
  overrides, for which it is also said what they leave at their address.

  `Isolated` states both halves of any function on registries, so that
  overrides and scripts have one statement; the function takes the type of
  the hooks' state as an argument, because the two registries may differ in
  that too.

  Main results:
    * `Scripts.isolated`, `Overrides.isolated`
    * `registry_noninterference`
-/
import ConfigGraph.Catalog.Hooks
import ConfigGraph.Catalog.Records
import ConfigGraph.Proofs.Batch.Change
import ConfigGraph.Proofs.Batch.Registry

namespace ConfigGraph

/-! ## §1. The statement. -/

/-- The change depends on the root at one key of one collection, and changes at most that. -/
structure Isolated (run : (σ : Type) → Registry σ → Change σ) (name key : String) : Prop where
  /-- Where the same is seen, the same happens, and the same is seen afterwards. -/
  reads : ∀ (σ τ : Type) (registry : Registry σ) (registry' : Registry τ),
    registry.Ascending → registry'.Ascending →
    registry.seen? name key = registry'.seen? name key →
    (run σ registry).touched = (run τ registry').touched ∧
      (run σ registry).diagnostics = (run τ registry').diagnostics ∧
      (run σ registry).registry.seen? name key = (run τ registry').registry.seen? name key
  /-- Every other root, every other collection and the order of names stay as they are. -/
  writes : ∀ (σ : Type) (registry : Registry σ),
    registry.SameApart (run σ registry).registry name key
  /-- Keys that ascend go on ascending. -/
  keeps : ∀ (σ : Type) (registry : Registry σ), registry.Ascending →
    (run σ registry).registry.Ascending
  /-- A registry that does not count as touched is the old one. -/
  untouched : ∀ (σ : Type) (registry : Registry σ), (run σ registry).touched = false →
    (run σ registry).registry = registry

variable {σ : Type}

/-- What a script that deletes its root does and does not do. -/
structure Deletes (engine : Engine) (context : OverlayContext) (registry : Registry σ)
    (s : EditScript) : Prop where
  /-- Its directives are not run: it makes no difference which they are, and to which engine. -/
  silent : ∀ (engine' : Engine) (edits : List Directive),
    engine'.applyScript context registry { s with edits := edits }
      = engine.applyScript context registry s
  /-- If it touches the registry, the collection is there and the root is gone. -/
  gone : registry.Ascending → (engine.applyScript context registry s).touched = true → ∃ shape,
    (engine.applyScript context registry s).registry.seen? s.collection s.key = some (shape, none)

/-- What an override leaves at its address, and what it reports. -/
structure Stores (context : OverlayContext) (registry : Registry σ) (o : Override) : Prop where
  /-- If it touches the registry, the converted root is there, and the report says whether there
  was one before. -/
  stored : (Engine.applyOverride context registry o).touched = true →
    ∃ target root message, registry.find? o.collection = some target ∧
      o.root.convert target.shape = .ok root ∧
      (Engine.applyOverride context registry o).registry.seen? o.collection o.key
        = some (target.shape, some root) ∧
      (Engine.applyOverride context registry o).diagnostics
        = [o.diagnostic context .edit message] ∧
      (message = "replaces config " ++ o.key ++ " of type " ++ o.collection ↔
        (target.find? o.key).isSome = true) ∧
      (message = "injects additional config " ++ o.key ++ " of type " ++ o.collection ↔
        target.find? o.key = none)
  /-- Otherwise there is no such collection, or it does not take the root. -/
  refused : (Engine.applyOverride context registry o).touched = false →
    registry.find? o.collection = none ∨ ∃ target cause,
      registry.find? o.collection = some target ∧ o.root.convert target.shape = .error cause

/-! ## §2. Scripts. -/

section

variable {engine : Engine} {context : OverlayContext} {registry : Registry σ} {s : EditScript}
  {change : Change σ}

/-- A script does what it does in every registry in which the same is seen at its address. -/
theorem Scripts.reads {τ : Type} (h : Scripts engine context registry s change)
    {registry' : Registry τ} (ascending : registry.Ascending) (ascending' : registry'.Ascending)
    (same : registry.seen? s.collection s.key = registry'.seen? s.collection s.key) :
    ∃ change', Scripts engine context registry' s change' ∧
      change.touched = change'.touched ∧ change.diagnostics = change'.diagnostics ∧
      change.registry.seen? s.collection s.key = change'.registry.seen? s.collection s.key := by
  cases h with
  | unknown missing =>
      exact ⟨_, .unknown (Registry.find?_eq_none_of_seen?_eq same missing), rfl, rfl, same⟩
  | absent found missing =>
      obtain ⟨target', found', _, hroot⟩ := Registry.find?_of_seen?_eq same found
      exact ⟨_, .absent found' (hroot.trans missing), rfl, rfl, same⟩
  | removed found present removing =>
      obtain ⟨target', found', hshape, hroot⟩ := Registry.find?_of_seen?_eq same found
      refine ⟨_, .removed found' (hroot.trans present) removing, rfl, rfl, ?_⟩
      -- The root is gone from both, because no key occurs twice.
      rw [Registry.seen?_replace found, Registry.seen?_replace found',
        (ascending.find? found).find?_erase_self, (ascending'.find? found').find?_erase_self]
      show some (_, none) = some (target'.shape, none)
      rw [hshape]
      rfl
  | idle found present editing empty =>
      obtain ⟨target', found', _, hroot⟩ := Registry.find?_of_seen?_eq same found
      exact ⟨_, .idle found' (hroot.trans present) editing empty, rfl, rfl, same⟩
  | edited found present editing nonempty =>
      obtain ⟨target', found', hshape, hroot⟩ := Registry.find?_of_seen?_eq same found
      refine ⟨_, .edited found' (hroot.trans present) editing nonempty, rfl, rfl, ?_⟩
      -- What the directives do to a root is decided by the root, and it is the same one.
      rw [Registry.seen?_replace found, Registry.seen?_replace found']
      show some (_, Ordered.find? _ (Ordered.modify _ _ _))
        = some (target'.shape, Ordered.find? _ (Ordered.modify _ _ _))
      rw [Ordered.find?_modify_self, Ordered.find?_modify_self, hshape]
      show some (_, (Collection.find? _ s.key).map _) = some (_, (Collection.find? _ s.key).map _)
      rw [hroot]
      rfl

/-- **A SCRIPT WRITES ONE ROOT.** -/
theorem Scripts.writes (h : Scripts engine context registry s change) :
    registry.SameApart change.registry s.collection s.key := by
  cases h with
  | unknown _ | absent _ _ | idle _ _ _ _ => exact .refl _ _ _
  | removed found _ _ => exact .replace found (Collection.sameApart_erase _ _)
  | edited found _ _ _ => exact .replace found (Collection.sameApart_modify _ _ _)

theorem Scripts.keeps (h : Scripts engine context registry s change)
    (ascending : registry.Ascending) : change.registry.Ascending := by
  cases h with
  | unknown _ | absent _ _ | idle _ _ _ _ => exact ascending
  | removed found _ _ => exact ascending.replace ((ascending.find? found).erase _)
  | edited found _ _ _ => exact ascending.replace ((ascending.find? found).modify _ _)

end

theorem applyScript_isolated (engine : Engine) (context : OverlayContext) (s : EditScript) :
    Isolated (fun _ registry => engine.applyScript context registry s) s.collection s.key where
  reads := by
    intro σ τ registry registry' ascending ascending' same
    obtain ⟨change', scripts', hsame⟩ :=
      (applyScript_scripts engine context registry s).reads ascending ascending' same
    rw [scripts'.eq]
    exact hsame
  writes := fun σ registry => (applyScript_scripts engine context registry s).writes
  keeps := fun σ registry ascending =>
    (applyScript_scripts engine context registry s).keeps ascending
  untouched := by
    intro σ registry untouched
    have scripts := applyScript_scripts engine context registry s
    generalize engine.applyScript context registry s = change at scripts untouched ⊢
    cases scripts with
    | unknown _ | absent _ _ | idle _ _ _ _ => rfl
    | removed _ _ _ | edited _ _ _ _ => cases untouched

/-- **A SCRIPT THAT DELETES ITS ROOT RUNS NO DIRECTIVE.** -/
theorem applyScript_deletes (engine : Engine) (context : OverlayContext) (registry : Registry σ)
    {s : EditScript} (removing : s.removed = true) : Deletes engine context registry s := by
  have scripts := applyScript_scripts engine context registry s
  refine ⟨?_, ?_⟩
  -- None of the ends that are left mentions the engine or the directives.
  · intro engine' edits
    generalize engine.applyScript context registry s = change at scripts ⊢
    cases scripts with
    | unknown missing => exact Scripts.eq (.unknown missing)
    | absent found missing => exact Scripts.eq (.absent found missing)
    | removed found present removing => exact Scripts.eq (.removed found present removing)
    | idle _ _ editing _ | edited _ _ editing _ =>
        rw [removing] at editing
        cases editing
  · intro ascending touched
    generalize engine.applyScript context registry s = change at scripts touched ⊢
    cases scripts with
    | unknown _ | absent _ _ | idle _ _ _ _ => cases touched
    | @removed target _ found _ _ =>
        refine ⟨target.shape, ?_⟩
        rw [Registry.seen?_replace found, (ascending.find? found).find?_erase_self]
        rfl
    | edited _ _ editing _ =>
        rw [removing] at editing
        cases editing

/-! ## §3. Overrides. -/

section

variable {context : OverlayContext} {registry : Registry σ} {o : Override} {change : Change σ}

theorem Collection.find?_put_self (collection : Collection σ) (key : String) (root : Value) :
    (collection.put key root).find? key = some root :=
  Ordered.find?_putSorted_self key root collection.entries

/-- An override does what it does in every registry in which the same is seen at its address. -/
theorem Overrides.reads {τ : Type} (h : Overrides context registry o change)
    {registry' : Registry τ}
    (same : registry.seen? o.collection o.key = registry'.seen? o.collection o.key) :
    ∃ change', Overrides context registry' o change' ∧
      change.touched = change'.touched ∧ change.diagnostics = change'.diagnostics ∧
      change.registry.seen? o.collection o.key = change'.registry.seen? o.collection o.key := by
  cases h with
  | unknown missing =>
      exact ⟨_, .unknown (Registry.find?_eq_none_of_seen?_eq same missing), rfl, rfl, same⟩
  | refused found refuses =>
      obtain ⟨target', found', hshape, _⟩ := Registry.find?_of_seen?_eq same found
      exact ⟨_, .refused found' (hshape ▸ refuses), rfl, rfl, same⟩
  | @stored target root found converts =>
      obtain ⟨target', found', hshape, hroot⟩ := Registry.find?_of_seen?_eq same found
      -- Whether there was a root before decides between the two lines.
      have hcontains : target'.contains o.key = target.contains o.key := congrArg Option.isSome hroot
      refine ⟨_, .stored found' (hshape ▸ converts), rfl, ?_, ?_⟩
      · simp only [hcontains]
      · rw [Registry.seen?_replace found, Registry.seen?_replace found',
          Collection.find?_put_self, Collection.find?_put_self]
        show some (_, some root) = some (target'.shape, some root)
        rw [hshape]
        rfl

theorem Overrides.writes (h : Overrides context registry o change) :
    registry.SameApart change.registry o.collection o.key := by
  cases h with
  | unknown _ | refused _ _ => exact .refl _ _ _
  | stored found _ => exact .replace found (Collection.sameApart_put _ _ _)

theorem Overrides.keeps (h : Overrides context registry o change)
    (ascending : registry.Ascending) : change.registry.Ascending := by
  cases h with
  | unknown _ | refused _ _ => exact ascending
  | stored found _ => exact ascending.replace ((ascending.find? found).put _ _)

end

theorem applyOverride_isolated (context : OverlayContext) (o : Override) :
    Isolated (fun _ registry => Engine.applyOverride context registry o) o.collection o.key where
  reads := by
    intro σ τ registry registry' _ _ same
    obtain ⟨change', overrides', hsame⟩ := (applyOverride_overrides context registry o).reads same
    rw [overrides'.eq]
    exact hsame
  writes := fun σ registry => (applyOverride_overrides context registry o).writes
  keeps := fun σ registry ascending => (applyOverride_overrides context registry o).keeps ascending
  untouched := by
    intro σ registry untouched
    have overrides := applyOverride_overrides context registry o
    generalize Engine.applyOverride context registry o = change at overrides untouched ⊢
    cases overrides with
    | unknown _ | refused _ _ => rfl
    | stored _ _ => cases untouched

/-- The two lines about an override that is carried out are different lines. -/
theorem replaces_ne_injects (key collection : String) :
    "replaces config " ++ key ++ " of type " ++ collection
      ≠ "injects additional config " ++ key ++ " of type " ++ collection := by
  intro h
  have hchars := congrArg String.toList h
  simp [String.toList_append] at hchars

/-- **AN OVERRIDE LEAVES THE CONVERTED ROOT**, and reports whether there was one before. -/
theorem applyOverride_stores (context : OverlayContext) (registry : Registry σ) (o : Override) :
    Stores context registry o := by
  have overrides := applyOverride_overrides context registry o
  refine ⟨?_, ?_⟩
  · intro touched
    generalize Engine.applyOverride context registry o = change at overrides touched ⊢
    cases overrides with
    | unknown _ | refused _ _ => cases touched
    | @stored target root found converts =>
        have hlines := replaces_ne_injects o.key o.collection
        refine ⟨target, root, _, found, converts, ?_, rfl, ?_, ?_⟩
        · rw [Registry.seen?_replace found, Collection.find?_put_self]
          rfl
        · show _ ↔ target.contains o.key = true
          by_cases hcontains : target.contains o.key = true
          · simp only [hcontains, if_true]
          · simp only [hcontains, Bool.false_eq_true, if_false, iff_false]
            exact hlines.symm
        · rw [← Option.not_isSome_iff_eq_none]
          show _ ↔ ¬ target.contains o.key = true
          by_cases hcontains : target.contains o.key = true
          · simp only [hcontains, if_true, not_true, iff_false]
            exact hlines
          · simp only [hcontains, Bool.false_eq_true, if_false, not_false_eq_true]
  · intro untouched
    generalize Engine.applyOverride context registry o = change at overrides untouched
    cases overrides with
    | unknown missing => exact .inl missing
    | refused found refuses => exact .inr ⟨_, _, found, refuses⟩
    | stored _ _ => cases untouched

/-! ## §4. Both. -/

/-- **REGISTRY NONINTERFERENCE.** Scripts and overrides read and write the root at their address
and nothing else; a script that deletes runs no directive, and an override leaves the converted
root or nothing. -/
theorem registry_noninterference (engine : Engine) (context : OverlayContext) :
    (∀ s : EditScript,
      Isolated (fun _ registry => engine.applyScript context registry s) s.collection s.key ∧
        (s.removed = true → ∀ (σ : Type) (registry : Registry σ),
          Deletes engine context registry s)) ∧
    ∀ o : Override,
      Isolated (fun _ registry => Engine.applyOverride context registry o) o.collection o.key ∧
        ∀ (σ : Type) (registry : Registry σ), Stores context registry o := by
  refine ⟨?_, ?_⟩
  · intro s
    refine ⟨applyScript_isolated engine context s, ?_⟩
    intro removing σ registry
    exact applyScript_deletes engine context registry removing
  · intro o
    refine ⟨applyOverride_isolated context o, ?_⟩
    intro σ registry
    exact applyOverride_stores context registry o

/-- A script with an edit and a failure, one that deletes the root, and an override, in two
registries that have nothing in common but the root: not even the type of their hooks' state. -/
theorem registry_noninterference_preset :
    let context : OverlayContext := ⟨"first", 0⟩
    let small : Registry Unit :=
      ⟨[("Preset", ⟨"Preset", .record "Preset", [("mech_a", Catalog.samplePreset)], []⟩)]⟩
    let large : Registry (List String) := ⟨[("Texts", .empty "Texts" .text), ("Preset",
      ⟨"Preset", .record "Preset",
        [("mech_a", Catalog.samplePreset), ("mech_b", .record "Preset" Catalog.presetFields)],
        [Catalog.countingHook "Preset" 0]⟩)]⟩
    let script : EditScript :=
      ⟨"Preset", "mech_a", none, false, [⟨"enabled", "toggle"⟩, ⟨"armor", "5"⟩]⟩
    let deletion : EditScript := { script with removed := true }
    let override : Override := ⟨"Preset", "mech_a", .record "Preset" Catalog.presetFields⟩
    (Catalog.switching.applyScript context small script).diagnostics
        = (Catalog.switching.applyScript context large script).diagnostics ∧
      (Catalog.switching.applyScript context large script).touched = true ∧
      (((Catalog.switching.applyScript context large script).registry.seen? "Preset" "mech_a").bind
        fun seen => seen.2.bind fun root => root.lookup? ["enabled"]) = some (.bool true) ∧
      Deletes Catalog.switching context large deletion ∧
      (Engine.applyOverride context small override).diagnostics
        = (Engine.applyOverride context large override).diagnostics ∧
      Stores context large override := by
  intro context small large script deletion override
  have hsmall : small.Ascending := by decide
  have hlarge : large.Ascending := by decide
  have same : small.seen? "Preset" "mech_a" = large.seen? "Preset" "mech_a" := rfl
  obtain ⟨noninterference, noninterference'⟩ := registry_noninterference Catalog.switching context
  -- What the directives do is computed in the small registry and carried over to the large one.
  obtain ⟨htouched, hdiagnostics, hseen⟩ :=
    (noninterference script).1.reads _ _ small large hsmall hlarge same
  refine ⟨hdiagnostics, htouched.symm, ?_, (noninterference deletion).2 rfl _ large,
    ((noninterference' override).1.reads _ _ small large hsmall hlarge same).2.1,
    (noninterference' override).2 _ large⟩
  rw [← hseen]
  rfl

end ConfigGraph
