/-
  ConfigGraph.Proofs.Batch.Moments
  ────────────────────────────────
  **THE MOMENTS OF A BATCH.**

  What an item does depends on the registry that the items before it left.
  `registryBefore` names this registry by the number of the item, so that
  what holds "when it was reached" is said of an item and a moment, and what
  a batch reports, changes and touches is read off its moments:

      mem_diagnosticsOf_iff        what is reported is reported at a moment
      exists_moment_of_changed     what is different was changed at a moment
      FirstTouched                 who is touched, in the order of first moments

  Each is one induction over the items.  A proof about batches then needs to
  know single items only, and about a single item it needs to know that it
  is `Isolated`: it writes to one root, and not at all if it does not touch
  the registry.

  Main results:
    * `Item.change_isolated`
    * `foldl_run_firstTouched`
    * `find?_registryAfter_of_untouched`, `exists_touch_of_rootAt?_ne`
    * `applyOverlays_of_enabled` — the items, and behind them the hooks
-/
import Mathlib.Data.List.Induction
import ConfigGraph.Proofs.Batch.Account
import ConfigGraph.Proofs.Batch.Noninterference

namespace ConfigGraph

variable {σ : Type} {engine : Engine} {registry : Registry σ} {items : List Item}

/-! ## §1. One item. -/

/-- **AN ITEM READS AND WRITES ONE ROOT.** -/
theorem Item.change_isolated (engine : Engine) (item : Item) :
    Isolated (fun _ registry => item.change engine registry) item.collection item.key := by
  cases item with
  | override context o => exact applyOverride_isolated context o
  | script context count index s =>
      have isolated := applyScript_isolated engine context s
      refine ⟨?_, isolated.writes, isolated.keeps, isolated.untouched⟩
      intro σ τ registry registry' ascending ascending' same
      obtain ⟨htouched, hdiagnostics, hseen⟩ :=
        isolated.reads σ τ registry registry' ascending ascending' same
      -- The notice in front is about the script alone.
      exact ⟨htouched, congrArg (Engine.scriptNotice context count index s :: ·) hdiagnostics, hseen⟩

/-- Where an item does not write, the registry stays as it is. -/
theorem Registry.SameApart.find?_of_ne {before after : Registry σ} {name key other : String}
    (same : before.SameApart after name key) (hne : other ≠ name) :
    after.find? other = before.find? other := by
  unfold Registry.find?
  rw [← Ordered.find?_without hne, same.others, Ordered.find?_without hne]

theorem Registry.SameApart.rootAt?_of_ne {before after : Registry σ} {name key other key' : String}
    (same : before.SameApart after name key) (hne : ¬ (name = other ∧ key = key')) :
    after.rootAt? other key' = before.rootAt? other key' := by
  unfold Registry.rootAt?
  by_cases hname : other = name
  · subst hname
    have hkey : key' ≠ key := fun h => hne ⟨rfl, h.symm⟩
    cases hfound : before.find? other with
    | none => rw [same.missing hfound]
    | some target =>
        obtain ⟨target', hfound', hsame⟩ := same.target target hfound
        rw [hfound']
        show Ordered.find? key' target'.entries = Ordered.find? key' target.entries
        rw [← Ordered.find?_without hkey, hsame.roots, Ordered.find?_without hkey]
  · rw [same.find?_of_ne hname]

/-! ## §2. Moments. -/

/-- The registry that the item of this number finds. -/
def registryBefore (engine : Engine) (registry : Registry σ) (items : List Item) (i : Nat) :
    Registry σ :=
  registryAfter engine registry (items.take i)

theorem registryAfter_append (engine : Engine) (registry : Registry σ) (before after : List Item) :
    registryAfter engine registry (before ++ after)
      = registryAfter engine (registryAfter engine registry before) after :=
  List.foldl_append

/-- **WHAT IS REPORTED IS REPORTED AT A MOMENT.** -/
theorem mem_diagnosticsOf_iff {d : Diagnostic} :
    d ∈ diagnosticsOf engine registry items ↔ ∃ (i : Nat) (item : Item), items[i]? = some item ∧
      d ∈ (item.change engine (registryBefore engine registry items i)).diagnostics := by
  -- The moments behind the first item are those of the items behind it.
  induction items generalizing registry with
  | nil =>
      unfold diagnosticsOf
      simp
  | cons first rest ih =>
      unfold diagnosticsOf
      rw [List.mem_append, ih]
      constructor
      · rintro (hfirst | ⟨i, item, hitem, hd⟩)
        · exact ⟨0, first, rfl, hfirst⟩
        · exact ⟨i + 1, item, hitem, hd⟩
      · rintro ⟨i, item, hitem, hd⟩
        cases i with
        | zero =>
            injection hitem with hitem
            subst hitem
            exact .inl hd
        | succ i => exact .inr ⟨i, item, hitem, hd⟩

/-- **WHAT IS DIFFERENT WAS CHANGED AT A MOMENT.** -/
theorem exists_moment_of_changed {γ : Type} (view : Registry σ → γ)
    (h : view (registryAfter engine registry items) ≠ view registry) :
    ∃ (i : Nat) (item : Item), items[i]? = some item ∧
      view (item.change engine (registryBefore engine registry items i)).registry
        ≠ view (registryBefore engine registry items i) := by
  induction items generalizing registry with
  | nil => exact absurd rfl h
  | cons first rest ih =>
      by_cases hfirst : view (first.change engine registry).registry = view registry
      · have hrest : view (registryAfter engine (first.change engine registry).registry rest)
            ≠ view (first.change engine registry).registry := by
          intro heq
          exact h (heq.trans hfirst)
        obtain ⟨i, item, hitem, hchange⟩ := ih hrest
        exact ⟨i + 1, item, hitem, hchange⟩
      · exact ⟨0, first, rfl, hfirst⟩

/-! ## §3. Touching. -/

/-- The item of this number touches the collection of this name. -/
def Touches (engine : Engine) (registry : Registry σ) (items : List Item) (i : Nat)
    (name : String) : Prop :=
  ∃ item, items[i]? = some item ∧ item.collection = name ∧
    (item.change engine (registryBefore engine registry items i)).touched = true

/-- The names of the collections that the items touch, in the order of the first touch. -/
structure FirstTouched (engine : Engine) (registry : Registry σ) (items : List Item)
    (touched : List String) : Prop where
  /-- Each is listed once. -/
  nodup : touched.Nodup
  /-- They are the touched ones. -/
  mem_iff : ∀ name, name ∈ touched ↔ ∃ i, Touches engine registry items i name
  /-- One is listed in front of another if it was touched before the other ever was. -/
  order : touched.Pairwise fun name later => ∃ i, Touches engine registry items i name ∧
    ∀ j, Touches engine registry items j later → i < j

theorem Touches.lt_length {i : Nat} {name : String} (h : Touches engine registry items i name) :
    i < items.length := by
  obtain ⟨item, hitem, _⟩ := h
  exact (List.getElem?_eq_some_iff.mp hitem).1

/-- Where nothing is touched, nothing is listed. -/
theorem FirstTouched.eq_nil {touched : List String} (h : FirstTouched engine registry items touched)
    (hno : ∀ i name, ¬ Touches engine registry items i name) : touched = [] := by
  rw [List.eq_nil_iff_forall_not_mem]
  intro name hname
  obtain ⟨i, htouches⟩ := (h.mem_iff name).mp hname
  exact hno i name htouches

/-- With one item more there is one moment more. -/
theorem touches_concat_iff {item : Item} {i : Nat} {name : String} :
    Touches engine registry (items ++ [item]) i name ↔
      Touches engine registry items i name ∨ i = items.length ∧ item.collection = name ∧
        (item.change engine (registryAfter engine registry items)).touched = true := by
  unfold Touches registryBefore
  by_cases hlt : i < items.length
  · rw [List.getElem?_append_left hlt, List.take_append_of_le_length (Nat.le_of_lt hlt)]
    have hne : i ≠ items.length := Nat.ne_of_lt hlt
    simp [hne]
  · by_cases heq : i = items.length
    · subst heq
      simp
    · have hbeyond : (items ++ [item]).length ≤ i := by
        rw [List.length_append, List.length_singleton]
        omega
      have hbeyond' : items.length ≤ i := by omega
      rw [List.getElem?_eq_none hbeyond, List.getElem?_eq_none hbeyond']
      simp [heq]

/-- What was touched first stays first: one item more touches behind all others. -/
theorem FirstTouched.order_concat {touched : List String}
    (h : FirstTouched engine registry items touched) (item : Item) :
    touched.Pairwise fun name later => ∃ i, Touches engine registry (items ++ [item]) i name ∧
      ∀ j, Touches engine registry (items ++ [item]) j later → i < j := by
  refine h.order.imp ?_
  rintro name later ⟨i, htouches, hfirst⟩
  refine ⟨i, touches_concat_iff.mpr (.inl htouches), ?_⟩
  intro j hj
  have hlt := htouches.lt_length
  rcases touches_concat_iff.mp hj with hold | ⟨heq, _⟩
  · exact hfirst j hold
  · omega

/-- An item that touches nothing leaves the list as it is. -/
theorem FirstTouched.concat_untouched {touched : List String} {item : Item}
    (h : FirstTouched engine registry items touched)
    (hno : (item.change engine (registryAfter engine registry items)).touched = false) :
    FirstTouched engine registry (items ++ [item]) touched := by
  refine ⟨h.nodup, ?_, h.order_concat item⟩
  intro name
  simp only [touches_concat_iff, hno, Bool.false_eq_true, and_false, or_false]
  exact h.mem_iff name

/-- An item that touches a collection for a second time leaves the list as it is. -/
theorem FirstTouched.concat_again {touched : List String} {item : Item}
    (h : FirstTouched engine registry items touched) (hmem : item.collection ∈ touched) :
    FirstTouched engine registry (items ++ [item]) touched := by
  refine ⟨h.nodup, ?_, h.order_concat item⟩
  intro name
  simp only [touches_concat_iff]
  constructor
  · intro hname
    obtain ⟨i, htouches⟩ := (h.mem_iff name).mp hname
    exact ⟨i, .inl htouches⟩
  · rintro ⟨i, htouches | ⟨_, hname, _⟩⟩
    · exact (h.mem_iff name).mpr ⟨i, htouches⟩
    · exact hname ▸ hmem

/-- An item that touches a new collection adds it behind the others. -/
theorem FirstTouched.concat_new {touched : List String} {item : Item}
    (h : FirstTouched engine registry items touched) (hnew : item.collection ∉ touched)
    (hyes : (item.change engine (registryAfter engine registry items)).touched = true) :
    FirstTouched engine registry (items ++ [item]) (touched ++ [item.collection]) := by
  have hnever : ∀ i, ¬ Touches engine registry items i item.collection := by
    intro i htouches
    exact hnew ((h.mem_iff _).mpr ⟨i, htouches⟩)
  refine ⟨?_, ?_, ?_⟩
  · rw [← List.concat_eq_append]
    exact h.nodup.concat hnew
  · intro name
    simp only [touches_concat_iff]
    rw [List.mem_append, List.mem_singleton]
    constructor
    · rintro (hname | hname)
      · obtain ⟨i, htouches⟩ := (h.mem_iff name).mp hname
        exact ⟨i, .inl htouches⟩
      · exact ⟨items.length, .inr ⟨rfl, hname.symm, hyes⟩⟩
    · rintro ⟨i, htouches | ⟨_, hname, _⟩⟩
      · exact .inl ((h.mem_iff name).mpr ⟨i, htouches⟩)
      · exact .inr hname.symm
  · rw [List.pairwise_append]
    refine ⟨?_, List.pairwise_singleton _ _, ?_⟩
    · exact h.order_concat item
    · intro name hname later hlater
      rw [List.mem_singleton.mp hlater]
      obtain ⟨i, htouches⟩ := (h.mem_iff name).mp hname
      refine ⟨i, touches_concat_iff.mpr (.inl htouches), ?_⟩
      -- The new collection is touched at the last moment and at no other.
      intro j hj
      rcases touches_concat_iff.mp hj with hold | ⟨heq, _⟩
      · exact absurd hold (hnever j)
      · have hlt := htouches.lt_length
        omega

/-- **A BATCH LISTS WHAT IT TOUCHES** in the order of the first touch. -/
theorem foldl_run_firstTouched (engine : Engine) (registry : Registry σ) (journal : Journal)
    (items : List Item) :
    FirstTouched engine registry items
      (items.foldl (Item.run engine) ⟨registry, journal, []⟩).touched := by
  -- A batch grows at its end: the induction is on the items that have run.
  induction items using List.reverseRecOn with
  | nil => exact ⟨.nil, by simp [Touches], .nil⟩
  | append_singleton items item ih =>
      have hregistry := foldl_run_registry engine ⟨registry, journal, []⟩ items
      rw [List.foldl_append, List.foldl_cons, List.foldl_nil]
      generalize items.foldl (Item.run engine) ⟨registry, journal, []⟩ = batch at ih hregistry ⊢
      show FirstTouched engine registry (items ++ [item])
        (if (item.change engine batch.registry).touched = true ∧ item.collection ∉ batch.touched
          then batch.touched ++ [item.collection] else batch.touched)
      rw [hregistry]
      split
      · rename_i h
        exact ih.concat_new h.2 h.1
      · rename_i h
        by_cases hmem : item.collection ∈ batch.touched
        · exact ih.concat_again hmem
        · exact ih.concat_untouched (Bool.eq_false_iff.mpr fun hyes => h ⟨hyes, hmem⟩)

/-- What is different was changed by an item that touched the registry. -/
theorem exists_touch_of_changed {γ : Type} (view : Registry σ → γ)
    (h : view (registryAfter engine registry items) ≠ view registry) :
    ∃ (i : Nat) (item : Item), items[i]? = some item ∧
      (item.change engine (registryBefore engine registry items i)).touched = true ∧
      view (item.change engine (registryBefore engine registry items i)).registry
        ≠ view (registryBefore engine registry items i) := by
  obtain ⟨i, item, hitem, hchange⟩ := exists_moment_of_changed view h
  refine ⟨i, item, hitem, ?_, hchange⟩
  apply Classical.byContradiction
  intro hno
  have hsame := (Item.change_isolated engine item).untouched σ _ (Bool.eq_false_iff.mpr hno)
  exact hchange (congrArg view hsame)

/-- **A COLLECTION THAT NO ITEM TOUCHES IS WHAT IT WAS.** -/
theorem find?_registryAfter_of_untouched {name : String}
    (h : ∀ i, ¬ Touches engine registry items i name) :
    (registryAfter engine registry items).find? name = registry.find? name := by
  apply Classical.byContradiction
  intro hne
  obtain ⟨i, item, hitem, htouched, hchange⟩ := exists_touch_of_changed (·.find? name) hne
  have hother : name ≠ item.collection := fun heq => h i ⟨item, hitem, heq.symm, htouched⟩
  exact hchange (((Item.change_isolated engine item).writes σ _).find?_of_ne hother)

/-- A batch that touches nothing leaves the registry as it is. -/
theorem registryAfter_of_untouched (h : ∀ i name, ¬ Touches engine registry items i name) :
    registryAfter engine registry items = registry := by
  apply Classical.byContradiction
  intro hne
  obtain ⟨i, item, hitem, htouched, _⟩ := exists_touch_of_changed id hne
  exact h i item.collection ⟨item, hitem, rfl, htouched⟩

/-- **A ROOT THAT IS DIFFERENT WAS CHANGED BY AN ITEM ABOUT IT.** -/
theorem exists_touch_of_rootAt?_ne {name key : String}
    (hne : (registryAfter engine registry items).rootAt? name key ≠ registry.rootAt? name key) :
    ∃ (i : Nat) (item : Item), items[i]? = some item ∧ item.collection = name ∧ item.key = key ∧
      (item.change engine (registryBefore engine registry items i)).touched = true ∧
      (item.change engine (registryBefore engine registry items i)).registry.rootAt? name key
        ≠ (registryBefore engine registry items i).rootAt? name key := by
  obtain ⟨i, item, hitem, htouched, hchange⟩ := exists_touch_of_changed (·.rootAt? name key) hne
  have haddress : item.collection = name ∧ item.key = key := by
    apply Classical.byContradiction
    intro hother
    exact hchange (((Item.change_isolated engine item).writes σ _).rootAt?_of_ne hother)
  exact ⟨i, item, hitem, haddress.1, haddress.2, htouched, hchange⟩

theorem names_registryAfter (engine : Engine) (registry : Registry σ) (items : List Item) :
    (registryAfter engine registry items).names = registry.names := by
  induction items generalizing registry with
  | nil => rfl
  | cons item rest ih =>
      exact (ih _).trans ((Item.change_isolated engine item).writes σ registry).names

theorem ascending_registryAfter (ascending : registry.Ascending) :
    (registryAfter engine registry items).Ascending := by
  induction items generalizing registry with
  | nil => exact ascending
  | cons item rest ih => exact ih ((Item.change_isolated engine item).keeps σ registry ascending)

/-! ## §4. The batch. -/

/-- **AN ENABLED ENGINE RUNS THE ITEMS AND THEN THE HOOKS.** -/
theorem applyOverlays_of_enabled (enabled : engine.config.enabled = true) (registry : Registry σ)
    (overlays : List Overlay) (state : σ) :
    ∃ journal touched, journal.report.diagnostics
        = diagnosticsOf engine registry (batchItems overlays) ∧
      FirstTouched engine registry (batchItems overlays) touched ∧
      engine.applyOverlays registry overlays state
        = Engine.runTouched (registryAfter engine registry (batchItems overlays)) journal state
            touched := by
  have htouched := foldl_run_firstTouched engine registry .empty (batchItems overlays)
  have hregistry := foldl_run_registry engine ⟨registry, .empty, []⟩ (batchItems overlays)
  have hjournal := foldl_run_journal engine ⟨registry, .empty, []⟩ (batchItems overlays)
  unfold Engine.applyOverlays
  rw [if_pos enabled, runOverlays_eq_foldl]
  generalize (batchItems overlays).foldl (Item.run engine) ⟨registry, .empty, []⟩ = batch
    at htouched hregistry hjournal ⊢
  refine ⟨batch.journal, batch.touched, ?_, htouched, ?_⟩
  · rw [hjournal, pushAll_eq]
    rfl
  · show Engine.runTouched batch.registry batch.journal state batch.touched = _
    rw [hregistry]

/-- Hooks add nothing to the report. -/
theorem applyOverlays_report (enabled : engine.config.enabled = true) (registry : Registry σ)
    (overlays : List Overlay) (state : σ) :
    (engine.applyOverlays registry overlays state).2.1.report.diagnostics
      = diagnosticsOf engine registry (batchItems overlays) := by
  obtain ⟨journal, touched, hreport, _, hbatch⟩ :=
    applyOverlays_of_enabled enabled registry overlays state
  obtain ⟨_, _, hjournal⟩ := runTouched_journal
    (registryAfter engine registry (batchItems overlays)) journal state touched
  rw [hbatch, hjournal]
  exact hreport

end ConfigGraph
