/-
  ConfigGraph.Proofs.Batch.Summary
  ────────────────────────────────
  **THE SUMMARIES OF A REPORT CAN BE TRUSTED.**

  A report is read by its summaries: it is clean, or it has no edits, or it
  has one about a root.  Each says something about the registry, and for that
  no change may go unreported and no success may be reported as an attempt.

  For directives this is `Candid`, one fact about each way through the
  engine.  An item is candid because its directives are, and because what it
  does to a root as a whole it reports with one line.  A batch is read off the
  moments of its items: what is reported is reported at a moment, and what is
  different was changed at one.

  Main results:
    * `apply_candid`
    * `Item.clean_iff` — no attempts mean success
    * `Item.exists_edit_of_touched`, `Item.exists_field_edit`
    * `summaries_trustworthy`
-/
import ConfigGraph.Catalog.Samples
import ConfigGraph.Proofs.Batch.Moments

namespace ConfigGraph

variable {σ : Type}

/-! ## §1. Directives. -/

/-- The directive did what it was asked for, or was asked for nothing. -/
def Outcome.Succeeds (outcome : Outcome) : Prop :=
  outcome.result = .ok .edited ∨ outcome.result = .ok .skipped

/-- The notes of a directive tell what became of the graph. -/
structure Candid (root root' : Value) (outcome : Outcome) : Prop where
  /-- A directive that succeeds has noted changes and nothing else. -/
  succeeded : outcome.Succeeds → ∀ note ∈ outcome.notes, note.kind = .edit
  /-- One that has found everything as it was asked for has noted an attempt. -/
  unchanged : outcome.result = .ok .unchanged → ∃ note ∈ outcome.notes, note.kind = .attempt
  /-- A graph that is different was changed with a note about it. -/
  changed : root' ≠ root → ∃ note ∈ outcome.notes, note.kind = .edit

section

variable {root root' : Value} {notes : List Note}

theorem Candid.of_fault (changed : root' ≠ root → ∃ note ∈ notes, note.kind = .edit)
    (fault : Fault) : Candid root root' ⟨.error fault, notes⟩ := by
  refine ⟨?_, ?_, changed⟩
  · rintro (h | h) <;> cases h
  · intro h
    cases h

theorem Candid.of_edited (edits : ∀ note ∈ notes, note.kind = .edit) (hne : notes ≠ []) :
    Candid root root' ⟨.ok .edited, notes⟩ := by
  refine ⟨fun _ => edits, ?_, ?_⟩
  · intro h
    cases h
  · intro _
    obtain ⟨note, hnote⟩ := List.exists_mem_of_ne_nil notes hne
    exact ⟨note, hnote, edits note hnote⟩

theorem Candid.of_skipped (edits : ∀ note ∈ notes, note.kind = .edit)
    (changed : root' ≠ root → ∃ note ∈ notes, note.kind = .edit) :
    Candid root root' ⟨.ok .skipped, notes⟩ := by
  refine ⟨fun _ => edits, ?_, changed⟩
  intro h
  cases h

theorem Candid.of_unchanged (changed : root' ≠ root → ∃ note ∈ notes, note.kind = .edit)
    (attempt : ∃ note ∈ notes, note.kind = .attempt) :
    Candid root root' ⟨.ok .unchanged, notes⟩ := by
  refine ⟨?_, fun _ => attempt, changed⟩
  rintro (h | h) <;> cases h

/-- Where a path ends at a slot, what the landing has noted and what the updater reports is
enough. -/
theorem settle_candid {engine : Engine} (reports : engine.updaters.Reports) (operation : Operation)
    (value : String) (parent : Address) (slot : Slot)
    (edits : ∀ note ∈ notes, note.kind = .edit) (changed : root' ≠ root → notes ≠ []) :
    Candid root (engine.settle operation value ⟨root', notes, .ok (.slot parent slot)⟩).1
      (engine.settle operation value ⟨root', notes, .ok (.slot parent slot)⟩).2 := by
  have reported := updateSlot_reported reports slot operation value notes
  unfold Engine.settle Value.afterUpdate
  simp only []
  generalize engine.updateSlot slot operation value notes = update at reported ⊢
  obtain ⟨slot', notes', result⟩ := update
  -- What the landing has noted of its change is still there, however the updater ends.
  have hchanged (hkeeps : notes <+: notes') :
      root' ≠ root → ∃ note ∈ notes', note.kind = .edit := by
    intro hne
    obtain ⟨note, hnote⟩ := List.exists_mem_of_ne_nil notes (changed hne)
    exact ⟨note, hkeeps.subset hnote, edits note hnote⟩
  rcases result with fault | status
  · obtain ⟨hslot, hkeeps⟩ := reported.failed fault rfl
    obtain rfl : slot' = none := hslot
    exact .of_fault (hchanged hkeeps) fault
  · cases status with
    | edited =>
        obtain ⟨added, hnotes, hne, hkind⟩ := reported.edited rfl
        obtain rfl : notes' = notes ++ added := hnotes
        refine .of_edited ?_ (List.append_ne_nil_of_right_ne_nil _ hne)
        intro note hnote
        rcases List.mem_append.mp hnote with hold | hnew
        · exact edits note hold
        · exact hkind note hnew
    | unchanged =>
        obtain ⟨hslot, added, hnotes, hne, hkind⟩ := reported.unchanged rfl
        obtain rfl : slot' = none := hslot
        obtain rfl : notes' = notes ++ added := hnotes
        obtain ⟨note, hnote⟩ := List.exists_mem_of_ne_nil added hne
        exact .of_unchanged (hchanged (List.prefix_append _ _))
          ⟨note, List.mem_append_right _ hnote, hkind note hnote⟩
    | skipped =>
        obtain ⟨hslot, hnotes⟩ := reported.skipped rfl
        obtain rfl : slot' = none := hslot
        obtain rfl : notes' = notes := hnotes
        exact .of_skipped edits (hchanged (List.prefix_refl _))

end

/-- **DIRECTIVES ARE CANDID**: what they note is what they did. -/
theorem apply_candid {engine : Engine} (reports : engine.updaters.Reports) (root : Value)
    (directive : Directive) :
    Candid root (engine.apply root directive).1 (engine.apply root directive).2 := by
  have hnever {Q : Prop} : root ≠ root → Q := fun h => absurd rfl h
  rcases apply_cases engine directive with
    ⟨result, dismissed, happly⟩ | ⟨before, last, operation, value, asks⟩
  · rw [happly root]
    cases dismissed with
    | skipped _ => exact .of_skipped nofun hnever
    | invalid _ => exact .of_fault hnever _
  · rw [apply_eq_settle asks root]
    have lands := land_lands engine.schema root before last operation value
    generalize land engine.schema root (before ++ [last]) operation value = landing at lands ⊢
    have hedit (message : String) : ∀ note ∈ [Note.mk .edit message], note.kind = .edit := by
      intro note hnote
      rw [List.mem_singleton.mp hnote]
    cases lands with
    | stopped _ | refused _ _ _ _ => exact .of_fault hnever _
    | selected _ _ _ _ _ =>
        refine settle_candid reports operation value _ _ ?_ hnever
        intro note hnote
        cases hnote
    | held _ _ _ _ => exact .of_unchanged hnever ⟨_, List.mem_cons_self, rfl⟩
    | added _ _ _ _ _ | removed _ _ _ _ => exact .of_edited (hedit _) (List.cons_ne_nil _ _)
    | opened _ _ _ _ _ _ _ _ =>
        exact settle_candid reports operation value _ _ (hedit _) fun _ => List.cons_ne_nil _ _

/-! ## §2. What is reported of directives. -/

section

variable {engine : Engine} {item : Item} {path : String} {outcome : Outcome}
  {block later : List Diagnostic} {root root' : Value} {directives : List Directive}

/-- A kind occurs in a block if a note or the end of the directive has it. -/
theorem Mentions.exists_kind_iff (mentions : Mentions item path outcome block)
    (kind : DiagnosticKind) :
    (∃ d ∈ block, d.kind = kind) ↔ (∃ note ∈ outcome.notes, note.kind.diagnosticKind = kind) ∨
      ∃ line ∈ closing outcome.result, line.1 = kind := by
  have hmem (line : DiagnosticKind × String) :
      line ∈ block.map (fun d => (d.kind, d.message)) ↔ line ∈ outcome.notes.map (fun note =>
        (note.kind.diagnosticKind, note.message)) ++ closing outcome.result := by
    rw [mentions.contents]
  constructor
  · rintro ⟨d, hd, hkind⟩
    rcases List.mem_append.mp ((hmem _).mp (List.mem_map_of_mem hd)) with hnote | hclosing
    · obtain ⟨note, hnote, heq⟩ := List.mem_map.mp hnote
      exact .inl ⟨note, hnote, (congrArg Prod.fst heq).trans hkind⟩
    · exact .inr ⟨_, hclosing, hkind⟩
  · intro h
    have hline : ∃ line ∈ block.map (fun d => (d.kind, d.message)), line.1 = kind := by
      rcases h with ⟨note, hnote, hkind⟩ | ⟨line, hline, hkind⟩
      · exact ⟨_, (hmem _).mpr (List.mem_append_left _ (List.mem_map_of_mem hnote)), hkind⟩
      · exact ⟨line, (hmem _).mpr (List.mem_append_right _ hline), hkind⟩
    obtain ⟨line, hline, hkind⟩ := hline
    obtain ⟨d, hd, rfl⟩ := List.mem_map.mp hline
    exact ⟨d, hd, hkind⟩

/-- A block has no attempts if the directive succeeds. -/
theorem Mentions.clean_iff (mentions : Mentions item path outcome block)
    (candid : Candid root root' outcome) :
    (∀ d ∈ block, d.kind ≠ .attempt) ↔ outcome.Succeeds := by
  have hkind := mentions.exists_kind_iff .attempt
  have hclean : (∀ d ∈ block, d.kind ≠ .attempt) ↔ ¬ ∃ d ∈ block, d.kind = .attempt := by
    simp
  rw [hclean, hkind, not_or]
  obtain ⟨result, notes⟩ := outcome
  constructor
  · rintro ⟨hnotes, hclosing⟩
    rcases result with fault | status
    · exact absurd ⟨_, List.mem_singleton_self _, rfl⟩ hclosing
    · cases status with
      | edited => exact .inl rfl
      | skipped => exact .inr rfl
      | unchanged =>
          obtain ⟨note, hnote, hattempt⟩ := candid.unchanged rfl
          exact absurd ⟨note, hnote, congrArg NoteKind.diagnosticKind hattempt⟩ hnotes
  · intro hsucceeds
    refine ⟨?_, ?_⟩
    · rintro ⟨note, hnote, hattempt⟩
      rw [candid.succeeded hsucceeds note hnote] at hattempt
      cases hattempt
    · rintro ⟨line, hline, hattempt⟩
      rcases hsucceeds with hresult | hresult
      · rw [show result = _ from hresult] at hline
        cases hline
      · rw [show result = _ from hresult] at hline
        rw [List.mem_singleton.mp hline] at hattempt
        cases hattempt

/-- A narration has no attempts if every directive succeeds. -/
theorem Narrates.clean_iff (reports : engine.updaters.Reports)
    (narrates : Narrates engine item root directives later) :
    (∀ d ∈ later, d.kind ≠ .attempt) ↔
      ∀ outcome ∈ (engine.applyAll root directives).2, outcome.Succeeds := by
  induction narrates with
  | done root => simp [Engine.applyAll]
  | @directive root directive rest notice block later _ kind mentions _ ih =>
      have hfirst := mentions.clean_iff (apply_candid reports root directive)
      have hnotice : notice.kind ≠ .attempt := by
        rw [kind]
        exact DiagnosticKind.noConfusion
      rw [List.cons_append, List.forall_mem_cons, List.forall_mem_append, hfirst, ih]
      show _ ↔ ∀ outcome ∈ (engine.apply root directive).2
        :: (engine.applyAll (engine.apply root directive).1 rest).2, outcome.Succeeds
      rw [List.forall_mem_cons]
      exact and_iff_right hnotice

/-- If directives have changed a root, one of them has said so, with the path of the field. -/
theorem Narrates.exists_edit (reports : engine.updaters.Reports)
    (narrates : Narrates engine item root directives later)
    (hne : (engine.applyAll root directives).1 ≠ root) :
    ∃ d ∈ later, d.kind = .edit ∧ ∃ path, d.About item (some path) := by
  induction narrates with
  | done root => exact absurd rfl hne
  | @directive root directive rest notice block later _ _ mentions _ ih =>
      by_cases hfirst : (engine.apply root directive).1 = root
      · -- The first directive has changed nothing, so another one has.
        have hrest : (engine.applyAll (engine.apply root directive).1 rest).1
            ≠ (engine.apply root directive).1 := by
          intro heq
          exact hne (heq.trans hfirst)
        obtain ⟨d, hd, hd'⟩ := ih hrest
        exact ⟨d, List.mem_append_right _ hd, hd'⟩
      · obtain ⟨note, hnote, hkind⟩ := (apply_candid reports root directive).changed hfirst
        obtain ⟨d, hd, hedit⟩ := (mentions.exists_kind_iff .edit).mpr
          (.inl ⟨note, hnote, congrArg NoteKind.diagnosticKind hkind⟩)
        have hmem : d ∈ notice :: block ++ later :=
          List.mem_append_left _ (List.mem_cons_of_mem _ hd)
        exact ⟨d, hmem, hedit, directive.path, mentions.about d hd⟩

end

/-! ## §3. What is reported of items. -/

/-- The collection is there and takes the root. -/
def Override.Accepted (registry : Registry σ) (o : Override) : Prop :=
  ∃ target root, registry.find? o.collection = some target ∧ o.root.convert target.shape = .ok root

/-- The item does what it asks for: an override is accepted; a script finds its root, and each of
the directives that it runs succeeds. -/
def Item.Succeeds (engine : Engine) (registry : Registry σ) : Item → Prop
  | .override _ o => o.Accepted registry
  | .script _ _ _ s => ∃ root, registry.rootAt? s.collection s.key = some root ∧
      (s.removed = false → ∀ outcome ∈ (engine.applyAll root s.edits).2, outcome.Succeeds)

/-- The item exchanges or deletes a root as a whole: an override that is accepted, or a script
that deletes the root it finds. -/
def Item.Swaps (registry : Registry σ) : Item → Prop
  | .override _ o => o.Accepted registry
  | .script _ _ _ s => s.removed = true ∧ (registry.rootAt? s.collection s.key).isSome = true

section

variable {engine : Engine} {registry : Registry σ} {item : Item}

/-- **NO ATTEMPTS MEAN SUCCESS.** -/
theorem Item.clean_iff (reports : engine.updaters.Reports) (registry : Registry σ) (item : Item) :
    (∀ d ∈ (item.change engine registry).diagnostics, d.kind ≠ .attempt) ↔
      item.Succeeds engine registry := by
  have accounts := Item.change_accounts reports registry item
  generalize (item.change engine registry).diagnostics = block at accounts ⊢
  have hother {kind : DiagnosticKind} (h : kind ≠ .attempt) {d : Diagnostic}
      (hkind : d.kind = kind) : d.kind ≠ .attempt := hkind ▸ h
  cases accounts with
  | stored found converts about kind =>
      rw [List.forall_mem_singleton]
      exact iff_of_true (hother DiagnosticKind.noConfusion kind) ⟨_, _, found, converts⟩
  | refused refuses about kind =>
      rw [List.forall_mem_singleton]
      refine iff_of_false (not_not_intro kind) ?_
      rintro ⟨target, root, found, converts⟩
      obtain ⟨cause, hrefuses⟩ := refuses target found
      rw [converts] at hrefuses
      cases hrefuses
  | @script context count index s notice rest about kind acts =>
      rw [List.forall_mem_cons, and_iff_right (hother DiagnosticKind.noConfusion kind)]
      unfold Item.Succeeds
      cases acts with
      | absent missing _ kind =>
          rw [List.forall_mem_singleton]
          refine iff_of_false (not_not_intro kind) ?_
          rintro ⟨root, present, _⟩
          rw [missing] at present
          cases present
      | @removed root _ present removing _ kind =>
          rw [List.forall_mem_singleton]
          refine iff_of_true (hother DiagnosticKind.noConfusion kind) ⟨root, present, ?_⟩
          intro editing
          rw [removing] at editing
          cases editing
      | @idle root present _ empty =>
          refine iff_of_true (by simp) ⟨root, present, ?_⟩
          intro _ outcome houtcome
          rw [empty] at houtcome
          cases houtcome
      | @edited root d later present editing _ _ kind narrates =>
          rw [List.forall_mem_cons, and_iff_right (hother DiagnosticKind.noConfusion kind),
            narrates.clean_iff reports]
          constructor
          · intro h
            exact ⟨root, present, fun _ => h⟩
          · rintro ⟨root', present', h⟩
            rw [present] at present'
            injection present' with present'
            exact present' ▸ h editing

/-- **WHAT TOUCHES THE REGISTRY IS REPORTED AS AN EDIT.** -/
theorem Item.exists_edit_of_touched (touched : (item.change engine registry).touched = true) :
    ∃ d ∈ (item.change engine registry).diagnostics, d.kind = .edit ∧ d.About item none := by
  cases item with
  | override context o =>
      have overrides := applyOverride_overrides context registry o
      change (Engine.applyOverride context registry o).touched = true at touched
      show ∃ d ∈ (Engine.applyOverride context registry o).diagnostics, _
      generalize Engine.applyOverride context registry o = change at overrides touched ⊢
      cases overrides with
      | unknown _ | refused _ _ => cases touched
      | stored _ _ => exact ⟨_, List.mem_cons_self, rfl, ⟨rfl, rfl, rfl, rfl⟩⟩
  | script context count index s =>
      have scripts := applyScript_scripts engine context registry s
      change (engine.applyScript context registry s).touched = true at touched
      show ∃ d ∈ Engine.scriptNotice context count index s
        :: (engine.applyScript context registry s).diagnostics, _
      generalize engine.applyScript context registry s = change at scripts touched ⊢
      cases scripts with
      | unknown _ | absent _ _ | idle _ _ _ _ => cases touched
      | removed _ _ _ | edited _ _ _ _ =>
          exact ⟨_, List.mem_cons_of_mem _ List.mem_cons_self, rfl, ⟨rfl, rfl, rfl, rfl⟩⟩

/-- **A ROOT THAT IS CHANGED IN PART IS REPORTED BY FIELD**: an item that makes a root another one
without exchanging or deleting it reports an edit with a path. -/
theorem Item.exists_field_edit (reports : engine.updaters.Reports) (kept : ¬ item.Swaps registry)
    (hne : (item.change engine registry).registry.rootAt? item.collection item.key
      ≠ registry.rootAt? item.collection item.key) :
    ∃ d ∈ (item.change engine registry).diagnostics, d.kind = .edit ∧
      ∃ path, d.About item (some path) := by
  cases item with
  | override context o =>
      have overrides := applyOverride_overrides context registry o
      change (Engine.applyOverride context registry o).registry.rootAt? o.collection o.key
        ≠ registry.rootAt? o.collection o.key at hne
      generalize Engine.applyOverride context registry o = change at overrides hne
      cases overrides with
      | unknown _ | refused _ _ => exact absurd rfl hne
      | stored found converts => exact absurd ⟨_, _, found, converts⟩ kept
  | script context count index s =>
      have scripts := applyScript_scripts engine context registry s
      change (engine.applyScript context registry s).registry.rootAt? s.collection s.key
        ≠ registry.rootAt? s.collection s.key at hne
      show ∃ d ∈ Engine.scriptNotice context count index s
        :: (engine.applyScript context registry s).diagnostics, _
      generalize engine.applyScript context registry s = change at scripts hne ⊢
      cases scripts with
      | unknown _ | absent _ _ | idle _ _ _ _ => exact absurd rfl hne
      | removed found present removing =>
          refine absurd ⟨removing, ?_⟩ kept
          unfold Registry.rootAt?
          rw [found, Option.bind_some, present]
          rfl
      | @edited target root found present editing nonempty =>
          -- The root at the key is another one, so the directives have changed it.
          have hroot : (engine.applyAll root s.edits).1 ≠ root := by
            intro heq
            rw [heq] at hne
            apply hne
            have hsame : (target.modify s.key fun _ => root) = target := by
              unfold Collection.modify
              rw [Ordered.modify_eq_self present rfl]
            show (registry.replace s.collection (target.modify s.key fun _ => root)).rootAt?
              s.collection s.key = registry.rootAt? s.collection s.key
            rw [hsame, Registry.replace_self found]
          have narrates := runDirectives_narrates reports (.script context count index s)
            s.edits.length 0 root s.edits
          obtain ⟨d, hd, hedit, habout⟩ := narrates.exists_edit reports hroot
          exact ⟨d, List.mem_cons_of_mem _ (List.mem_cons_of_mem _ hd), hedit, habout⟩

end

/-! ## §4. The statement. -/

/-- The summaries of a report can be trusted. `items` are the overrides and scripts of the batch,
`edited` is the registry before the hooks run, `report` is the report, and `final` are the registry
and the hooks' state at the end. -/
structure Trustworthy (engine : Engine) (registry : Registry σ) (items : List Item) (state : σ)
    (edited : Registry σ) (report : Report) (final : Registry σ × σ) : Prop where
  /-- The report is clean if and only if everything succeeded that was asked for, each in the
  registry that it was reached with. -/
  clean : report.isClean = true ↔ ∀ (i : Nat) (item : Item), items[i]? = some item →
    item.Succeeds engine (registryBefore engine registry items i)
  /-- Without edits in the report, the registry and the hooks' state are what they were. -/
  idle : report.edits = [] → final = (registry, state)
  /-- A root that is another one, a new one or gone before the hooks run is in the report with an
  edit, and with one that carries a path unless it was exchanged or deleted as a whole. -/
  changed : ∀ name key, edited.rootAt? name key ≠ registry.rootAt? name key →
    (∃ d ∈ report.edits, d.collection = name ∧ d.key = key) ∧
      ((∀ (i : Nat) (item : Item), items[i]? = some item → item.collection = name →
          item.key = key → ¬ item.Swaps (registryBefore engine registry items i)) →
        ∃ d ∈ report.edits, d.collection = name ∧ d.key = key ∧ d.path.isSome = true)

section

variable {engine : Engine} {registry : Registry σ} {items : List Item} {report : Report}

theorem Report.mem_edits_iff {d : Diagnostic} :
    d ∈ report.edits ↔ d ∈ report.diagnostics ∧ d.kind = .edit := by
  unfold Report.edits Report.ofKind
  rw [List.mem_filter, decide_eq_true_iff]

theorem Report.isClean_iff :
    report.isClean = true ↔ ∀ d ∈ report.diagnostics, d.kind ≠ .attempt := by
  unfold Report.isClean Report.attempts Report.ofKind
  rw [List.isEmpty_iff, List.filter_eq_nil_iff]
  simp only [decide_eq_true_iff, ne_eq]

theorem diagnosticsOf_clean_iff (reports : engine.updaters.Reports) :
    (∀ d ∈ diagnosticsOf engine registry items, d.kind ≠ .attempt) ↔
      ∀ (i : Nat) (item : Item), items[i]? = some item →
        item.Succeeds engine (registryBefore engine registry items i) := by
  constructor
  · intro hclean i item hitem
    refine (Item.clean_iff reports _ item).mp ?_
    intro d hd
    exact hclean d (mem_diagnosticsOf_iff.mpr ⟨i, item, hitem, hd⟩)
  · intro hsucceeds d hd
    obtain ⟨i, item, hitem, hd⟩ := mem_diagnosticsOf_iff.mp hd
    exact (Item.clean_iff reports _ item).mpr (hsucceeds i item hitem) d hd

end

/-- **THE SUMMARIES OF A REPORT CAN BE TRUSTED.** -/
theorem summaries_trustworthy (engine : Engine) (reports : engine.updaters.Reports)
    (enabled : engine.config.enabled = true) (registry : Registry σ) (overlays : List Overlay)
    (state : σ) : Trustworthy engine registry (batchItems overlays) state
      (engine.runOverlays 0 ⟨registry, .empty, []⟩ overlays).registry
      (engine.applyOverlays registry overlays state).2.1.report
      ((engine.applyOverlays registry overlays state).1,
        (engine.applyOverlays registry overlays state).2.2) := by
  obtain ⟨_, touched, _, first, hbatch⟩ := applyOverlays_of_enabled enabled registry overlays state
  have hdiagnostics := applyOverlays_report enabled registry overlays state
  generalize (engine.applyOverlays registry overlays state).2.1.report = report
    at hdiagnostics ⊢
  have hedit {i : Nat} {item : Item} {d : Diagnostic} (hitem : (batchItems overlays)[i]? = some item)
      (hd : d ∈ (item.change engine
        (registryBefore engine registry (batchItems overlays) i)).diagnostics)
      (hkind : d.kind = .edit) : d ∈ report.edits := by
    rw [Report.mem_edits_iff, hdiagnostics, mem_diagnosticsOf_iff]
    exact ⟨⟨i, item, hitem, hd⟩, hkind⟩
  refine ⟨?_, ?_, ?_⟩
  · rw [Report.isClean_iff, hdiagnostics]
    exact diagnosticsOf_clean_iff reports
  · intro hnone
    have huntouched : ∀ i name, ¬ Touches engine registry (batchItems overlays) i name := by
      rintro i name ⟨item, hitem, _, htouched⟩
      obtain ⟨d, hd, hkind, _⟩ := Item.exists_edit_of_touched htouched
      have hmem := hedit hitem hd hkind
      rw [hnone] at hmem
      cases hmem
    rw [hbatch, first.eq_nil huntouched, registryAfter_of_untouched huntouched]
    rfl
  · intro name key hne
    rw [runOverlays_eq_foldl, foldl_run_registry] at hne
    obtain ⟨i, item, hitem, rfl, rfl, htouched, hchange⟩ := exists_touch_of_rootAt?_ne hne
    refine ⟨?_, ?_⟩
    · obtain ⟨d, hd, hkind, about⟩ := Item.exists_edit_of_touched htouched
      exact ⟨d, hedit hitem hd hkind, about.collection, about.key⟩
    · intro hkept
      obtain ⟨d, hd, hkind, path, about⟩ :=
        Item.exists_field_edit reports (hkept i item hitem rfl rfl) hchange
      refine ⟨d, hedit hitem hd hkind, about.collection, about.key, ?_⟩
      rw [about.path]
      rfl

/-- A preset whose switch is toggled by its host and whose slots gain an entry, in a batch in
which a second script finds no root. -/
theorem summaries_trustworthy_preset :
    let engine := Catalog.switching
    let registry : Registry (List String) := ⟨[("Preset", ⟨"Preset", .record "Preset",
      [("mech_a", Catalog.samplePreset)], [Catalog.countingHook "Preset" 0]⟩)]⟩
    let overlays : List Overlay := [⟨"first", [],
      [⟨"Preset", "mech_a", none, false, [⟨"slots.b", "!+"⟩, ⟨"enabled", "toggle"⟩]⟩,
        ⟨"Preset", "mech_b", none, true, []⟩]⟩]
    let report := (engine.applyOverlays registry overlays []).2.1.report
    engine.updaters.Reports ∧ engine.config.enabled = true ∧ report.isClean = false ∧
      report.edits.map (·.path) = [none, some "slots.b", some "enabled", some "enabled"] ∧
      Trustworthy engine registry (batchItems overlays) []
        (engine.runOverlays 0 ⟨registry, .empty, []⟩ overlays).registry report
        ((engine.applyOverlays registry overlays []).1,
          (engine.applyOverlays registry overlays []).2.2) := by
  intro engine registry overlays report
  have enabled : engine.config.enabled = true := rfl
  have clean : report.isClean = false := by decide +kernel
  have edits : report.edits.map (·.path)
      = [none, some "slots.b", some "enabled", some "enabled"] := by decide +kernel
  have trustworthy :=
    summaries_trustworthy engine Catalog.switching_reports enabled registry overlays []
  exact ⟨Catalog.switching_reports, enabled, clean, edits, trustworthy⟩

end ConfigGraph
