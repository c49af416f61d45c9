/-
  ConfigGraph.Proofs.Batch.Account
  ────────────────────────────────
  **THE REPORT ACCOUNTS FOR EVERYTHING.**

  `Recounts` says what the report of a batch is, item by item and directive
  by directive, without running anything but `apply`.  What an item comes to
  depends on what is in the registry at that moment, so the relation is about
  items in a registry, and the items after it are in the registry that it
  leaves.

  The part that does not follow from the shape of the program is that no
  directive goes unmentioned.  A directive that ends well has come through one
  of many places, each of which reports something (`apply_reports`); one that
  ends otherwise is mentioned for its end.

  Main results:
    * `apply_reports`
    * `runDirectives_narrates`, `Item.change_accounts`
    * `report_accounts`
-/
import Mathlib.Data.List.Forall2
import ConfigGraph.Catalog.Hooks
import ConfigGraph.Catalog.Samples
import ConfigGraph.Proofs.Application
import ConfigGraph.Proofs.Batch.Change
import ConfigGraph.Proofs.Batch.Sequence

namespace ConfigGraph

variable {σ : Type}

/-! ## §1. No directive goes unmentioned. -/

/-- A path that ends without a slot, and well, ends with a note. -/
theorem Lands.notes_ne_nil {schema : Schema} {root root' : Value} {before : List String}
    {last : String} {operation : Operation} {value : String} {notes : List Note} {status : Status}
    (h : Lands schema root before last operation value ⟨root', notes, .ok (.finished status)⟩) :
    notes ≠ [] := by
  cases h <;> exact List.cons_ne_nil _ _

/-- **WHAT ENDS WELL IS NOTED**: a directive that is neither skipped nor fails has notes. -/
theorem apply_reports {engine : Engine} (reports : engine.updaters.Reports) (root : Value)
    (directive : Directive) :
    (engine.apply root directive).2.notes ≠ [] ∨
      (engine.apply root directive).2.result = .ok .skipped ∨
      ∃ fault, (engine.apply root directive).2.result = .error fault := by
  rcases apply_cases engine directive with
    ⟨result, dismissed, happly⟩ | ⟨before, last, operation, value, asks⟩
  · rw [happly root]
    cases dismissed with
    | skipped _ => exact .inr (.inl rfl)
    | invalid _ => exact .inr (.inr ⟨_, rfl⟩)
  · rw [apply_eq_settle asks root]
    have lands := land_lands engine.schema root before last operation value
    generalize land engine.schema root (before ++ [last]) operation value = landing at lands ⊢
    obtain ⟨root', notes, result⟩ := landing
    unfold Engine.settle
    rcases result with fault | (⟨parent, slot⟩ | status)
    · exact .inr (.inr ⟨fault, rfl⟩)
    · simp only [Value.afterUpdate]
      -- What the updater of the kind leaves behind depends on the host, which keeps its promise.
      have reported := updateSlot_reported reports slot operation value notes
      generalize engine.updateSlot slot operation value notes = update at reported ⊢
      obtain ⟨slot', notes', result⟩ := update
      have hne {kind : NoteKind} (adds : Adds notes notes' kind) : notes' ≠ [] := by
        obtain ⟨added, hnotes, hadded, _⟩ := adds
        rw [show notes' = _ from hnotes]
        exact List.append_ne_nil_of_right_ne_nil _ hadded
      rcases result with fault | status
      · exact .inr (.inr ⟨fault, rfl⟩)
      · cases status with
        | edited => exact .inl (hne (reported.edited rfl))
        | unchanged => exact .inl (hne (reported.unchanged rfl).2)
        | skipped => exact .inr (.inl rfl)
    · exact .inl lands.notes_ne_nil

/-! ## §2. The account of a directive. -/

/-- The diagnostic is about this item, and about this field if there is one. -/
structure Diagnostic.About (d : Diagnostic) (item : Item) (path : Option String) : Prop where
  /-- The overlay of the item and its place. -/
  context : d.context = item.context
  /-- The collection of the item. -/
  collection : d.collection = item.collection
  /-- The key of the item. -/
  key : d.key = item.key
  /-- The path of the field. -/
  path : d.path = path

/-- What is said about the end of a directive, besides its notes. -/
def closing : Except Fault Status → List (DiagnosticKind × String)
  | .ok .edited | .ok .unchanged => []
  | .ok .skipped => [(.notice, "directive has an empty path or value")]
  | .error fault => [(.attempt, fault.message)]

/-- The block is the account of one directive's outcome: its notes in order, then its end. -/
structure Mentions (item : Item) (path : String) (outcome : Outcome) (block : List Diagnostic) :
    Prop where
  /-- There is something in it. -/
  nonempty : block ≠ []
  /-- All of it is about the field. -/
  about : ∀ d ∈ block, d.About item (some path)
  /-- The notes, and what is said about the end. -/
  contents : block.map (fun d => (d.kind, d.message))
    = outcome.notes.map (fun note => (note.kind.diagnosticKind, note.message)) ++
      closing outcome.result

/-- The account of directives that run on a root, each on what the one before it left. -/
inductive Narrates (engine : Engine) (item : Item) :
    Value → List Directive → List Diagnostic → Prop where
  | done (root : Value) : Narrates engine item root [] []
  | directive {root : Value} {directive : Directive} {rest : List Directive}
      {notice : Diagnostic} {block later : List Diagnostic}
      (about : notice.About item none) (kind : notice.kind = .notice)
      (mentions : Mentions item directive.path (engine.apply root directive).2 block)
      (narrates : Narrates engine item (engine.apply root directive).1 rest later) :
      Narrates engine item root (directive :: rest) (notice :: block ++ later)

theorem apply_mentions {engine : Engine} (reports : engine.updaters.Reports) (root : Value)
    (directive : Directive) (item : Item) :
    Mentions item directive.path (engine.apply root directive).2
      ((engine.apply root directive).2.diagnostics item.context item.collection item.key
        directive.path) := by
  have noted := apply_reports reports root directive
  generalize (engine.apply root directive).2 = outcome at noted ⊢
  obtain ⟨result, notes⟩ := outcome
  have hcontents : ((⟨result, notes⟩ : Outcome).diagnostics item.context item.collection item.key
        directive.path).map (fun d => (d.kind, d.message))
      = notes.map (fun note => (note.kind.diagnosticKind, note.message)) ++ closing result := by
    unfold Outcome.diagnostics
    rw [List.map_append, List.map_map]
    rcases result with fault | status
    · rfl
    · cases status <;> rfl
  refine ⟨?_, ?_, hcontents⟩
  -- An empty block would have neither notes nor a closing line, but one of them is there.
  · intro hnil
    rw [hnil, List.map_nil, eq_comm, List.append_eq_nil_iff, List.map_eq_nil_iff] at hcontents
    obtain ⟨hnotes, hclosing⟩ := hcontents
    rcases noted with hnoted | hskipped | ⟨fault, hfailed⟩
    · exact hnoted hnotes
    · rw [show result = _ from hskipped] at hclosing
      cases hclosing
    · rw [show result = _ from hfailed] at hclosing
      cases hclosing
  · intro d hd
    unfold Outcome.diagnostics at hd
    rcases List.mem_append.mp hd with hnote | hend
    · obtain ⟨note, _, rfl⟩ := List.mem_map.mp hnote
      exact ⟨rfl, rfl, rfl, rfl⟩
    · rcases result with fault | status
      · rw [List.mem_singleton.mp hend]
        exact ⟨rfl, rfl, rfl, rfl⟩
      · cases status with
        | skipped =>
            rw [List.mem_singleton.mp hend]
            exact ⟨rfl, rfl, rfl, rfl⟩
        | edited | unchanged => cases hend

theorem runDirectives_narrates {engine : Engine} (reports : engine.updaters.Reports) (item : Item)
    (count index : Nat) (root : Value) (directives : List Directive) :
    Narrates engine item root directives
      (engine.runDirectives item.context item.collection item.key count index root
        directives).2 := by
  -- The number in the notice and the root change from directive to directive.
  induction directives generalizing index root with
  | nil => exact .done root
  | cons directive rest ih =>
      exact .directive ⟨rfl, rfl, rfl, rfl⟩ rfl (apply_mentions reports root directive item)
        (ih (index + 1) (engine.apply root directive).1)

/-! ## §3. The account of an item. -/

/-- The root at an address of a registry. -/
def Registry.rootAt? (registry : Registry σ) (name key : String) : Option Value :=
  (registry.find? name).bind (·.find? key)

/-- The account of a script behind its notice. -/
inductive Acts (engine : Engine) (registry : Registry σ) (item : Item) (s : EditScript) :
    List Diagnostic → Prop where
  /-- One attempt, if the collection is unknown or has no such root. -/
  | absent {d : Diagnostic} (missing : registry.rootAt? s.collection s.key = none)
      (about : d.About item none) (kind : d.kind = .attempt) : Acts engine registry item s [d]
  /-- One edit, if the root is deleted. -/
  | removed {root : Value} {d : Diagnostic}
      (present : registry.rootAt? s.collection s.key = some root) (removing : s.removed = true)
      (about : d.About item none) (kind : d.kind = .edit) : Acts engine registry item s [d]
  /-- Nothing, if there are no directives. -/
  | idle {root : Value} (present : registry.rootAt? s.collection s.key = some root)
      (editing : s.removed = false) (empty : s.edits = []) : Acts engine registry item s []
  /-- One edit, and then the account of the directives. -/
  | edited {root : Value} {d : Diagnostic} {later : List Diagnostic}
      (present : registry.rootAt? s.collection s.key = some root) (editing : s.removed = false)
      (nonempty : s.edits ≠ []) (about : d.About item none) (kind : d.kind = .edit)
      (narrates : Narrates engine item root s.edits later) :
      Acts engine registry item s (d :: later)

/-- The account of an item in the registry of that moment. -/
inductive Accounts (engine : Engine) (registry : Registry σ) : Item → List Diagnostic → Prop where
  /-- One edit, if the collection takes the root. -/
  | stored {context : OverlayContext} {o : Override} {target : Collection σ} {root : Value}
      {d : Diagnostic} (found : registry.find? o.collection = some target)
      (converts : o.root.convert target.shape = .ok root)
      (about : d.About (.override context o) none) (kind : d.kind = .edit) :
      Accounts engine registry (.override context o) [d]
  /-- One attempt, if the collection is unknown or does not take the root. -/
  | refused {context : OverlayContext} {o : Override} {d : Diagnostic}
      (refuses : ∀ target, registry.find? o.collection = some target →
        ∃ cause, o.root.convert target.shape = .error cause)
      (about : d.About (.override context o) none) (kind : d.kind = .attempt) :
      Accounts engine registry (.override context o) [d]
  /-- A notice, and then what the script does. -/
  | script {context : OverlayContext} {count index : Nat} {s : EditScript} {notice : Diagnostic}
      {rest : List Diagnostic} (about : notice.About (.script context count index s) none)
      (kind : notice.kind = .notice)
      (acts : Acts engine registry (.script context count index s) s rest) :
      Accounts engine registry (.script context count index s) (notice :: rest)

/-- **EVERY ITEM IS ACCOUNTED FOR.** -/
theorem Item.change_accounts {engine : Engine} (reports : engine.updaters.Reports)
    (registry : Registry σ) (item : Item) :
    Accounts engine registry item (item.change engine registry).diagnostics := by
  cases item with
  | override context o =>
      have overrides := applyOverride_overrides context registry o
      show Accounts engine registry _ (Engine.applyOverride context registry o).diagnostics
      generalize Engine.applyOverride context registry o = change at overrides
      cases overrides with
      | unknown missing =>
          refine .refused ?_ ⟨rfl, rfl, rfl, rfl⟩ rfl
          intro target found
          rw [missing] at found
          cases found
      | refused found refuses =>
          refine .refused ?_ ⟨rfl, rfl, rfl, rfl⟩ rfl
          intro target found'
          rw [found] at found'
          injection found' with found'
          exact ⟨_, found' ▸ refuses⟩
      | stored found converts => exact .stored found converts ⟨rfl, rfl, rfl, rfl⟩ rfl
  | script context count index s =>
      refine .script ⟨rfl, rfl, rfl, rfl⟩ rfl ?_
      have scripts := applyScript_scripts engine context registry s
      show Acts engine registry _ s (engine.applyScript context registry s).diagnostics
      generalize engine.applyScript context registry s = change at scripts
      -- The relation speaks of the root that is there, the program of the collection first.
      have hroot {target : Collection σ} (found : registry.find? s.collection = some target) :
          registry.rootAt? s.collection s.key = target.find? s.key := by
        rw [Registry.rootAt?, found]
        rfl
      cases scripts with
      | unknown missing =>
          refine .absent ?_ ⟨rfl, rfl, rfl, rfl⟩ rfl
          rw [Registry.rootAt?, missing]
          rfl
      | absent found missing =>
          exact .absent ((hroot found).trans missing) ⟨rfl, rfl, rfl, rfl⟩ rfl
      | removed found present removing =>
          exact .removed ((hroot found).trans present) removing ⟨rfl, rfl, rfl, rfl⟩ rfl
      | idle found present editing empty =>
          exact .idle ((hroot found).trans present) editing empty
      | edited found present editing nonempty =>
          exact .edited ((hroot found).trans present) editing nonempty ⟨rfl, rfl, rfl, rfl⟩ rfl
            (runDirectives_narrates reports (.script context count index s) _ 0 _ s.edits)

/-! ## §4. The account of a batch. -/

/-- The account of items in a row, each in the registry that the one before it left. -/
inductive Recounts (engine : Engine) : Registry σ → List Item → List Diagnostic → Prop where
  | done (registry : Registry σ) : Recounts engine registry [] []
  | item {registry : Registry σ} {item : Item} {rest : List Item}
      {block later : List Diagnostic} (accounts : Accounts engine registry item block)
      (recounts : Recounts engine (item.change engine registry).registry rest later) :
      Recounts engine registry (item :: rest) (block ++ later)

theorem diagnosticsOf_recounts {engine : Engine} (reports : engine.updaters.Reports)
    (registry : Registry σ) (items : List Item) :
    Recounts engine registry items (diagnosticsOf engine registry items) := by
  induction items generalizing registry with
  | nil => exact .done registry
  | cons item rest ih =>
      exact .item (Item.change_accounts reports registry item)
        (ih (item.change engine registry).registry)

/-! ## §5. Events. -/

/-- The event tells a listener what the diagnostic tells a reader of the report. -/
structure Diagnostic.HeardAs (d : Diagnostic) (event : Event) : Prop where
  /-- A change is news, what is refused or ignored is a warning, and the rest is progress. -/
  level : event.level = match d.kind with
    | .edit => .info
    | .attempt => .warn
    | .notice => .debug
  /-- About a root there is the line itself, behind the overlay. -/
  line : d.path = none → event.message
    = "Overlay " ++ Text.ofNat d.context.index ++ " (" ++ d.context.overlay ++ ") " ++ d.message
  /-- About a field the line says in front which field it is, and of which root. -/
  fieldLine : ∀ path, d.path = some path → event.message
    = "Overlay " ++ Text.ofNat d.context.index ++ " (" ++ d.context.overlay ++ ") " ++
      (d.kind.verb ++ " config " ++ d.key ++ " of type " ++ d.collection ++ ", field " ++ path ++
        " | " ++ d.message)
  /-- Everything that the diagnostic knows about its place goes with the event. -/
  fields : event.fields
    = [("overlay", d.context.overlay), ("overlay_index", Text.ofNat d.context.index),
       ("collection", d.collection), ("key", d.key), ("path", d.path.getD "")]

theorem Diagnostic.heardAs_event (d : Diagnostic) : d.HeardAs d.event := by
  constructor
  case level =>
    show d.kind.level = _
    cases d.kind <;> rfl
  case line =>
    intro hpath
    show d.line = _
    simp only [Diagnostic.line, hpath]
  case fieldLine =>
    intro path hpath
    show d.line = _
    simp only [Diagnostic.line, hpath]
  case fields => rfl

/-- Diagnostics in a row are heard in their order. -/
theorem heardAs_map_event (ds : List Diagnostic) :
    List.Forall₂ Diagnostic.HeardAs ds (ds.map Diagnostic.event) := by
  rw [List.forall₂_map_right_iff, List.forall₂_same]
  exact fun d _ => d.heardAs_event

theorem pushAll_eq (journal : Journal) (ds : List Diagnostic) :
    journal.pushAll ds
      = ⟨⟨journal.report.diagnostics ++ ds⟩, journal.events ++ ds.map Diagnostic.event⟩ := by
  induction ds generalizing journal with
  | nil => simp [Journal.pushAll]
  | cons d rest ih =>
      show (journal.push d).pushAll rest = _
      rw [ih]
      simp [Journal.push]

/-- A collection is listed once, however often it is touched. -/
theorem nodup_touched (engine : Engine) (batch : BatchState σ) (items : List Item)
    (h : batch.touched.Nodup) : (items.foldl (Item.run engine) batch).touched.Nodup := by
  induction items generalizing batch with
  | nil => exact h
  | cons item rest ih =>
      refine ih (item.run engine batch) ?_
      show (if _ ∧ item.collection ∉ batch.touched then batch.touched ++ [item.collection]
        else batch.touched).Nodup
      split
      -- A name joins the list only if it is not in it.
      · rename_i hnew
        rw [← List.concat_eq_append]
        exact h.concat hnew.2
      · exact h

/-- Hooks report nothing; each collection whose hooks run is heard of once. -/
theorem runTouched_journal (registry : Registry σ) (journal : Journal) (state : σ)
    (touched : List String) :
    ∃ hooks : List (String × Nat), (hooks.map (·.1)).Sublist touched ∧
      (Engine.runTouched registry journal state touched).2.1
        = ⟨journal.report, journal.events ++ hooks.map fun (name, size) => .hooks name size⟩ := by
  induction touched generalizing registry journal state with
  | nil => exact ⟨[], .slnil, by simp [Engine.runTouched]⟩
  | cons name rest ih =>
      unfold Engine.runTouched
      split
      · obtain ⟨hooks, hsub, hjournal⟩ := ih registry journal state
        exact ⟨hooks, hsub.cons _, hjournal⟩
      · rename_i collection _
        obtain ⟨hooks, hsub, hjournal⟩ := ih
          (registry.replace name (collection.finishBatch state).1)
          (journal.hear (.hooks name collection.size)) (collection.finishBatch state).2
        refine ⟨(name, collection.size) :: hooks, hsub.cons_cons _, hjournal.trans ?_⟩
        simp [Journal.hear]

/-- **THE REPORT ACCOUNTS FOR EVERYTHING**, and so do the events: the diagnostics are the accounts
of the items in their order, and what is heard is one event for each diagnostic in the same order,
and after them one for each collection whose hooks run. -/
theorem report_accounts (engine : Engine) (reports : engine.updaters.Reports)
    (enabled : engine.config.enabled = true) (registry : Registry σ) (overlays : List Overlay)
    (state : σ) :
    Recounts engine registry (batchItems overlays)
        (engine.applyOverlays registry overlays state).2.1.report.diagnostics ∧
      ∃ (heard : List Event) (hooks : List (String × Nat)),
        (engine.applyOverlays registry overlays state).2.1.events
          = heard ++ hooks.map (fun (name, size) => .hooks name size) ∧
        List.Forall₂ Diagnostic.HeardAs
          (engine.applyOverlays registry overlays state).2.1.report.diagnostics heard ∧
        (hooks.map (·.1)).Nodup := by
  have hnodup := nodup_touched engine (⟨registry, .empty, []⟩ : BatchState σ) (batchItems overlays)
    .nil
  unfold Engine.applyOverlays
  rw [if_pos enabled, runOverlays_eq_foldl]
  simp only []
  generalize hbatch : (batchItems overlays).foldl (Item.run engine) ⟨registry, .empty, []⟩ = batch
    at hnodup ⊢
  have hjournal : batch.journal = _ :=
    (congrArg BatchState.journal hbatch).symm.trans (foldl_run_journal engine _ _)
  -- The items leave one event for each diagnostic, and the hooks add theirs behind them.
  rw [pushAll_eq] at hjournal
  obtain ⟨hooks, hsub, hafter⟩ := runTouched_journal batch.registry batch.journal state batch.touched
  rw [hafter, hjournal]
  exact ⟨diagnosticsOf_recounts reports registry (batchItems overlays), _, hooks, rfl,
    heardAs_map_event _, hsub.nodup hnodup⟩

/-! ## §6. A host. -/

theorem Catalog.toggling_reports : Catalog.toggling.Reports := by
  intro context
  have hfailed (fault : Fault) :
      Update.Reported context.notes ⟨none, context.notes, .error fault⟩ :=
    Update.reported_of context.notes (.error fault)
  unfold Catalog.toggling
  simp only []
  split
  · split
    · split
      · refine ⟨fun _ => ⟨_, rfl, List.cons_ne_nil _ _, ?_⟩, nofun, nofun, nofun⟩
        simp
      · exact hfailed _
    · exact hfailed _
  · exact Update.reported_of context.notes (.ok (.kept "There is no switch to toggle"))

/-- The host of the catalogue keeps the report contract. -/
theorem Catalog.switching_reports : Catalog.switching.updaters.Reports :=
  UpdaterTable.Each.register UpdaterTable.builtIn_standard.reports .bool toggling_reports

/-- An override that is refused, a script that deletes a root, one that then misses it, and one
whose directives end in each of the four ways; a switch is toggled with two notes. -/
theorem report_accounts_preset :
    let engine := Catalog.switching
    let registry : Registry (List String) :=
      ⟨[("Numbers", ⟨"Numbers", .int, [("one", .int 1)], []⟩),
        ("Preset", ⟨"Preset", .record "Preset", [("mech_a", Catalog.samplePreset)],
          [Catalog.countingHook "Preset" 0]⟩)]⟩
    let overlay : Overlay := ⟨"first", [⟨"Numbers", "two", .text "2"⟩],
      [⟨"Numbers", "one", none, true, []⟩, ⟨"Numbers", "one", none, false, [⟨"x", "1"⟩]⟩,
        ⟨"Preset", "mech_a", none, false, [⟨"enabled", "toggle"⟩, ⟨"count", "seven"⟩, ⟨"name", ""⟩,
          ⟨"tags", "light!+"⟩]⟩]⟩
    let journal := (engine.applyOverlays registry [overlay] []).2.1
    engine.updaters.Reports ∧ engine.config.enabled = true ∧
      journal.report.diagnostics.map (fun d => (d.kind, d.path))
        = [(.attempt, none), (.notice, none), (.edit, none), (.notice, none), (.attempt, none),
           (.notice, none), (.edit, none),
           (.notice, none), (.edit, some "enabled"), (.edit, some "enabled"),
           (.notice, none), (.attempt, some "count"),
           (.notice, none), (.notice, some "name"),
           (.notice, none), (.attempt, some "tags")] ∧
      Recounts engine registry (batchItems [overlay]) journal.report.diagnostics ∧
      ∃ (heard : List Event) (hooks : List (String × Nat)),
        journal.events = heard ++ hooks.map (fun (name, size) => .hooks name size) ∧
        List.Forall₂ Diagnostic.HeardAs journal.report.diagnostics heard ∧
        (hooks.map (·.1)).Nodup := by
  intro engine registry overlay journal
  have enabled : engine.config.enabled = true := rfl
  have accounts :=
    report_accounts engine Catalog.switching_reports enabled registry [overlay] []
  have hjournal : (engine.applyOverlays registry [overlay] []).2.1 = journal := rfl
  rw [hjournal] at accounts
  exact ⟨Catalog.switching_reports, enabled, by decide +kernel, accounts⟩

end ConfigGraph
