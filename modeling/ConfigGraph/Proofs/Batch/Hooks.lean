/-
  ConfigGraph.Proofs.Batch.Hooks
  ────────────────────────────────
  **HOOKS RUN LAST, EACH ONCE ON EACH ROOT, AND ONLY WHERE A BATCH TOUCHED.**

  The hooks of a batch run in three nested loops: over the touched
  collections, over the roots of each, over the hooks of each.  What the
  loops come to is one row of calls.  A call is a hook, by its number, on the
  root at a key of a collection; `HookCall.run` looks the three up in the
  registry of that moment and puts back what the hook returns.

  The row is not described by the loops.  It holds the calls that are due,
  each once, and it is in order: collections by their first touch, then roots
  by key, then hooks by number.  There is only one such row.  Running it from
  the registry that the items left is what the batch does after them, and
  that registry would be the same with any other hooks, or none.

  Main results:
    * `Registry.mem_calls_iff`, `Registry.pairwise_calls`
    * `foldl_finish_eq_foldl_run` — three loops are one row
    * `registryAfter_withHooks` — items do not see hooks
    * `hooks_run_last`
-/
import ConfigGraph.Proofs.Batch.Moments

namespace ConfigGraph

variable {σ : Type}

/-! ## §1. Calls. -/

/-- One run of one hook. -/
structure HookCall where
  /-- The name of the collection. -/
  collection : String
  /-- The key of the root. -/
  key : String
  /-- The number of the hook, in the order of registration. -/
  number : Nat
  deriving Repr, DecidableEq

namespace HookCall

/-- What a call makes of a registry and of the hooks' state. The hook is given the root that is
there at that moment. -/
def run (done : Registry σ × σ) (call : HookCall) : Registry σ × σ :=
  match done.1.find? call.collection with
  | none => done
  | some collection =>
      match collection.find? call.key, collection.hooks[call.number]? with
      | some root, some hook =>
          let (root', state') := hook call.key root done.2
          (done.1.replace call.collection (collection.modify call.key fun _ => root'), state')
      | _, _ => done

/-- The call is one that a batch owes to the registry that its items left: the collection was
touched, and it has the root and the hook. -/
structure Due (registry : Registry σ) (touched : List String) (call : HookCall) : Prop where
  /-- The collection was touched. -/
  touched : call.collection ∈ touched
  /-- There are such a root and such a hook. -/
  registered : ∃ collection, registry.find? call.collection = some collection ∧
    (collection.find? call.key).isSome = true ∧ call.number < collection.hooks.length

/-- The order of calls: by collection in the order of touching, then by key, then by hook. -/
def Before (touched : List String) (call later : HookCall) : Prop :=
  [call.collection, later.collection].Sublist touched ∨
    call.collection = later.collection ∧
      (call.key < later.key ∨ call.key = later.key ∧ call.number < later.number)

/-- No call comes before itself, if no collection is listed twice. -/
theorem not_before_self {touched : List String} (nodup : touched.Nodup) (call : HookCall) :
    ¬ Before touched call call := by
  rintro (hsub | ⟨_, hkey | ⟨_, hnumber⟩⟩)
  · have htwice := hsub.nodup nodup
    simp at htwice
  · exact String.lt_irrefl _ hkey
  · exact Nat.lt_irrefl _ hnumber

theorem run_eq {registry : Registry σ} {collection : Collection σ} {name key : String}
    {number : Nat} {root : Value} {hook : Hook σ} (found : registry.find? name = some collection)
    (present : collection.find? key = some root) (registered : collection.hooks[number]? = some hook)
    (state : σ) :
    run (registry, state) ⟨name, key, number⟩
      = (registry.replace name (collection.modify key fun _ => (hook key root state).1),
          (hook key root state).2) := by
  simp only [run, found, present, registered]

end HookCall

/-- The calls of a collection under its name. -/
def Collection.calls (collection : Collection σ) (name : String) : List HookCall :=
  collection.entries.flatMap fun entry =>
    (List.range' 0 collection.hooks.length).map fun number => ⟨name, entry.1, number⟩

/-- The calls of the collection of a name, if there is one. -/
def Registry.callsOf (registry : Registry σ) (name : String) : List HookCall :=
  match registry.find? name with
  | none => []
  | some collection => collection.calls name

/-- The calls of the touched collections of a registry. -/
def Registry.calls (registry : Registry σ) (touched : List String) : List HookCall :=
  touched.flatMap registry.callsOf

section

variable {registry : Registry σ} {collection : Collection σ} {touched : List String}
  {name : String} {call : HookCall}

theorem Collection.mem_calls_iff : call ∈ collection.calls name ↔ call.collection = name ∧
    (collection.find? call.key).isSome = true ∧ call.number < collection.hooks.length := by
  unfold Collection.calls Collection.find?
  rw [List.mem_flatMap, Ordered.find?_isSome_iff]
  constructor
  · rintro ⟨entry, hentry, hcall⟩
    obtain ⟨number, hnumber, rfl⟩ := List.mem_map.mp hcall
    have hlt : number < collection.hooks.length := by
      rw [List.mem_range'_1] at hnumber
      omega
    exact ⟨rfl, List.mem_map_of_mem hentry, hlt⟩
  · rintro ⟨hname, hkey, hnumber⟩
    obtain ⟨entry, hentry, heq⟩ := List.mem_map.mp hkey
    refine ⟨entry, hentry, List.mem_map.mpr ⟨call.number, ?_, ?_⟩⟩
    · rw [List.mem_range'_1]
      omega
    · rw [← hname, heq]

theorem Registry.mem_callsOf_iff : call ∈ registry.callsOf name ↔ call.collection = name ∧
    ∃ collection, registry.find? name = some collection ∧
      (collection.find? call.key).isSome = true ∧ call.number < collection.hooks.length := by
  unfold Registry.callsOf
  cases hfound : registry.find? name with
  | none => simp
  | some collection => simp [Collection.mem_calls_iff]

/-- **THE CALLS ARE THOSE THAT ARE DUE.** -/
theorem Registry.mem_calls_iff :
    call ∈ registry.calls touched ↔ call.Due registry touched := by
  unfold Registry.calls
  rw [List.mem_flatMap]
  constructor
  · rintro ⟨name, hname, hcall⟩
    obtain ⟨rfl, hregistered⟩ := Registry.mem_callsOf_iff.mp hcall
    exact ⟨hname, hregistered⟩
  · rintro ⟨htouched, hregistered⟩
    exact ⟨call.collection, htouched, Registry.mem_callsOf_iff.mpr ⟨rfl, hregistered⟩⟩

theorem Collection.pairwise_calls (ascending : collection.Ascending) (touched : List String)
    (name : String) : (collection.calls name).Pairwise (HookCall.Before touched) := by
  unfold Collection.calls
  rw [List.pairwise_flatMap]
  refine ⟨?_, ?_⟩
  -- On one root, by number; from root to root, by key.
  · intro entry _
    rw [List.pairwise_map]
    have hrange : (List.range' 0 collection.hooks.length).Pairwise (· < ·) :=
      List.pairwise_lt_range'
    exact hrange.imp fun hlt => .inr ⟨rfl, .inr ⟨rfl, hlt⟩⟩
  · refine (List.pairwise_map.mp ascending).imp ?_
    intro entry later hlt call hcall call' hcall'
    obtain ⟨_, _, rfl⟩ := List.mem_map.mp hcall
    obtain ⟨_, _, rfl⟩ := List.mem_map.mp hcall'
    exact .inr ⟨rfl, .inl hlt⟩

/-- **THE CALLS ARE IN ORDER.** -/
theorem Registry.pairwise_calls (ascending : registry.Ascending) (touched : List String) :
    (registry.calls touched).Pairwise (HookCall.Before touched) := by
  unfold Registry.calls
  rw [List.pairwise_flatMap]
  refine ⟨?_, ?_⟩
  · intro name _
    unfold Registry.callsOf
    cases hfound : registry.find? name with
    | none => exact .nil
    | some collection => exact Collection.pairwise_calls (ascending.find? hfound) touched name
  · rw [List.pairwise_iff_forall_sublist]
    intro name later hsub call hcall call' hcall'
    obtain ⟨rfl, _⟩ := Registry.mem_callsOf_iff.mp hcall
    obtain ⟨rfl, _⟩ := Registry.mem_callsOf_iff.mp hcall'
    exact .inl hsub

end

/-! ## §2. Three loops are one row. -/

/-- What finishing the collection of a name makes of a registry and of the hooks' state. -/
def Registry.finish (done : Registry σ × σ) (name : String) : Registry σ × σ :=
  match done.1.find? name with
  | none => done
  | some collection =>
      let (collection', state') := collection.finishBatch done.2
      (done.1.replace name collection', state')

section

variable {registry : Registry σ} {collection : Collection σ} {name : String}

/-- The hooks of one root, from the one behind those that have run. -/
theorem foldl_run_hooks {key : String} {root : Value} (used rest : List (Hook σ))
    (found : registry.find? name = some collection) (present : collection.find? key = some root)
    (hooks : collection.hooks = used ++ rest) (state : σ) :
    ((List.range' used.length rest.length).map (HookCall.mk name key)).foldl HookCall.run
        (registry, state)
      = (registry.replace name
            (collection.modify key fun _ => (Collection.runHooks key rest root state).1),
          (Collection.runHooks key rest root state).2) := by
  induction rest generalizing registry collection root used state with
  | nil =>
      show (registry, state) = (registry.replace name (collection.modify key fun _ => root), state)
      have hsame : (collection.modify key fun _ => root) = collection := by
        unfold Collection.modify
        rw [Ordered.modify_eq_self present rfl]
      rw [hsame, Registry.replace_self found]
  | cons hook rest ih =>
      have hnumber : collection.hooks[used.length]? = some hook := by
        rw [hooks, List.getElem?_append_right (Nat.le_refl _), Nat.sub_self]
        rfl
      rw [List.length_cons, List.range'_succ, List.map_cons, List.foldl_cons,
        HookCall.run_eq found present hnumber]
      -- The next hook finds the root that this one has put there.
      have hpresent : (collection.modify key fun _ => (hook key root state).1).find? key
          = some (hook key root state).1 := by
        unfold Collection.find? Collection.modify
        unfold Collection.find? at present
        rw [Ordered.find?_modify_self, present]
        rfl
      have hhooks : collection.hooks = (used ++ [hook]) ++ rest := by
        rw [List.append_assoc]
        exact hooks
      have hrest := ih (used ++ [hook]) (Registry.find?_replace_self found _) hpresent hhooks
        (hook key root state).2
      rw [List.length_append, List.length_singleton] at hrest
      rw [hrest, Registry.replace_replace]
      simp only [Collection.modify, Ordered.modify_modify_self, Collection.runHooks]

/-- The roots of one collection, from the one behind those whose hooks have run. -/
theorem foldl_run_entries {hooks : List (Hook σ)} (seen rest : List (String × Value))
    (found : registry.find? name = some collection) (ascending : collection.Ascending)
    (entries : collection.entries = seen ++ rest) (registered : collection.hooks = hooks)
    (state : σ) :
    (rest.flatMap fun entry =>
        (List.range' 0 hooks.length).map (HookCall.mk name entry.1)).foldl HookCall.run
        (registry, state)
      = (registry.replace name
            { collection with entries := seen ++ (Collection.runEntries hooks rest state).1 },
          (Collection.runEntries hooks rest state).2) := by
  induction rest generalizing registry collection seen state with
  | nil =>
      show (registry, state) = (registry.replace name { collection with entries := seen ++ [] }, state)
      rw [← entries, Registry.replace_self found]
  | cons entry rest ih =>
      obtain ⟨key, root⟩ := entry
      -- Keys ascend, so the key is none of those in front of it.
      have hnew : key ∉ seen.map (·.1) := by
        intro hmem
        unfold Collection.Ascending at ascending
        rw [entries, List.map_append, List.pairwise_append] at ascending
        exact String.lt_irrefl key (ascending.2.2 key hmem key List.mem_cons_self)
      have hpresent : collection.find? key = some root := by
        unfold Collection.find?
        rw [entries, Ordered.find?_append hnew, Ordered.find?, if_pos rfl]
      have hroot := foldl_run_hooks [] hooks found hpresent registered state
      rw [List.length_nil] at hroot
      rw [List.flatMap_cons, List.foldl_append, hroot]
      generalize hdone : Collection.runHooks key hooks root state = done
      have hentries : (collection.modify key fun _ => done.1).entries
          = (seen ++ [(key, done.1)]) ++ rest := by
        unfold Collection.modify
        rw [entries, Ordered.modify_append hnew, Ordered.modify, if_pos rfl, List.append_assoc]
        rfl
      rw [ih _ (Registry.find?_replace_self found _) (ascending.modify key _) hentries registered,
        Registry.replace_replace]
      simp only [Collection.runEntries, hdone, Collection.modify, List.append_assoc,
        List.singleton_append]

/-- **FINISHING A COLLECTION IS RUNNING ITS CALLS.** The calls may be those of another registry
that has the same collection under the name. -/
theorem foldl_run_callsOf {origin : Registry σ} (ascending : origin.Ascending)
    (same : registry.find? name = origin.find? name) (state : σ) :
    (origin.callsOf name).foldl HookCall.run (registry, state)
      = Registry.finish (registry, state) name := by
  unfold Registry.callsOf
  cases hfound : origin.find? name with
  | none =>
      rw [hfound] at same
      simp only [Registry.finish, same]
      rfl
  | some collection =>
      rw [hfound] at same
      unfold Collection.calls
      rw [foldl_run_entries [] collection.entries same (ascending.find? hfound) rfl rfl state]
      simp only [Registry.finish, same]
      rfl

theorem find?_finish_of_ne {other : String} (hne : other ≠ name) (done : Registry σ × σ) :
    (Registry.finish done name).1.find? other = done.1.find? other := by
  unfold Registry.finish
  split
  · rfl
  · exact Registry.find?_replace_of_ne hne _ _

theorem names_finish (done : Registry σ × σ) (name : String) :
    (Registry.finish done name).1.names = done.1.names := by
  unfold Registry.finish
  split
  · rfl
  · exact Registry.names_replace _ _ _

end

/-- **THREE LOOPS ARE ONE ROW OF CALLS.** The calls are those of the registry before the first
collection is finished, because finishing one leaves the others alone. -/
theorem foldl_finish_eq_foldl_run {origin registry : Registry σ} (ascending : origin.Ascending)
    {touched : List String} (nodup : touched.Nodup)
    (same : ∀ name ∈ touched, registry.find? name = origin.find? name) (state : σ) :
    touched.foldl Registry.finish (registry, state)
      = (origin.calls touched).foldl HookCall.run (registry, state) := by
  induction touched generalizing registry state with
  | nil => rfl
  | cons name rest ih =>
      obtain ⟨hname, hrest⟩ := List.nodup_cons.mp nodup
      have hfirst := foldl_run_callsOf ascending (same name List.mem_cons_self) state
      unfold Registry.calls
      rw [List.flatMap_cons, List.foldl_append, List.foldl_cons, hfirst]
      have hsame : ∀ other ∈ rest,
          (Registry.finish (registry, state) name).1.find? other = origin.find? other := by
        intro other hother
        have hne : other ≠ name := fun heq => hname (heq ▸ hother)
        rw [find?_finish_of_ne hne]
        exact same other (List.mem_cons_of_mem _ hother)
      generalize Registry.finish (registry, state) name = done at hsame ⊢
      exact ih hrest hsame done.2

/-- Finishing collections changes no other collection, and no name. -/
theorem foldl_finish_apart (touched : List String) (done : Registry σ × σ) :
    (touched.foldl Registry.finish done).1.names = done.1.names ∧
      ∀ other, other ∉ touched →
        (touched.foldl Registry.finish done).1.find? other = done.1.find? other := by
  induction touched generalizing done with
  | nil => exact ⟨rfl, fun _ _ => rfl⟩
  | cons name rest ih =>
      obtain ⟨hnames, hfind⟩ := ih (Registry.finish done name)
      refine ⟨hnames.trans (names_finish done name), ?_⟩
      intro other hother
      rw [List.mem_cons, not_or] at hother
      exact (hfind other hother.2).trans (find?_finish_of_ne hother.1 done)

/-- What the engine does after the items is to finish the touched collections. -/
theorem runTouched_eq_foldl (registry : Registry σ) (journal : Journal) (state : σ)
    (touched : List String) :
    ((Engine.runTouched registry journal state touched).1,
        (Engine.runTouched registry journal state touched).2.2)
      = touched.foldl Registry.finish (registry, state) := by
  induction touched generalizing registry journal state with
  | nil => rfl
  | cons name rest ih =>
      unfold Engine.runTouched
      rw [List.foldl_cons]
      cases hfound : registry.find? name with
      | none =>
          simp only [Registry.finish, hfound]
          exact ih registry journal state
      | some collection =>
          simp only [Registry.finish, hfound]
          exact ih _ _ _

/-! ## §3. Items do not see hooks. -/

/-- The collection with other hooks. -/
def Collection.withHooks {τ : Type} (collection : Collection σ) (hooks : List (Hook τ)) :
    Collection τ :=
  ⟨collection.name, collection.shape, collection.entries, hooks⟩

/-- The registry with other hooks for the collections of each name. -/
def Registry.withHooks {τ : Type} (registry : Registry σ) (hooks : String → List (Hook τ)) :
    Registry τ :=
  ⟨registry.collections.map fun entry => (entry.1, entry.2.withHooks (hooks entry.1))⟩

/-- The change with other hooks in the registry that it leaves. -/
def Change.withHooks {τ : Type} (change : Change σ) (hooks : String → List (Hook τ)) : Change τ :=
  ⟨change.registry.withHooks hooks, change.diagnostics, change.touched⟩

section

variable {τ : Type} (hooks : String → List (Hook τ))

theorem Registry.find?_withHooks (registry : Registry σ) (name : String) :
    (registry.withHooks hooks).find? name
      = (registry.find? name).map (·.withHooks (hooks name)) :=
  Ordered.find?_map (fun name (collection : Collection σ) => collection.withHooks (hooks name)) name _

theorem Registry.replace_withHooks (registry : Registry σ) (name : String)
    (collection : Collection σ) :
    (registry.withHooks hooks).replace name (collection.withHooks (hooks name))
      = (registry.replace name collection).withHooks hooks :=
  congrArg Registry.mk
    (Ordered.modify_map (fun name (collection : Collection σ) => collection.withHooks (hooks name))
      name collection _)

theorem applyOverride_withHooks (context : OverlayContext) (registry : Registry σ) (o : Override) :
    Engine.applyOverride context (registry.withHooks hooks) o
      = (Engine.applyOverride context registry o).withHooks hooks := by
  have overrides := applyOverride_overrides context registry o
  have hfind := registry.find?_withHooks hooks o.collection
  generalize Engine.applyOverride context registry o = change at overrides ⊢
  cases overrides with
  | unknown missing =>
      rw [missing] at hfind
      exact Overrides.eq (.unknown hfind)
  | refused found refuses =>
      rw [found] at hfind
      exact Overrides.eq (.refused hfind refuses)
  | @stored target root found converts =>
      rw [found] at hfind
      rw [Overrides.eq (.stored hfind converts)]
      show Change.mk _ _ _ = Change.mk _ _ _
      rw [← Registry.replace_withHooks]
      rfl

theorem applyScript_withHooks (engine : Engine) (context : OverlayContext)
    (registry : Registry σ) (s : EditScript) :
    engine.applyScript context (registry.withHooks hooks) s
      = (engine.applyScript context registry s).withHooks hooks := by
  have scripts := applyScript_scripts engine context registry s
  have hfind := registry.find?_withHooks hooks s.collection
  generalize engine.applyScript context registry s = change at scripts ⊢
  cases scripts with
  | unknown missing =>
      rw [missing] at hfind
      exact Scripts.eq (.unknown hfind)
  | absent found missing =>
      rw [found] at hfind
      exact Scripts.eq (.absent hfind missing)
  | removed found present removing =>
      rw [found] at hfind
      rw [Scripts.eq (.removed hfind present removing)]
      show Change.mk _ _ _ = Change.mk _ _ _
      rw [← Registry.replace_withHooks]
      rfl
  | idle found present editing empty =>
      rw [found] at hfind
      exact Scripts.eq (.idle hfind present editing empty)
  | edited found present editing nonempty =>
      rw [found] at hfind
      rw [Scripts.eq (.edited hfind present editing nonempty)]
      show Change.mk _ _ _ = Change.mk _ _ _
      rw [← Registry.replace_withHooks]
      rfl

theorem Item.change_withHooks (engine : Engine) (registry : Registry σ) (item : Item) :
    item.change engine (registry.withHooks hooks)
      = (item.change engine registry).withHooks hooks := by
  cases item with
  | override context o => exact applyOverride_withHooks hooks context registry o
  | script context count index s =>
      unfold Item.change
      simp only [applyScript_withHooks]
      rfl

/-- **ITEMS DO NOT SEE HOOKS**: with others, a batch comes to the same registry before they run. -/
theorem registryAfter_withHooks (engine : Engine) (registry : Registry σ) (items : List Item) :
    registryAfter engine (registry.withHooks hooks) items
      = (registryAfter engine registry items).withHooks hooks := by
  induction items generalizing registry with
  | nil => rfl
  | cons item rest ih =>
      show registryAfter engine (item.change engine (registry.withHooks hooks)).registry rest = _
      rw [Item.change_withHooks]
      exact ih _

/-- And it says the same about it. -/
theorem diagnosticsOf_withHooks (engine : Engine) (registry : Registry σ) (items : List Item) :
    diagnosticsOf engine (registry.withHooks hooks) items = diagnosticsOf engine registry items := by
  induction items generalizing registry with
  | nil => rfl
  | cons item rest ih =>
      unfold diagnosticsOf
      rw [Item.change_withHooks]
      exact congrArg ((item.change engine registry).diagnostics ++ ·) (ih _)

end

/-! ## §4. The statement. -/

/-- What the hooks of a batch do. `items` are the overrides and scripts of the batch in order,
and `after` is the registry that they leave; `final` are the registry and the hooks' state at
the end. -/
structure HooksLast (engine : Engine) (registry : Registry σ) (items : List Item) (state : σ)
    (touched : List String) (calls : List HookCall) (after : Registry σ)
    (final : Registry σ × σ) : Prop where
  /-- The touched collections are those that an item touched, in the order of the first touch. -/
  first : FirstTouched engine registry items touched
  /-- Each of them is finished once, in this order, after all items. -/
  finished : final = touched.foldl Registry.finish (after, state)
  /-- That is a row of calls, in which every hook of a touched collection is called once on
  every root that the collection has then. -/
  due : ∀ call, call ∈ calls ↔ call.Due after touched
  /-- No call is made twice. -/
  once : calls.Nodup
  /-- Collections come in the order of the first touch, roots by ascending keys, and hooks in
  the order of registration. -/
  ordered : calls.Pairwise (HookCall.Before touched)
  /-- Nothing but these calls happens after the items. -/
  called : final = calls.foldl HookCall.run (after, state)
  /-- And none happens before: with any other hooks, the items leave the same registry and the
  same report. -/
  blind : ∀ (τ : Type) (hooks : String → List (Hook τ)),
    registryAfter engine (registry.withHooks hooks) items = after.withHooks hooks ∧
      diagnosticsOf engine (registry.withHooks hooks) items = diagnosticsOf engine registry items
  /-- A collection that was not touched is what it was before the batch. -/
  apart : ∀ name, name ∉ touched → final.1.find? name = registry.find? name
  /-- The names are registered in the order in which they were. -/
  names : final.1.names = registry.names

/-- **HOOKS RUN ONCE, LAST, AND ONLY WHERE A BATCH TOUCHED.** -/
theorem hooks_run_last (engine : Engine) (enabled : engine.config.enabled = true)
    (registry : Registry σ) (ascending : registry.Ascending) (overlays : List Overlay)
    (state : σ) :
    ∃ touched calls, HooksLast engine registry (batchItems overlays) state touched calls
      (registryAfter engine registry (batchItems overlays))
      ((engine.applyOverlays registry overlays state).1,
        (engine.applyOverlays registry overlays state).2.2) := by
  obtain ⟨journal, touched, _, first, hbatch⟩ :=
    applyOverlays_of_enabled enabled registry overlays state
  have hascending : (registryAfter engine registry (batchItems overlays)).Ascending :=
    ascending_registryAfter ascending
  have hnames := names_registryAfter engine registry (batchItems overlays)
  have hblind := fun (τ : Type) (hooks : String → List (Hook τ)) =>
    And.intro (registryAfter_withHooks hooks engine registry (batchItems overlays))
      (diagnosticsOf_withHooks hooks engine registry (batchItems overlays))
  have huntouched : ∀ name, name ∉ touched →
      (registryAfter engine registry (batchItems overlays)).find? name = registry.find? name := by
    intro name hname
    refine find?_registryAfter_of_untouched ?_
    intro i htouches
    exact hname ((first.mem_iff name).mpr ⟨i, htouches⟩)
  rw [hbatch, runTouched_eq_foldl]
  generalize registryAfter engine registry (batchItems overlays) = after
    at hascending hnames hblind huntouched ⊢
  obtain ⟨hsame, hapart⟩ := foldl_finish_apart touched (after, state)
  have hordered := Registry.pairwise_calls hascending touched
  refine ⟨touched, after.calls touched, first, rfl, fun _ => Registry.mem_calls_iff, ?_, hordered,
    ?_, hblind, ?_, hsame.trans hnames⟩
  · refine hordered.imp ?_
    rintro call later hbefore rfl
    exact HookCall.not_before_self first.nodup call hbefore
  · exact foldl_finish_eq_foldl_run hascending first.nodup (fun _ _ => rfl) state
  · intro name hname
    exact (hapart name hname).trans (huntouched name hname)

/-- Two collections with two hooks each, of which one is touched, and touched twice. -/
theorem hooks_run_last_numbers :
    let engine := Engine.new Catalog.schema .standard
    let registry : Registry (List String) := ⟨[("Numbers", ⟨"Numbers", .int,
      [("one", .int 1), ("two", .int 2)], [Catalog.countingHook "Numbers" 0,
        Catalog.countingHook "Numbers" 1]⟩),
      ("Others", ⟨"Others", .int, [("one", .int 1)], [Catalog.countingHook "Others" 0]⟩)]⟩
    let overlays : List Overlay := [⟨"first", [⟨"Numbers", "three", .int 3⟩], []⟩,
      ⟨"second", [], [⟨"Numbers", "one", none, true, []⟩, ⟨"Others", "two", none, true, []⟩]⟩]
    engine.config.enabled = true ∧ registry.Ascending ∧
      (engine.applyOverlays registry overlays []).2.2
        = ["Numbers:three:0", "Numbers:three:1", "Numbers:two:0", "Numbers:two:1"] ∧
      ∃ touched calls, HooksLast engine registry (batchItems overlays) [] touched calls
        (registryAfter engine registry (batchItems overlays))
        ((engine.applyOverlays registry overlays []).1,
          (engine.applyOverlays registry overlays []).2.2) := by
  intro engine registry overlays
  have enabled : engine.config.enabled = true := rfl
  have ascending : registry.Ascending := by decide
  exact ⟨enabled, ascending, by decide,
    hooks_run_last engine enabled registry ascending overlays []⟩

end ConfigGraph
