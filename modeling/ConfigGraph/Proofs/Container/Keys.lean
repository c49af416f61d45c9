/-
  ConfigGraph.Proofs.Container.Keys
  ────────────────────────────────
  **WHERE NEW KEYS COME FROM.**

  The entries of a key are counted over the whole graph, however deep the
  maps lie in it.  The count is additive: exchanging a node exchanges its
  share of the count.  So a directive has at most three ways of making a key
  more frequent.  It brings along the keys inside one default instance, the
  one that it inserts or resets a slot to (`Brings`); the value that it writes
  has no keys, or is itself that instance; and an insertion into a map adds
  an entry for the last segment of the path.

  A segment of a valid path is neither empty nor does it have a separator in
  it, so the key of an added entry can be written in a path again.

  Main results:
    * `Value.keyCount_update`, `Value.keyCount_replaceAt`
    * `apply_adds_segment`
-/
import Mathlib.Algebra.Order.BigOperators.Group.List
import Mathlib.Algebra.Order.Ring.Nat
import ConfigGraph.Proofs.Preservation
import ConfigGraph.Proofs.Path.Codec
import ConfigGraph.Proofs.Traversal

namespace ConfigGraph

/-! ## §1. Sums over changed lists. -/

theorem Ordered.sum_map_modifyAt {α : Type} {xs : List α} {i : Nat} {x : α} (f : α → α)
    (g : α → Nat) (h : xs[i]? = some x) :
    ((xs.modify i f).map g).sum + g x = (xs.map g).sum + g (f x) := by
  induction xs generalizing i with
  | nil => cases h
  | cons y rest ih =>
      cases i with
      | zero =>
          injection h with h
          simp [h]
          omega
      | succ i =>
          have hrest := ih (i := i) h
          simp only [List.modify_succ_cons, List.map_cons, List.sum_cons]
          omega

theorem Ordered.sum_map_modify {α β : Type} [DecidableEq α] {key : α} {value : β}
    {entries : List (α × β)} (f : β → β) (g : α × β → Nat)
    (h : Ordered.find? key entries = some value) :
    ((Ordered.modify key f entries).map g).sum + g (key, value)
      = (entries.map g).sum + g (key, f value) := by
  induction entries with
  | nil => cases h
  | cons entry rest ih =>
      obtain ⟨k, v⟩ := entry
      by_cases hk : key = k
      · subst hk
        rw [Ordered.find?, if_pos rfl] at h
        injection h with h
        rw [Ordered.modify, if_pos rfl, List.map_cons, List.map_cons, List.sum_cons, List.sum_cons,
          h]
        omega
      · rw [Ordered.find?, if_neg hk] at h
        have hrest := ih h
        rw [Ordered.modify, if_neg hk, List.map_cons, List.map_cons, List.sum_cons, List.sum_cons]
        omega

/-! ## §2. Counting the entries of a key. -/

namespace Value

mutual

/-- The number of entries of the key in all maps of the graph. -/
def keyCount (key : Key) : Value → Nat
  | .record _ fields => fieldsKeyCount key fields
  | .list _ items => itemsKeyCount key items
  | .map _ _ _ entries => entriesKeyCount key entries
  | .filled _ value => keyCount key value
  | .dynamic value => keyCount key value
  | .text _ | .bool _ | .int _ | .float _ | .vector _ _ | .textSet _ | .vacant _ => 0
termination_by structural value => value

/-- The number of its entries in all fields of a record. -/
def fieldsKeyCount (key : Key) : List (String × Value) → Nat
  | [] => 0
  | (_, value) :: rest => keyCount key value + fieldsKeyCount key rest
termination_by structural fields => fields

/-- The number of its entries in all items of a list. -/
def itemsKeyCount (key : Key) : List Value → Nat
  | [] => 0
  | value :: rest => keyCount key value + itemsKeyCount key rest
termination_by structural items => items

/-- The number of its entries in a map and in all values of the map. -/
def entriesKeyCount (key : Key) : List (Key × Value) → Nat
  | [] => 0
  | (k, value) :: rest =>
      (if k = key then 1 else 0) + keyCount key value + entriesKeyCount key rest
termination_by structural entries => entries

end

example : Catalog.sampleRig.keyCount (.text "s") = 1 := by decide

/-- The share that an entry has in the count. -/
def entryCount (key : Key) (entry : Key × Value) : Nat :=
  (if entry.1 = key then 1 else 0) + entry.2.keyCount key

theorem keyCount_record (key : Key) (name : String) (fields : List (String × Value)) :
    (record name fields).keyCount key = (fields.map fun field => field.2.keyCount key).sum := by
  rw [keyCount]
  induction fields with
  | nil => rfl
  | cons field rest ih => rw [fieldsKeyCount, ih, List.map_cons, List.sum_cons]

theorem keyCount_list (key : Key) (element : Shape) (items : List Value) :
    (list element items).keyCount key = (items.map (keyCount key)).sum := by
  rw [keyCount]
  induction items with
  | nil => rfl
  | cons item rest ih => rw [itemsKeyCount, ih, List.map_cons, List.sum_cons]

theorem keyCount_map (key : Key) (order : MapOrder) (kind : KeyKind) (shape : Shape)
    (entries : List (Key × Value)) :
    (map order kind shape entries).keyCount key = (entries.map (entryCount key)).sum := by
  rw [keyCount]
  induction entries with
  | nil => rfl
  | cons entry rest ih => rw [entriesKeyCount, ih, List.map_cons, List.sum_cons, entryCount]

/-! ## §3. Exchanging a node. -/

variable (key : Key)

/-- Layers have no keys. -/
theorem keyCount_mapPresent {value inside : Value} (h : value.present? = some inside)
    (f : Value → Value) : (value.mapPresent f).keyCount key = (f inside).keyCount key := by
  induction value using layers_induction with
  | vacant => cases h
  | filled inner value ih => exact ih h
  | dynamic value ih => exact ih h
  | bare value hbare =>
      rw [present?_of_isBare hbare] at h
      injection h with h
      rw [mapPresent_of_isBare f hbare, h]

theorem keyCount_of_present? {value inside : Value} (h : value.present? = some inside) :
    value.keyCount key = inside.keyCount key := by
  rw [← keyCount_mapPresent key h fun _ => inside, mapPresent_eq_self h rfl]

theorem keyCount_mapPart {value part : Value} {step : Step} (f : Value → Value)
    (h : value.part? step = some part) :
    (mapPart step f value).keyCount key + part.keyCount key
      = value.keyCount key + (f part).keyCount key := by
  match value, step with
  | .record name fields, .field field =>
      rw [mapPart, keyCount_record, keyCount_record]
      exact Ordered.sum_map_modify f (fun field => field.2.keyCount key) h
  | .list element items, .index i =>
      rw [mapPart, keyCount_list, keyCount_list]
      exact Ordered.sum_map_modifyAt f (keyCount key) h
  | .map order kind shape entries, .key k =>
      have hsum := Ordered.sum_map_modify f (entryCount key) h
      rw [entryCount, entryCount] at hsum
      rw [mapPart, keyCount_map, keyCount_map]
      simp only at hsum
      omega

/-- **EXCHANGING A NODE EXCHANGES ITS SHARE OF THE COUNT.** -/
theorem keyCount_update {root node : Value} {address : Address} (f : Value → Value)
    (h : root.get? address = some node) :
    (root.update f address).keyCount key + node.keyCount key
      = root.keyCount key + (f node).keyCount key := by
  induction address generalizing root with
  | nil =>
      injection h with h
      rw [update, h, Nat.add_comm]
  | cons step rest ih =>
      rw [get?, Option.bind_eq_some_iff] at h
      obtain ⟨part, hpart, hnode⟩ := h
      obtain ⟨inside, hinside, hstep⟩ := child?_eq_some_iff.mp hpart
      have hpartCount := keyCount_mapPart key (update f rest) hstep
      have hrest := ih hnode
      rw [update, keyCount_mapPresent key hinside, keyCount_of_present? key hinside]
      omega

theorem keyCount_replaceAt {root node container : Value} {address : Address}
    (h : root.get? address = some node) (present : node.present? = some container)
    (container' : Value) :
    (root.replaceAt address container').keyCount key + container.keyCount key
      = root.keyCount key + container'.keyCount key := by
  have hcount := keyCount_update key (fun node => node.mapPresent fun _ => container') h
  rw [keyCount_mapPresent key present, keyCount_of_present? key present] at hcount
  exact hcount

/-- A conversion adds layers and no keys. -/
theorem keyCount_convert {shape : Shape} {value stored : Value}
    (h : value.convert shape = .ok stored) : stored.keyCount key = value.keyCount key := by
  induction shape generalizing stored with
  | nullable inner ih =>
      unfold convert at h
      split at h
      · injection h with h
        rw [h]
      · cases hinner : value.convert inner with
        | error cause =>
            rw [hinner] at h
            cases h
        | ok inside =>
            rw [hinner] at h
            injection h with h
            rw [← h]
            show inside.keyCount key = value.keyCount key
            exact ih hinner
  | dynamic =>
      unfold convert at h
      split at h
      · injection h with h
        rw [h]
      · injection h with h
        rw [← h]
        rfl
  | _ =>
      unfold convert at h
      split at h
      · injection h with h
        rw [h]
      · cases h

end Value

/-! ## §4. What directives do to containers. -/

section

variable {schema : Schema} {segment : String} {container container' : Value} {step : Step}
  {slot slot' : Slot} {new : Value} (key : Key)

theorem Addition.keepsKeys (h : Addition schema segment container step container')
    (keeps : container.KeepsKeys) : container'.KeepsKeys := by
  cases h with
  | item _ _ => trivial
  | @entry order shape before after added _ _ place =>
      have hput := Entries.keeps_putKey keeps (.text segment) added
      rw [place] at hput
      exact hput

/-- The shape that a list or map declares for what is in it. -/
def Value.declaredInside? : Value → Option Shape
  | .list shape _ | .map _ _ shape _ => some shape
  | _ => none

/-- An insertion brings along the keys of a default instance, and adds at most one entry, for the
segment that it was made with. -/
theorem Addition.keyCount_le (h : Addition schema segment container step container') :
    ∃ shape added, container.declaredInside? = some shape ∧
      schema.instantiate shape = some added ∧
      container'.keyCount key ≤ container.keyCount key + added.keyCount key
        + (if key = .text segment then 1 else 0) := by
  cases h with
  | @item shape items i added _ fresh =>
      refine ⟨shape, added, rfl, fresh, ?_⟩
      have hperm := (List.perm_insertIdx added items (Nat.min_le_right i items.length)).map
        (Value.keyCount key)
      rw [Value.keyCount_list, Value.keyCount_list, hperm.sum_nat, List.map_cons, List.sum_cons]
      omega
  | @entry order shape before after added _ fresh _ =>
      refine ⟨shape, added, rfl, fresh, ?_⟩
      have hnew : Value.entryCount key (.text segment, added)
          = (if key = .text segment then 1 else 0) + added.keyCount key := by
        rw [Value.entryCount]
        simp only [eq_comm]
      rw [Value.keyCount_map, Value.keyCount_map, List.map_append, List.map_append, List.map_cons,
        List.sum_append_nat, List.sum_append_nat, List.sum_cons, hnew]
      omega

theorem Removal.keyCount_le (h : Removal segment container container') :
    container'.keyCount key ≤ container.keyCount key := by
  cases h with
  | item _ _ =>
      rw [Value.keyCount_list, Value.keyCount_list]
      exact ((List.eraseIdx_sublist _ _).map _).sum_le_sum fun _ _ => Nat.zero_le _
  | entry _ _ =>
      rw [Value.keyCount_map, Value.keyCount_map]
      exact ((Ordered.erase_sublist _ _).map _).sum_le_sum fun _ _ => Nat.zero_le _

/-- A write to a slot brings along the keys of the value that is written, and no others. -/
theorem Slot.Binds.keyCount_le (binds : Slot.Binds container step slot)
    (keeps : container.KeepsKeys) (h : slot.write new = .ok slot') :
    slot'.container.keyCount key ≤ container.keyCount key + new.keyCount key := by
  rw [binds.write_of_keepsKeys keeps] at h
  cases hconvert : new.convert slot.declared with
  | error cause =>
      rw [hconvert] at h
      cases h
  | ok stored =>
      rw [hconvert] at h
      injection h with h
      obtain ⟨part, hpart⟩ := binds.exists_part
      have hcount := Value.keyCount_mapPart key (fun _ => stored) hpart
      rw [Value.keyCount_convert key hconvert] at hcount
      rw [← h, binds.container_replace]
      omega

/-- The update of a leaf type writes no keys. -/
theorem UpdateRequest.Offers.keyCount_eq {request : UpdateRequest} {leaf : LeafUpdate}
    (h : UpdateRequest.Offers request leaf new) : new.keyCount key = 0 := by
  cases h <;> rfl

end

/-! ## §5. Directives. -/

/-- The default instance that a directive puts into the graph. -/
inductive Brings (engine : Engine) (root : Value) (directive : Directive) : Value → Prop where
  /-- An insertion brings the one of the shape that the list or map declares. -/
  | inserted {before : List String} {last value : String} {address : Address}
      {node container fresh : Value} {shape : Shape}
      (asks : Asks engine directive before last .insert value)
      (located : root.locate? before = some (address, node))
      (present : node.present? = some container)
      (declares : container.declaredInside? = some shape)
      (instantiates : engine.schema.instantiate shape = some fresh) :
      Brings engine root directive fresh
  /-- A default request brings the one that takes the place of a value: of the value's shape, or
  of the shape that a tag names. -/
  | reset {before : List String} {last value : String} {address : Address} {node fresh : Value}
      {tagged : Option Shape} (asks : Asks engine directive before last .defaultValue value)
      (located : root.locate? (before ++ [last]) = some (address, node))
      (tags : engine.tags.resolve value = .ok tagged)
      (instantiates : engine.schema.instantiate (tagged.getD node.shape.resolved) = some fresh) :
      Brings engine root directive fresh

/-- What a directive brings along: at most the keys of its default instance. -/
def Brought (engine : Engine) (root : Value) (directive : Directive) (key : Key) (count : Nat) :
    Prop :=
  count = 0 ∨ ∃ fresh, Brings engine root directive fresh ∧ count = fresh.keyCount key

/-- **A DIRECTIVE ADDS THE KEY THAT ITS LAST SEGMENT WRITES, OR NONE**, apart from the keys inside
its default instance. -/
theorem keyCount_apply_le {engine : Engine} (builtIn : engine.updaters.BuiltIn) {root : Value}
    (wf : root.WellFormed engine.schema) {directive : Directive} {before : List String}
    {last : String} {operation : Operation} {value : String}
    (asks : Asks engine directive before last operation value) (key : Key) :
    ∃ count, Brought engine root directive key count ∧ (engine.apply root directive).1.keyCount key
      ≤ root.keyCount key + count + (if key = .text last then 1 else 0) := by
  rw [apply_eq_settle asks root]
  have lands := land_lands engine.schema root before last operation value
  generalize land engine.schema root (before ++ [last]) operation value = landing at lands ⊢
  cases lands with
  | stopped _ | refused _ _ _ _ | held _ _ _ _ =>
      exact ⟨0, .inl rfl, Nat.le_add_right _ _⟩
  | @added address node container container' step message located present inserting adds _ =>
      obtain ⟨shape, added, declares, fresh, hadds⟩ := adds.keyCount_le key
      have hcount := Value.keyCount_replaceAt key (Value.get?_of_locate? located) present
        container'
      refine ⟨_, .inr ⟨added, .inserted (inserting ▸ asks) located present declares fresh, rfl⟩, ?_⟩
      simp only [Engine.settle]
      omega
  | @removed address node container container' message located present _ removes =>
      have hremoves := removes.keyCount_le key
      have hcount := Value.keyCount_replaceAt key (Value.get?_of_locate? located) present
        container'
      refine ⟨0, .inl rfl, ?_⟩
      simp only [Engine.settle]
      omega
  | @selected address node container part step slot located present leads binds _ =>
      have hget := Value.get?_of_locate? located
      have wfContainer := (wf.get? hget).present present
      obtain ⟨done, ends, hdone⟩ := builtIn.exists_ends slot operation value
      rw [settle_of_ends ends]
      rcases done with fault | ⟨slot', message⟩ | message
      · exact ⟨0, .inl rfl, Nat.le_add_right _ _⟩
      · obtain ⟨new, hwrite, hnew⟩ := hdone slot' message rfl
        have hslot := binds.keyCount_le key wfContainer.keepsKeys hwrite
        have hcount := Value.keyCount_replaceAt key hget present slot'.container
        refine ⟨new.keyCount key, ?_, ?_⟩
        · rcases hnew with ⟨leaf, offers⟩ | ⟨resetting, tagged, tags, fresh⟩
          · exact .inl (offers.keyCount_eq key)
          · -- The slot is declared with the shape of the value that the path leads to.
            rw [binds.declared_eq_shape wfContainer (Value.part?_of_step? present leads)] at fresh
            exact .inr ⟨new, .reset (resetting ▸ asks) (Value.locate?_concat located leads) tags
              fresh, rfl⟩
        · simp only [Value.afterEffect]
          omega
      · exact ⟨0, .inl rfl, Nat.le_add_right _ _⟩
  | @opened address node container container' fresh step slot message located present inserting
      adds _ binds _ _ =>
      have hget := Value.get?_of_locate? located
      obtain ⟨shape, added, declares, hinstance, hadds⟩ := adds.keyCount_le key
      have hcount := Value.keyCount_replaceAt key hget present container'
      refine ⟨_, .inr ⟨added, .inserted (inserting ▸ asks) located present declares hinstance,
        rfl⟩, ?_⟩
      obtain ⟨done, ends, hdone⟩ := builtIn.exists_ends slot operation value
      rw [settle_of_ends ends]
      rcases done with fault | ⟨slot', message'⟩ | message'
      · simp only [Value.afterEffect]
        omega
      · -- An insertion is no default request, so what is written now has no keys.
        obtain ⟨new, hwrite, ⟨leaf, offers⟩ | ⟨hdefault, _⟩⟩ := hdone slot' message' rfl
        · have keeps := adds.keepsKeys ((wf.get? hget).present present).keepsKeys
          have hslot := binds.keyCount_le key keeps hwrite
          rw [offers.keyCount_eq key] at hslot
          have hslotCount := Value.keyCount_replaceAt key hget present slot'.container
          simp only [Value.afterEffect, Value.replaceAt_replaceAt binds.isBare]
          omega
        · rw [inserting] at hdefault
          cases hdefault
      · simp only [Value.afterEffect]
        omega

/-- **EVERY KEY THAT A DIRECTIVE ADDS CAN BE WRITTEN IN A PATH**, apart from those inside its
default instance: it is a text, not empty and without a separator. -/
theorem apply_adds_segment {engine : Engine} (builtIn : engine.updaters.BuiltIn) {root : Value}
    (wf : root.WellFormed engine.schema) (directive : Directive) (key : Key) :
    ∃ count, Brought engine root directive key count ∧
      (root.keyCount key + count < (engine.apply root directive).1.keyCount key →
        ∃ s, key = .text s ∧ s.isEmpty = false ∧ FieldPath.Plain s) := by
  rcases apply_cases engine directive with
    ⟨result, _, happly⟩ | ⟨before, last, operation, value, asks⟩
  · rw [happly root]
    exact ⟨0, .inl rfl, fun h => absurd h (Nat.lt_irrefl _)⟩
  · obtain ⟨count, brought, hle⟩ := keyCount_apply_le builtIn wf asks key
    refine ⟨count, brought, fun hlt => ⟨last, ?_, ?_⟩⟩
    · by_contra hkey
      rw [if_neg hkey] at hle
      omega
    · refine FieldPath.segment_of_mem_parse asks.valid ?_
      rw [asks.segments]
      exact List.mem_append_right _ List.mem_cons_self

end ConfigGraph
