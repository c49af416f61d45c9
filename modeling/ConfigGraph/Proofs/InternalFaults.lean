/-
  ConfigGraph.Proofs.InternalFaults
  ────────────────────────────────
  **INTERNAL FAULTS DO NOT HAPPEN.**

  Some faults would mean that the engine contradicts itself: a selector that
  does not fit the parent it was computed from, a position outside a list, a
  key text that was read once and is not read again, a field that has gone.
  No directive runs into one of them, on any graph.  The only write that a
  slot refuses is a reset whose value names another shape by a tag.

  Positions are checked before items are touched, and the position of a slot
  that a path ends at lies inside the list, also when the list has just
  become longer.

  Main results:
    * `Items.set_bound`, `Items.insert_bound`, `Items.remove?_bound`
    * `apply_not_internal`
-/
import ConfigGraph.Proofs.Application

namespace ConfigGraph

/-! ## §1. Positions in lists. -/

namespace Items

variable {shape : Shape} {items items' : List Value} {i : Nat} {value : Value}

theorem set_bound (h : set shape items i value = .ok items') : i < items.length := by
  unfold set at h
  split at h
  · assumption
  · cases h

theorem insert_bound (h : insert shape items i value = .ok items') : i ≤ items.length := by
  unfold insert at h
  split at h
  · assumption
  · cases h

theorem remove?_bound {taken : Value × List Value} (h : remove? items i = some taken) :
    i < items.length := by
  obtain ⟨item, hitem, _⟩ := Option.map_eq_some_iff.mp h
  exact (List.getElem?_eq_some_iff.mp hitem).1

end Items

/-- The position of a slot that a path ends at lies inside the list. -/
theorem land_bound {schema : Schema} {root : Value} {segments : List String}
    {operation : Operation} {value : String} {parent : Address} {shape : Shape}
    {items : List Value} {i : Nat} (h : (land schema root segments operation value).result
      = .ok (.slot parent (.element shape items i))) : i < items.length := by
  by_cases hnil : segments = []
  · rw [hnil] at h
    cases h
  · rw [← List.dropLast_concat_getLast hnil] at h
    have lands := land_lands schema root segments.dropLast (segments.getLast hnil) operation value
    generalize land schema root (segments.dropLast ++ [segments.getLast hnil]) operation value
      = landing at h lands
    obtain ⟨root', notes, result⟩ := landing
    simp only at h
    subst h
    obtain ⟨_, _, binds⟩ := lands.binds
    cases binds with
    | element bound => exact bound

/-! ## §2. Faults that can happen. -/

/-- The fault is none of those that only a contradiction could cause. -/
structure Harmless (engine : Engine) (directive : Directive) (fault : Fault) : Prop where
  /-- It is not an internal one. -/
  category : fault.category ≠ .internal
  /-- The selector fitted the parent. -/
  consistent : ∀ parent selector, fault ≠ .inconsistentSlot parent selector
  /-- The position was inside the list. -/
  bounded : ∀ index length, fault ≠ .write (.indexOutOfBounds index length)
  /-- The text wrote a key. -/
  readable : ∀ key kind, fault ≠ .write (.invalidKey key kind)
  /-- The field was there. -/
  present : ∀ field record, fault ≠ .write (.missingField field record)
  /-- If a shape was refused, it is the shape of a registered tag that a reset referred to. -/
  tagged : ∀ expected found, fault = .write (.typeMismatch expected found) →
    ∃ value tag, engine.config.operators.split directive.value = (.defaultValue, value) ∧
      value = engine.tags.marker ++ tag ∧ engine.tags.find? tag = some found

variable {engine : Engine} {directive : Directive} {fault : Fault}

/-- A fault of a category other than `internal` is harmless unless it is a refused shape. -/
theorem Harmless.of_category (hcategory : fault.category ≠ .internal)
    (hwrite : ∀ expected found, fault ≠ .write (.typeMismatch expected found)) :
    Harmless engine directive fault where
  category := hcategory
  consistent := by
    rintro parent selector rfl
    exact hcategory rfl
  bounded := by
    rintro index length rfl
    exact hcategory rfl
  readable := by
    rintro key kind rfl
    exact hcategory rfl
  present := by
    rintro field record rfl
    exact hcategory rfl
  tagged := fun expected found h => absurd h (hwrite expected found)

theorem Misses.harmless {node : Value} {depth : Nat} {segment : String}
    (h : Misses node depth segment fault) : Harmless engine directive fault := by
  cases h <;> exact .of_category nofun nofun

theorem Refuses.harmless {schema : Schema} {depth : Nat} {segment : String} {container : Value}
    (h : Refuses schema depth segment container fault) : Harmless engine directive fault := by
  cases h <;> exact .of_category nofun nofun

theorem Lands.harmless {root root' : Value} {before : List String} {last : String}
    {operation : Operation} {value : String} {notes : List Note}
    (h : Lands engine.schema root before last operation value ⟨root', notes, .error fault⟩) :
    Harmless engine directive fault := by
  cases h with
  | stopped stops =>
      obtain ⟨_, _, _, _, _, _, misses⟩ := stops.exists_step
      exact misses.harmless
  | refused _ _ _ refuses => exact refuses.harmless

/-- An update fails harmlessly, and it refuses no shape but that of a tag. -/
theorem Updates.harmless {slot : Slot} {before : List String} {last : String}
    {operation : Operation} {value : String}
    (asks : Asks engine directive before last operation value)
    (h : Updates engine slot operation value (.error fault)) :
    Harmless engine directive fault := by
  cases h with
  | mismatch bare resetting reference registered refuses =>
      refine ⟨nofun, nofun, nofun, nofun, nofun, ?_⟩
      intro expected found h
      injection h with h
      injection h with _ hfound
      -- The one write that is refused comes from a reset, and the value is a tag reference.
      have hsplit := asks.split
      rw [resetting] at hsplit
      refine ⟨value, _, hsplit, TagTable.eq_of_reference? reference, ?_⟩
      rw [registered, hfound]
  | _ => exact .of_category nofun nofun

/-! ## §3. No directive runs into an internal fault. -/

/-- **INTERNAL FAULTS ARE UNREACHABLE**: on every graph, for every engine that has the updates
it started with, a directive fails harmlessly; and no list is touched outside its bounds. -/
theorem apply_not_internal (engine : Engine) (standard : engine.updaters = .standard)
    (root : Value) (directive : Directive) :
    (∀ fault, (engine.apply root directive).2.result = .error fault →
        Harmless engine directive fault) ∧
      (∀ operation value parent shape items i,
        (land engine.schema root (FieldPath.parse directive.path) operation value).result
          = .ok (.slot parent (.element shape items i)) → i < items.length) ∧
      (∀ shape items items' i value, Items.set shape items i value = .ok items' →
        i < items.length) ∧
      (∀ shape items items' i value, Items.insert shape items i value = .ok items' →
        i ≤ items.length) ∧
      ∀ items i taken, Items.remove? items i = some taken → i < items.length := by
  refine ⟨fun fault hresult => ?_, fun _ _ _ _ _ _ => land_bound,
    fun _ _ _ _ _ => Items.set_bound, fun _ _ _ _ _ => Items.insert_bound,
    fun _ _ _ => Items.remove?_bound⟩
  have happlies := apply_applies standard root directive
  generalize engine.apply root directive = done at happlies hresult
  cases happlies with
  | skipped _ => cases hresult
  | invalid _ =>
      injection hresult with hresult
      rw [← hresult]
      exact .of_category nofun nofun
  | failed _ lands =>
      injection hresult with hresult
      rw [← hresult]
      exact lands.harmless
  | finished _ _ => cases hresult
  | rejected asks _ updates =>
      injection hresult with hresult
      rw [← hresult]
      exact updates.harmless asks
  | kept _ _ _ => cases hresult
  | wrote _ _ _ => cases hresult

/-- A reset of a list by the tag of a record is refused, and this is no internal fault. -/
theorem apply_not_internal_preset :
    ((Engine.new Catalog.schema .standard).withTag "Slot" Catalog.slotShape).updaters = .standard ∧
      (((Engine.new Catalog.schema .standard).withTag "Slot" Catalog.slotShape).apply
        Catalog.samplePreset ⟨"values", "!Slot!d"⟩).2.result
          = .error (.write (.typeMismatch (.list .int) Catalog.slotShape)) ∧
      Harmless ((Engine.new Catalog.schema .standard).withTag "Slot" Catalog.slotShape)
        ⟨"values", "!Slot!d"⟩ (.write (.typeMismatch (.list .int) Catalog.slotShape)) :=
  ⟨rfl, by rfl, (apply_not_internal _ rfl Catalog.samplePreset _).1 _ (by rfl)⟩

end ConfigGraph
