/-
  ConfigGraph.Proofs.Traversal
  ────────────────────────────────
  **THE TRAVERSALS AGREE.**

  A path is read in three ways: `lookup?` finds a node, `place?` finds a node
  that can be exchanged, and `land` finds the slot that a directive is to
  write to.  For a directive that adds and removes nothing, all three find
  something on the same paths, and it is the same node; an exchange at the
  place is a replacement in the slot.  On the other paths `land` names the
  first segment that cannot be read, and says truly why.

  Main results:
    * `Lands.of_selecting`, `Lands.stops_of_isLookup`
    * `traversals_agree`
-/
import ConfigGraph.Proofs.Landing

namespace ConfigGraph

variable {schema : Schema} {root : Value} {before : List String} {last : String}
  {operation : Operation} {value : String} {landing : Landing}

/-! ## §1. The last step of a path. -/

theorem Value.locate?_concat {address : Address} {node part : Value} {step : Step}
    (located : root.locate? before = some (address, node))
    (leads : node.step? before.length last = some (step, part)) :
    root.locate? (before ++ [last]) = some (address ++ [step], part) := by
  rw [locate?] at located ⊢
  rw [locateFrom?_append, located, Option.bind_some, Nat.zero_add, locateFrom?, leads]
  rfl

/-- And every path with a last step is read so. -/
theorem Value.exists_of_locate?_concat {address : Address} {step : Step} {part : Value}
    (located : root.locate? (before ++ [last]) = some (address ++ [step], part)) :
    ∃ node, root.locate? before = some (address, node) ∧
      node.step? before.length last = some (step, part) := by
  rw [locate?, locateFrom?_append, Nat.zero_add, Option.bind_eq_some_iff] at located
  obtain ⟨⟨above, node⟩, hbefore, hlast⟩ := located
  obtain ⟨⟨below, part'⟩, hstep, heq⟩ := Option.map_eq_some_iff.mp hlast
  obtain ⟨step', _, _, leads, hend, rfl⟩ := locateFrom?_cons_eq_some_iff.mp hstep
  injection hend with hend
  injection hend with hnil hpart'
  injection heq with haddress hpart
  subst hnil hpart' hpart
  -- The address of the longer path ends with the step of the last segment.
  obtain ⟨rfl, hsingle⟩ := List.append_inj' haddress rfl
  injection hsingle with hstep'
  exact ⟨node, hbefore, hstep' ▸ leads⟩

/-- An operation that adds and removes nothing ends at the slot of the path's node, or where
the look-up of the path stops. -/
theorem Lands.of_selecting (h : Lands schema root before last operation value landing)
    (selecting : operation = .overwrite ∨ operation = .defaultValue) :
    (∃ fault, Stops root 0 (before ++ [last]) fault ∧ landing = ⟨root, [], .error fault⟩) ∨
      ∃ address parent container part step slot,
        root.locate? before = some (address, parent) ∧ parent.present? = some container ∧
        parent.step? before.length last = some (step, part) ∧ Slot.Binds container step slot ∧
        landing = ⟨root, [], .ok (.slot address slot)⟩ := by
  -- The other ends belong to insertions and removals.
  have hinsert : operation ≠ .insert := by rintro rfl; rcases selecting with h | h <;> cases h
  have hremove : operation ≠ .remove := by rintro rfl; rcases selecting with h | h <;> cases h
  cases h with
  | stopped stops => exact .inl ⟨_, stops, rfl⟩
  | selected located present leads binds _ =>
      exact .inr ⟨_, _, _, _, _, _, located, present, leads, binds, rfl⟩
  | refused _ _ inserting _ => exact absurd inserting hinsert
  | held _ _ inserting _ => exact absurd inserting hinsert
  | added _ _ inserting _ _ => exact absurd inserting hinsert
  | opened _ _ inserting _ _ _ _ _ => exact absurd inserting hinsert
  | removed _ _ removing _ => exact absurd removing hremove

/-- Whatever the operation, a fault about looking up a segment is a stopped look-up. -/
theorem Lands.stops_of_isLookup {fault : Fault}
    (h : Lands schema root before last operation value landing)
    (hresult : landing.result = .error fault) (hlookup : fault.isLookup = true) :
    Stops root 0 (before ++ [last]) fault := by
  cases h with
  | stopped stops =>
      injection hresult with hfault
      rw [← hfault]
      exact stops
  | refused _ _ _ refuses =>
      injection hresult with hfault
      rw [← hfault] at hlookup
      cases refuses <;> cases hlookup
  | _ => cases hresult

/-! ## §2. Reading alike. -/

/-- The three ways of reading a path for an operation that adds and removes nothing. -/
structure ReadsAlike (schema : Schema) (root : Value) (segments : List String)
    (operation : Operation) (value : String) : Prop where
  /-- There is a place exactly where there is a node. -/
  place_iff : (root.place? segments).isSome = true ↔ (root.lookup? segments).isSome = true
  /-- There is a slot exactly where there is a node. -/
  slot_iff : (∃ parent slot, (land schema root segments operation value).result
      = .ok (.slot parent slot)) ↔ (root.lookup? segments).isSome = true
  /-- Node, place and slot are one, and finding the slot changed and reported nothing. -/
  same : ∀ node, root.lookup? segments = some node → ∃ place parent slot,
    root.place? segments = some place ∧ place.node = node ∧
    land schema root segments operation value = ⟨root, [], .ok (.slot parent slot)⟩ ∧
    slot.target? = some node ∧
    ∀ new, root.replaceAt parent (slot.replace new).container = place.put new
  /-- Where there is no node, one segment is to blame, and nothing was changed or reported. -/
  blames : root.lookup? segments = none → ∃ fault s,
    land schema root segments operation value = ⟨root, [], .error fault⟩ ∧
    fault.isLookup = true ∧ StopsAt root segments s fault

theorem Value.place?_isSome_iff (segments : List String) :
    (root.place? segments).isSome = true ↔ (root.lookup? segments).isSome = true := by
  rw [place?_eq, lookup?, Option.isSome_map, Option.isSome_map]

theorem ReadsAlike.of_stops {segments : List String} {fault : Fault}
    (stops : Stops root 0 segments fault)
    (hland : land schema root segments operation value = ⟨root, [], .error fault⟩) :
    ReadsAlike schema root segments operation value := by
  have hnone : root.lookup? segments = none := by
    rw [Value.lookup?, Value.locate?, stops.locateFrom?_eq_none]
    rfl
  obtain ⟨s, hstops⟩ := stops.stopsAt
  obtain ⟨_, _, _, _, misses⟩ := hstops.reads
  refine ⟨Value.place?_isSome_iff segments, ?_, ?_, ?_⟩
  · rw [hnone, hland]
    refine ⟨?_, fun h => Bool.noConfusion h⟩
    rintro ⟨_, _, h⟩
    cases h
  · intro node hnode
    rw [hnone] at hnode
    cases hnode
  · exact fun _ => ⟨fault, s, hland, misses.isLookup, hstops⟩

theorem ReadsAlike.of_binds {address : Address} {parent container part : Value} {step : Step}
    {slot : Slot} (located : root.locate? before = some (address, parent))
    (present : parent.present? = some container)
    (leads : parent.step? before.length last = some (step, part))
    (binds : Slot.Binds container step slot)
    (hland : land schema root (before ++ [last]) operation value
      = ⟨root, [], .ok (.slot address slot)⟩) :
    ReadsAlike schema root (before ++ [last]) operation value := by
  have hlocate := Value.locate?_concat located leads
  have hlookup : root.lookup? (before ++ [last]) = some part := by
    rw [Value.lookup?, hlocate]
    rfl
  -- The slot is bound to the contents that the look-up went through.
  have htarget : slot.target? = some part := by
    rw [binds.target?_eq]
    exact Value.part?_of_step? present leads
  refine ⟨Value.place?_isSome_iff _, ?_, ?_, ?_⟩
  · rw [hlookup, hland]
    exact ⟨fun _ => rfl, fun _ => ⟨address, slot, rfl⟩⟩
  · intro node hnode
    rw [hlookup] at hnode
    injection hnode with hnode
    refine ⟨_, address, slot, by rw [Value.place?_eq, hlocate]; rfl, hnode, hland, ?_, ?_⟩
    · rw [htarget, hnode]
    · intro new
      rw [binds.container_replace]
      exact Value.replaceAt_mapPart (Value.get?_of_locate? located) present step new
  · intro hnone
    rw [hlookup] at hnone
    cases hnone

/-! ## §3. The agreement. -/

/-- **THE THREE TRAVERSALS AGREE** on every path that is not empty, for every operation that
adds and removes nothing; and whatever the operation, a fault about a segment is about the
first segment that cannot be read. -/
theorem traversals_agree (schema : Schema) (root : Value) {segments : List String}
    (hpath : segments ≠ []) (value : String) :
    (∀ operation, operation = .overwrite ∨ operation = .defaultValue →
      ReadsAlike schema root segments operation value) ∧
    ∀ operation fault, (land schema root segments operation value).result = .error fault →
      fault.isLookup = true → ∃ s, StopsAt root segments s fault := by
  obtain ⟨before, last, rfl⟩ : ∃ before last, segments = before ++ [last] :=
    ⟨_, _, (List.dropLast_concat_getLast hpath).symm⟩
  refine ⟨fun operation selecting => ?_, fun operation fault hresult hlookup => ?_⟩
  · rcases (land_lands schema root before last operation value).of_selecting selecting with
      ⟨fault, stops, hland⟩ | ⟨_, _, _, _, _, _, located, present, leads, binds, hland⟩
    · exact .of_stops stops hland
    · exact .of_binds located present leads binds hland
  · exact ((land_lands schema root before last operation value).stops_of_isLookup hresult
      hlookup).stopsAt

/-- A field behind a nullable layer of a list item, by an index with a sign; and a segment
that an insertion takes for an index. -/
theorem traversals_agree_rig :
    ReadsAlike Catalog.schema Catalog.sampleRig ["parts", "+0", "ammo"] .overwrite "5" ∧
      (Catalog.sampleRig.lookup? ["parts", "+0", "ammo"]).isSome = true ∧
      ∃ s, StopsAt Catalog.sampleRig ["parts", "first"] s (.invalidIndex 1 "first") :=
  ⟨(traversals_agree _ _ (List.cons_ne_nil _ _) _).1 _ (.inl rfl), by decide,
    (traversals_agree Catalog.schema _ (List.cons_ne_nil _ _) "").2 .insert _ (by rfl) rfl⟩

end ConfigGraph
