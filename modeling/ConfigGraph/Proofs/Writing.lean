/-
  ConfigGraph.Proofs.Writing
  ────────────────────────────────
  **WRITING TO A SLOT IS ASSIGNING AT ITS PATH.**

  A value enters a graph in two ways.  A directive follows a path to a slot
  and writes to the slot, and each kind of slot is written to by an operation
  of its container: the items of a list are set at an index that is checked
  again, the entries of a map are inserted or replaced at a key that is read
  again from its text, a field is assigned.  A caller of the library looks up
  the place of a path and assigns over the node there, which looks at the
  node and at nothing around it.

  On a well-formed graph the two are one operation.  They take the same
  values, refuse the others with the same words, and leave the same graph:
  the old one with one node exchanged, so that an entry of a map keeps its
  key and its place among the others.

  Main results:
    * `Slot.Binds.commit_eq`, `Value.assign_place`
    * `write_eq_assign`
-/
import ConfigGraph.Proofs.Traversal

namespace ConfigGraph

/-! ## §1. The two ways. -/

/-- Write a value to a slot of a graph: how that ends, and the graph afterwards. -/
def Slot.commit (root : Value) (parent : Address) (slot : Slot) (value : Value) :
    Except AssignError Unit × Value :=
  match slot.write value with
  | .ok slot' => (.ok (), root.replaceAt parent slot'.container)
  | .error cause => (.error cause, root)

/-- Assign a value over the node at a place of a graph: how that ends, and the graph
afterwards. -/
def Value.Place.assign (root : Value) (place : Value.Place) (value : Value) :
    Except AssignError Unit × Value :=
  match place.node.assign value with
  | .ok stored => (.ok (), place.put stored)
  | .error cause => (.error cause, root)

/-- What becomes of a graph when a value is put in the place of a node. -/
structure WritesAlike (root : Value) (segments : List String) (parent : Address) (slot : Slot)
    (place : Value.Place) (value : Value) : Prop where
  /-- Both ways end alike, and leave the same graph. -/
  same : slot.commit root parent value = place.assign root value
  /-- A value of a shape that the node accepts replaces the node and nothing else: no key, no
  field and no length changes. It is stored under the node's shape, and shows as it is. -/
  accepted : place.node.shape.accepts value.shape = true → ∃ address stored,
    root.locate? segments = some (address, place.node) ∧
    (slot.commit root parent value).1 = .ok () ∧
    Value.ReplacedAt root (slot.commit root parent value).2 address stored ∧
    stored.shape = place.node.shape ∧ stored.present? = value.present?
  /-- Every other value is refused for its shape, and the graph is what it was. -/
  refused : place.node.shape.accepts value.shape = false → slot.commit root parent value
    = (.error (.typeMismatch place.node.shape.resolved value.shape), root)

/-! ## §2. Bound slots. -/

section

variable {root parent container part : Value} {address : Address} {step : Step} {slot : Slot}

/-- **A BOUND SLOT TAKES WHAT ITS NODE TAKES**: to write to it is to convert the value by the
shape of the node and to exchange the node for the result. -/
theorem Slot.Binds.commit_eq {schema : Schema} (binds : Slot.Binds container step slot)
    (wf : root.WellFormed schema) (hparent : root.get? address = some parent)
    (present : parent.present? = some container) (hpart : container.part? step = some part)
    (value : Value) :
    slot.commit root address value =
      match value.convert part.shape with
      | .ok stored => (.ok (), root.update (fun _ => stored) (address ++ [step]))
      | .error cause => (.error cause, root) := by
  have wfContainer := (wf.get? hparent).present present
  -- What the container declares for the slot is the shape that the node has.
  have hdeclared : slot.declared = part.shape := binds.declared_eq_shape wfContainer hpart
  unfold Slot.commit
  rw [binds.write_eq_replace wfContainer value, hdeclared]
  cases value.convert part.shape with
  | error cause => rfl
  | ok stored =>
      show ((Except.ok () : Except AssignError Unit),
          root.replaceAt address (slot.replace stored).container) = _
      rw [binds.container_replace, Value.replaceAt_mapPart hparent present step stored]

end

/-- To assign at the place of a path is to convert by the shape of the node there, too. -/
theorem Value.assign_place {root node : Value} {segments : List String} {address : Address}
    (located : root.locate? segments = some (address, node)) :
    ∃ place, root.place? segments = some place ∧ place.node = node ∧
      ∀ value, place.assign root value =
        match value.convert node.shape with
        | .ok stored => (.ok (), root.update (fun _ => stored) address)
        | .error cause => (.error cause, root) := by
  refine ⟨⟨node, fun new => root.update (fun _ => new) address⟩, ?_, rfl, fun value => rfl⟩
  rw [Value.place?_eq, located]
  rfl

/-! ## §3. Paths. -/

/-- **ONE WRITE SEMANTICS.** On a well-formed graph, an overwrite that follows a path which leads
to a node comes to a slot, and to write any value to this slot is to assign it over the node. -/
theorem write_eq_assign (schema : Schema) {root : Value} (wf : root.WellFormed schema)
    {segments : List String} (hpath : segments ≠ [])
    (resolves : (root.lookup? segments).isSome = true) (raw : String) :
    ∃ parent slot place,
      land schema root segments .overwrite raw = ⟨root, [], .ok (.slot parent slot)⟩ ∧
      root.place? segments = some place ∧
      ∀ value, WritesAlike root segments parent slot place value := by
  obtain ⟨before, last, rfl⟩ : ∃ before last, segments = before ++ [last] :=
    ⟨_, _, (List.dropLast_concat_getLast hpath).symm⟩
  rcases (land_lands schema root before last .overwrite raw).of_selecting (.inl rfl) with
    ⟨fault, stops, _⟩ | ⟨above, parent, container, part, step, slot, located, present, leads,
      binds, hland⟩
  -- A path on which the look-up stops leads to no node.
  · rw [Value.lookup?, Value.locate?, stops.locateFrom?_eq_none] at resolves
    cases resolves
  · have hlocate := Value.locate?_concat located leads
    have hparent := Value.get?_of_locate? located
    have hpart := Value.part?_of_step? present leads
    obtain ⟨place, hplace, hnode, hassign⟩ := Value.assign_place hlocate
    refine ⟨above, slot, place, hland, hplace, ?_⟩
    intro value
    have hcommit := binds.commit_eq wf hparent present hpart value
    refine ⟨?_, ?_, ?_⟩
    · rw [hcommit, hassign value]
    · intro haccepts
      rw [hnode] at haccepts
      obtain ⟨stored, hconvert, hshape, hpresent⟩ := Value.convert_of_accepts haccepts
      rw [hcommit, hconvert, hnode]
      have hreplaced := Value.replacedAt_update (Value.get?_of_locate? hlocate) fun _ => stored
      exact ⟨above ++ [step], stored, hlocate, rfl, hreplaced, hshape, hpresent⟩
    · intro hrefuses
      rw [hnode] at hrefuses
      rw [hcommit, Value.convert_of_not_accepts hrefuses, hnode]

/-- An entry of a map in order of arrival, at a key that is written with a sign. -/
theorem write_eq_assign_rig :
    Catalog.sampleRig.WellFormed Catalog.schema ∧
      (Catalog.sampleRig.lookup? ["codes", "+30"]).isSome = true ∧
      ∃ parent slot place,
        land Catalog.schema Catalog.sampleRig ["codes", "+30"] .overwrite ""
          = ⟨Catalog.sampleRig, [], .ok (.slot parent slot)⟩ ∧
        Catalog.sampleRig.place? ["codes", "+30"] = some place ∧
        ∀ value, WritesAlike Catalog.sampleRig ["codes", "+30"] parent slot place value :=
  ⟨by decide, by decide,
    write_eq_assign Catalog.schema (by decide) (List.cons_ne_nil _ _) (by decide) ""⟩

end ConfigGraph
