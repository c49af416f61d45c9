/-
  ConfigGraph.Proofs.Preservation
  ────────────────────────────────
  **NO DIRECTIVE BREAKS A GRAPH.**

  A graph that obeys its declarations obeys them after every directive, with
  whatever outcome and for every engine: also for one whose table leaves
  kinds out, gives one kind the update of another, or has the updaters of a
  host in it.

  There are three ways in which a directive changes a graph (an item or entry
  more, one less, contents left by the last stage), and each of them exchanges
  the contents behind the layers of one node.  So it is enough that the new
  contents are well formed and have the shape of the old ones; how deep the
  node lies, and what lies around it, is settled once, by `WellFormed.update`.

  Only what starts out right can stay right: the initial values that the
  schema gives to new records must be well formed themselves.  And a host
  writes values of its own, which have types (`Updater.Typed`).

  Main results:
    * `Value.WellFormed.update`, `Value.WellFormed.replaceAt`
    * `LeafUpdate.typed`, `updateSlot_typed` — the last stage leaves well-formed contents
    * `apply_preserves`, `applyAll_preserves`
-/
import ConfigGraph.Proofs.Application

namespace ConfigGraph

/-! ## §1. Default instances. -/

/-- The initial values of the fields of new records are well formed. -/
def Schema.WellFormed (schema : Schema) : Prop :=
  ∀ record ∈ schema.records, ∀ field ∈ record.2, field.2.WellFormed schema

instance (schema : Schema) : Decidable schema.WellFormed :=
  inferInstanceAs (Decidable (∀ record ∈ schema.records, ∀ field ∈ record.2, _))

example : Catalog.schema.WellFormed := by decide

variable {schema : Schema}

theorem Schema.WellFormed.fields (sound : schema.WellFormed) (name : String) :
    ∀ field ∈ schema.fields name, field.2.WellFormed schema := by
  intro field hfield
  unfold Schema.fields at hfield
  cases hfind : Ordered.find? name schema.records with
  | none =>
      -- A name without a definition is a record without fields.
      rw [hfind] at hfield
      cases hfield
  | some fields =>
      rw [hfind] at hfield
      exact sound (name, fields) (Ordered.mem_of_find? hfind) field hfield

/-- Default instances of all shapes are well formed. -/
theorem Schema.WellFormed.instantiate (sound : schema.WellFormed) {shape : Shape} {value : Value}
    (h : schema.instantiate shape = some value) : value.WellFormed schema := by
  induction shape generalizing value with
  | text | bool | int | float =>
      injection h with h
      rw [← h]
      constructor
  | vector dim =>
      injection h with h
      rw [← h]
      exact .vector List.length_replicate
  | textSet =>
      injection h with h
      rw [← h]
      exact .textSet .nil
  | record name =>
      injection h with h
      rw [← h]
      exact .record rfl (sound.fields name)
  | list element =>
      injection h with h
      rw [← h]
      exact .list nofun nofun
  | map order key value =>
      injection h with h
      rw [← h]
      refine .map ?_ nofun nofun nofun
      cases order <;> exact .nil
  | nullable inner ih =>
      unfold Schema.instantiate at h
      cases hinner : schema.instantiate inner with
      | none =>
          rw [hinner] at h
          injection h with h
          rw [← h]
          exact .vacant inner
      | some inside =>
          rw [hinner] at h
          injection h with h
          rw [← h]
          exact .filled (shape_of_instantiate hinner) (ih hinner)
  | dynamic => cases h

/-! ## §2. Changing one node. -/

/-- A field that keeps its shape keeps the signature of its record. -/
theorem RecordFields.signature_modify {fields : RecordFields} {name : String} {part : Value}
    {f : Value → Value} (h : Ordered.find? name fields = some part)
    (hshape : (f part).shape = part.shape) :
    RecordFields.signature (Ordered.modify name f fields) = RecordFields.signature fields :=
  Ordered.map_modify h (fun field => (field.1, field.2.shape)) (by rw [hshape])

namespace Value.WellFormed

/-- New contents of the old shape may take the place of what is behind the layers. -/
theorem mapPresent {value inside : Value} {f : Value → Value} (wf : value.WellFormed schema)
    (h : value.present? = some inside) (hshape : (f inside).shape = inside.shape)
    (hwf : (f inside).WellFormed schema) :
    (value.mapPresent f).WellFormed schema ∧ (value.mapPresent f).shape = value.shape := by
  induction value using layers_induction with
  | vacant => cases h
  | filled inner value ih =>
      cases wf with
      | filled declared inside' =>
          obtain ⟨hmapped, hsame⟩ := ih inside' h
          exact ⟨.filled (hsame.trans declared) hmapped, rfl⟩
  | dynamic value ih =>
      cases wf with
      | dynamic inside' => exact ⟨.dynamic (ih inside' h).1, rfl⟩
  | bare value hbare =>
      rw [present?_of_isBare hbare] at h
      injection h with h
      subst h
      rw [mapPresent_of_isBare f hbare]
      exact ⟨hwf, hshape⟩

/-- A new part of the old shape may take the place of a field, an item or an entry. -/
theorem mapPart {value part : Value} {step : Step} {f : Value → Value}
    (wf : value.WellFormed schema) (h : value.part? step = some part)
    (hshape : (f part).shape = part.shape) (hwf : (f part).WellFormed schema) :
    (Value.mapPart step f value).WellFormed schema ∧
      (Value.mapPart step f value).shape = value.shape := by
  match value, step, wf with
  | .record name fields, .field field, .record declared inner =>
      refine ⟨.record ((RecordFields.signature_modify h hshape).trans declared) ?_, rfl⟩
      intro entry hentry
      rcases Ordered.mem_modify hentry with hold | ⟨value, hvalue, hnew⟩
      · exact inner entry hold
      · have hpart : value = part := Option.some.inj (hvalue.symm.trans h)
        rw [hnew, hpart]
        exact hwf
  | .list element items, .index i, .list declared inner =>
      -- The item is known, so the change is an exchange for one that is known as well.
      have hconst : Value.mapPart (.index i) f (.list element items)
          = Value.mapPart (.index i) (fun _ => f part) (.list element items) := mapPart_congr h rfl
      rw [hconst, mapPart_index_const]
      refine ⟨.list ?_ ?_, rfl⟩
      · intro item hitem
        rcases List.mem_or_eq_of_mem_set hitem with hold | hnew
        · exact declared item hold
        · rw [hnew, hshape]
          exact declared part (List.mem_of_getElem? h)
      · intro item hitem
        rcases List.mem_or_eq_of_mem_set hitem with hold | hnew
        · exact inner item hold
        · rw [hnew]
          exact hwf
  | .map order kind shape entries, .key key, .map keeps kinds declared inner =>
      have hpart {value : Value} (hvalue : Ordered.find? key entries = some value) :
          value = part := Option.some.inj (hvalue.symm.trans h)
      have hold : (key, part) ∈ entries := Ordered.mem_of_find? h
      refine ⟨.map ?_ ?_ ?_ ?_, rfl⟩
      · rw [Ordered.keys_modify]
        exact keeps
      all_goals
        intro entry hentry
        rcases Ordered.mem_modify hentry with hmem | ⟨value, hvalue, hnew⟩
      · exact kinds entry hmem
      · rw [hnew]
        exact kinds (key, part) hold
      · exact declared entry hmem
      · rw [hnew, hpart hvalue, hshape]
        exact declared (key, part) hold
      · exact inner entry hmem
      · rw [hnew, hpart hvalue]
        exact hwf

/-- **A NODE MAY BE EXCHANGED** for a well-formed one of its shape, however deep it lies. -/
theorem update {root node : Value} {address : Address} {f : Value → Value}
    (wf : root.WellFormed schema) (h : root.get? address = some node)
    (hshape : (f node).shape = node.shape) (hwf : (f node).WellFormed schema) :
    (root.update f address).WellFormed schema ∧ (root.update f address).shape = root.shape := by
  induction address generalizing root with
  | nil =>
      injection h with h
      subst h
      exact ⟨hwf, hshape⟩
  | cons step rest ih =>
      rw [Value.get?, Option.bind_eq_some_iff] at h
      obtain ⟨part, hpart, hnode⟩ := h
      obtain ⟨inside, hinside, hstep⟩ := child?_eq_some_iff.mp hpart
      have hchild := ih (wf.child hpart) hnode
      have hmapped := (wf.present hinside).mapPart hstep hchild.2 hchild.1
      exact wf.mapPresent hinside hmapped.2 hmapped.1

/-- The contents of a node may be exchanged, its layers kept. -/
theorem replaceAt {root node container container' : Value} {address : Address}
    (wf : root.WellFormed schema) (h : root.get? address = some node)
    (present : node.present? = some container) (hshape : container'.shape = container.shape)
    (hwf : container'.WellFormed schema) :
    (root.replaceAt address container').WellFormed schema ∧
      (root.replaceAt address container').shape = root.shape := by
  have hnode := (wf.get? h).mapPresent (f := fun _ => container') present hshape hwf
  exact wf.update h hnode.2 hnode.1

end Value.WellFormed

/-! ## §3. One item or entry more, or one less. -/

/-- A container with an addition is well formed, and what it is a container of is the same. -/
theorem Addition.preserves {segment : String} {container container' : Value} {step : Step}
    (h : Addition schema segment container step container') (sound : schema.WellFormed)
    (wf : container.WellFormed schema) :
    container'.WellFormed schema ∧ container'.shape = container.shape := by
  match h, wf with
  | @Addition.item _ _ _ items i _ _ fresh, .list declared inner =>
      have hle : min i items.length ≤ items.length := Nat.min_le_right _ _
      refine ⟨.list ?_ ?_, rfl⟩
      · intro item hitem
        rcases (List.mem_insertIdx hle).mp hitem with hnew | hold
        · rw [hnew]
          exact Schema.shape_of_instantiate fresh
        · exact declared item hold
      · intro item hitem
        rcases (List.mem_insertIdx hle).mp hitem with hnew | hold
        · rw [hnew]
          exact sound.instantiate fresh
        · exact inner item hold
  | @Addition.entry _ _ _ _ before after added _ fresh place,
      .map keeps kinds declared inner =>
      -- The order is the insertion's business; for the rest, the place does not matter.
      have hkeeps := Entries.keeps_putKey keeps (.text segment) added
      rw [place] at hkeeps
      have hmem {entry : Key × Value} (h : entry ∈ before ++ (.text segment, added) :: after) :
          entry = (.text segment, added) ∨ entry ∈ before ++ after := by
        simp only [List.mem_append, List.mem_cons] at h ⊢
        rcases h with hbefore | hnew | hafter
        · exact .inr (.inl hbefore)
        · exact .inl hnew
        · exact .inr (.inr hafter)
      refine ⟨.map hkeeps ?_ ?_ ?_, rfl⟩
      all_goals
        intro entry hentry
        rcases hmem hentry with hnew | hold
      · rw [hnew, Key.kind]
      · exact kinds entry hold
      · rw [hnew]
        exact Schema.shape_of_instantiate fresh
      · exact declared entry hold
      · rw [hnew]
        exact sound.instantiate fresh
      · exact inner entry hold

/-- The same without one of its items or entries. -/
theorem Removal.preserves {segment : String} {container container' : Value}
    (h : Removal segment container container') (wf : container.WellFormed schema) :
    container'.WellFormed schema ∧ container'.shape = container.shape := by
  match h, wf with
  | @Removal.item _ _ items i _ _, .list declared inner =>
      have hsub := List.eraseIdx_sublist items i
      exact ⟨.list (fun item h => declared item (hsub.mem h)) fun item h => inner item (hsub.mem h),
        rfl⟩
  | @Removal.entry _ order _ _ entries key _ _ _, .map keeps kinds declared inner =>
      have hsub := Ordered.erase_sublist key entries
      have hkeys := hsub.map (·.1)
      refine ⟨.map ?_ (fun entry h => kinds entry (hsub.mem h))
        (fun entry h => declared entry (hsub.mem h)) fun entry h => inner entry (hsub.mem h), rfl⟩
      cases order with
      | sorted => exact List.Pairwise.sublist hkeys keeps
      | arrival => exact List.Nodup.sublist hkeys keeps

/-- What following a path leaves behind is well formed. -/
theorem Lands.preserves {root : Value} {before : List String} {last : String}
    {operation : Operation} {value : String} {landing : Landing}
    (h : Lands schema root before last operation value landing) (sound : schema.WellFormed)
    (wf : root.WellFormed schema) :
    landing.root.WellFormed schema ∧ landing.root.shape = root.shape := by
  cases h with
  | stopped _ | refused _ _ _ _ | selected _ _ _ _ _ | held _ _ _ _ => exact ⟨wf, rfl⟩
  | added located present _ adds _ | opened located present _ adds _ _ _ _ =>
      have hnode := Value.get?_of_locate? located
      obtain ⟨hwf, hshape⟩ := adds.preserves sound ((wf.get? hnode).present present)
      exact wf.replaceAt hnode present hshape hwf
  | removed located present _ removes =>
      have hnode := Value.get?_of_locate? located
      obtain ⟨hwf, hshape⟩ := removes.preserves ((wf.get? hnode).present present)
      exact wf.replaceAt hnode present hshape hwf

/-! ## §4. Writing to a slot. -/

/-- A conversion adds layers, and layers around a well-formed value are well formed. -/
theorem Value.WellFormed.convert {shape : Shape} {value stored : Value}
    (wf : value.WellFormed schema) (h : value.convert shape = .ok stored) :
    stored.WellFormed schema ∧ stored.shape = shape := by
  refine ⟨?_, Value.shape_of_convert h⟩
  induction shape generalizing stored with
  | nullable inner ih =>
      unfold Value.convert at h
      split at h
      · injection h with h
        rw [← h]
        exact wf
      · cases hinner : value.convert inner with
        | error cause =>
            rw [hinner] at h
            cases h
        | ok inside =>
            rw [hinner] at h
            injection h with h
            rw [← h]
            exact .filled (Value.shape_of_convert hinner) (ih hinner)
  | dynamic =>
      unfold Value.convert at h
      split at h
      · injection h with h
        rw [← h]
        exact wf
      · injection h with h
        rw [← h]
        exact .dynamic wf
  | _ =>
      unfold Value.convert at h
      split at h
      · injection h with h
        rw [← h]
        exact wf
      · cases h

/-- A slot that takes a well-formed value leaves a well-formed container. -/
theorem Slot.Binds.write_preserves {container new : Value} {step : Step} {slot slot' : Slot}
    (binds : Slot.Binds container step slot) (wf : container.WellFormed schema)
    (hnew : new.WellFormed schema) (h : slot.write new = .ok slot') :
    slot'.container.WellFormed schema ∧ slot'.container.shape = container.shape := by
  rw [binds.write_eq_replace wf new] at h
  cases hconvert : new.convert slot.declared with
  | error cause =>
      rw [hconvert] at h
      cases h
  | ok stored =>
      rw [hconvert] at h
      injection h with h
      obtain ⟨hwf, hshape⟩ := hnew.convert hconvert
      obtain ⟨part, hpart⟩ := binds.exists_part
      rw [← h, binds.container_replace]
      exact wf.mapPart hpart (hshape.trans (binds.declared_eq_shape wf hpart)) hwf

/-! ## §5. What updaters write. -/

namespace UpdateRequest

variable {request : UpdateRequest} {new : Value}

/-- What the update of a leaf type offers is well formed. -/
theorem Offers.wellFormed {leaf : LeafUpdate} (h : Offers request leaf new)
    (ascending : request.members.Pairwise (· < ·)) : new.WellFormed schema := by
  cases h with
  | text s => exact .text s
  | emptied => exact .vacant .text
  | bool b => exact .bool b
  | int n => exact .int n
  | float x => exact .float x
  | vector size => exact .vector size
  | inserted member =>
      exact .textSet (Ordered.ascending_insertMember (fun _ _ _ => String.lt_trans)
        Text.lt_of_ne_of_not_lt _ ascending)
  | erased member =>
      exact .textSet (List.Pairwise.sublist (Ordered.eraseMember_sublist _ _) ascending)

end UpdateRequest

/-- **TYPED UPDATERS**: what the updater leaves in the list, map or record around its slot is well
formed and has the shape that was there. The values of a host have types, so it can leave nothing
else there. -/
def Updater.Typed (schema : Schema) (updater : Updater) : Prop :=
  ∀ context container step slot', Slot.Binds container step context.slot →
    container.WellFormed schema → (updater.run context).slot = some slot' →
    slot'.container.WellFormed schema ∧ slot'.container.shape = container.shape

/-- Every updater in the table is typed. -/
def UpdaterTable.Typed (schema : Schema) (table : UpdaterTable) : Prop :=
  table.Each (Updater.Typed schema)

section

variable {engine : Engine} {container : Value} {step : Step} {slot slot' : Slot}
  {operation : Operation} {value : String}

theorem Slot.Binds.members_ascending (binds : Slot.Binds container step slot)
    (wf : container.WellFormed schema) (tokens : OperatorTokens) :
    (UpdateRequest.members ⟨value, operation, slot, tokens⟩).Pairwise (· < ·) := by
  obtain ⟨part, hpart⟩ := binds.exists_part
  rw [UpdateRequest.members_eq binds hpart]
  exact (wf.part hpart).1.members_ascending

/-- The updates of the leaf types are typed, also under other kinds than their own. -/
theorem LeafUpdate.typed (leaf : LeafUpdate) : leaf.updater.Typed schema := by
  intro context container step slot' binds wf h
  obtain ⟨message, hrun⟩ := Update.of_slot_eq_some h
  obtain ⟨new, offers, hwrite⟩ := UpdateRequest.run_offers leaf hrun
  exact binds.write_preserves wf (offers.wellFormed (binds.members_ascending wf _)) hwrite

theorem UpdaterTable.BuiltIn.typed {table : UpdaterTable} (builtIn : table.BuiltIn) :
    table.Typed schema := by
  intro kind updater hfind
  obtain ⟨leaf, rfl⟩ := builtIn kind updater hfind
  exact leaf.typed

/-- **THE LAST STAGE LEAVES WELL-FORMED CONTENTS**: those that an updater leaves or, on a default
request, the old ones with a default instance in the slot. -/
theorem updateSlot_typed (typed : engine.updaters.Typed engine.schema)
    (sound : engine.schema.WellFormed) (binds : Slot.Binds container step slot)
    (wf : container.WellFormed engine.schema) {notes : List Note}
    (h : (engine.updateSlot slot operation value notes).slot = some slot') :
    slot'.container.WellFormed engine.schema ∧ slot'.container.shape = container.shape := by
  unfold Engine.updateSlot at h
  cases hfind : engine.updaters.find? slot.declared.resolved.kind with
  | some updater =>
      rw [hfind] at h
      exact typed _ updater hfind ⟨⟨value, operation, slot, engine.config.operators⟩, notes⟩
        container step slot' binds wf h
  | none =>
      rw [hfind] at h
      obtain ⟨message, hfill⟩ := Update.of_slot_eq_some h
      obtain ⟨_, _, new, _, hnew, hwrite⟩ := fillSlot_writes hfill
      exact binds.write_preserves wf (sound.instantiate hnew) hwrite

end

/-! ## §6. Directives. -/

/-- **NO DIRECTIVE BREAKS A GRAPH**: whatever it says and however it ends, the graph
afterwards is well formed and has the shape that it had. -/
theorem apply_preserves (engine : Engine) (typed : engine.updaters.Typed engine.schema)
    (sound : engine.schema.WellFormed) {root : Value} (wf : root.WellFormed engine.schema)
    (directive : Directive) :
    (engine.apply root directive).1.WellFormed engine.schema ∧
      (engine.apply root directive).1.shape = root.shape := by
  rcases apply_cases engine directive with
    ⟨result, _, happly⟩ | ⟨before, last, operation, value, asks⟩
  · rw [happly root]
    exact ⟨wf, rfl⟩
  · rw [apply_eq_settle asks root]
    have lands := land_lands engine.schema root before last operation value
    have hlanding := lands.preserves sound wf
    generalize land engine.schema root (before ++ [last]) operation value = landing
      at lands hlanding ⊢
    obtain ⟨root', notes, result⟩ := landing
    obtain ⟨hwf, hshape⟩ := hlanding
    unfold Engine.settle
    rcases result with fault | (⟨parent, slot⟩ | status)
    · exact ⟨hwf, hshape⟩
    · obtain ⟨node, container, step, hnode, present, binds⟩ := lands.slot_bound
      have hcontainer := (hwf.get? hnode).present present
      simp only [Value.afterUpdate]
      rcases hupdate : (engine.updateSlot slot operation value notes).slot with _ | slot'
      · exact ⟨hwf, hshape⟩
      · -- The slot's container takes the place of the old one behind the layers of the node.
        obtain ⟨hwf', hshape'⟩ := updateSlot_typed typed sound binds hcontainer hupdate
        have hreplaced := hwf.replaceAt hnode present hshape' hwf'
        exact ⟨hreplaced.1, hreplaced.2.trans hshape⟩
    · exact ⟨hwf, hshape⟩

/-- **NOR DOES ANY SEQUENCE OF DIRECTIVES**, whatever the outcomes on the way. -/
theorem applyAll_preserves (engine : Engine) (typed : engine.updaters.Typed engine.schema)
    (sound : engine.schema.WellFormed) {root : Value} (wf : root.WellFormed engine.schema)
    (directives : List Directive) :
    (engine.applyAll root directives).1.WellFormed engine.schema ∧
      (engine.applyAll root directives).1.shape = root.shape := by
  induction directives generalizing root with
  | nil => exact ⟨wf, rfl⟩
  | cons directive rest ih =>
      obtain ⟨hwf, hshape⟩ := apply_preserves engine typed sound wf directive
      obtain ⟨hrest, hsame⟩ := ih hwf
      exact ⟨hrest, hsame.trans hshape⟩

end ConfigGraph
