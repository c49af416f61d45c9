/-
  ConfigGraph.Proofs.Container.Conservation
  ────────────────────────────────
  **INSERTIONS ADD, REMOVALS TAKE, AND LEAVES DO NOT ASK WHICH.**

  A directive that inserts or removes, and edits the graph, makes one item,
  entry or member more or less, and every leaf slot holds what it held.  With
  one exception: if its path leads to a field for a text, a truth value, a
  number or a vector, there is nothing to insert into or to remove from, and
  the update of the field reads the value as a literal and writes it, as it
  does for an overwrite.  Fields of other shapes refuse such directives, unless
  they are sets.

  Main results:
    * `Grows.oneMore`, `Removal.oneMore` — lists and maps
    * `Targets.gains_member`, `Targets.loses_member` — sets
    * `edited_cases`
    * `insertions_add_removals_take`
-/
import ConfigGraph.Proofs.Container.Gain

namespace ConfigGraph

/-! ## §1. Lists and maps. -/

section

variable {schema : Schema} {segment : String} {container container' : Value} {step : Step}
  {growth : Growth}

/-- A place that is taken is one part more, whatever is put there. -/
theorem Grows.oneMore (h : Grows segment container growth) (value : Value) :
    OneMore container growth.step (growth.slot value).container := by
  cases h with
  | @item shape items i reads =>
      have hle := Nat.min_le_right i items.length
      have hmore := @OneMore.item shape (items.take (min i items.length))
        (items.drop (min i items.length)) value
      rw [List.take_append_drop, List.length_take_of_le hle, ← Items.insertIdx_eq hle] at hmore
      exact hmore
  | @entry order shape entries absent =>
      obtain ⟨before, after, rfl, hput⟩ := Entries.putKey_of_absent order absent value
      have hmore := @OneMore.entry order .text shape before after (.text segment) value
        (Ordered.not_mem_keys_of_find?_eq_none absent)
      rw [← hput] at hmore
      exact hmore

/-- An addition takes a place, and the only slot at its step is the one of the place. -/
theorem Addition.grows (h : Addition schema segment container step container') :
    ∃ growth added, Grows segment container growth ∧ growth.step = step ∧
      container' = (growth.slot added).container ∧
      ∀ slot, Slot.Binds container' step slot → slot = growth.slot added := by
  cases h with
  | @item shape items i added reads fresh =>
      refine ⟨_, added, .item reads, rfl, rfl, fun slot binds => ?_⟩
      cases binds with
      | element _ => rfl
  | @entry order shape before after added absent fresh place =>
      refine ⟨_, added, .entry absent, rfl, ?_, fun slot binds => ?_⟩
      · rw [← place]
        rfl
      · cases binds with
        | entry reads _ =>
            injection reads with reads
            injection reads with reads
            rw [reads, ← place]
            rfl

/-- A removal can be read as an addition from its end to its beginning. -/
theorem Removal.oneMore (h : Removal segment container container')
    (wf : container.WellFormed schema) : ∃ new, OneMore container' new container := by
  match h, wf with
  | @Removal.item _ shape items i _ bound, _ =>
      have hmore := @OneMore.item shape (items.take i) (items.drop (i + 1)) items[i]
      rw [List.getElem_cons_drop, List.take_append_drop, ← List.eraseIdx_eq_take_drop_succ] at hmore
      exact ⟨_, hmore⟩
  | @Removal.entry _ order kind shape entries key old _ present, .map keeps _ _ _ =>
      obtain ⟨before, after, rfl, herase⟩ := Ordered.erase_of_find? present
      rw [herase]
      refine ⟨_, .entry fun hmem => ?_⟩
      have hnodup := keeps.nodup
      rw [List.map_append, List.map_cons, List.nodup_middle, List.nodup_cons, ← List.map_append]
        at hnodup
      exact hnodup.1 hmem

end

/-! ## §2. Sets. -/

section

variable {engine : Engine} {root node : Value} {above : Address} {name : String} {n : Nat}
  {directive : Directive} {text : String}
  (registered : engine.updaters.find? .textSet = some LeafUpdate.textSet.updater)
  (wf : root.WellFormed engine.schema) (held : root.get? (above ++ [.field name]) = some node)
  (declared : node.shape = .optional n .textSet)
  (edited : (engine.apply root directive).2.result = .ok .edited)

include registered wf held declared edited

/-- What is inserted into a set is one member more. -/
theorem Targets.gains_member
    (h : Targets engine root (above ++ [.field name]) directive .insert text) :
    Gains root above (.field name) (engine.apply root directive).1 := by
  have hyields := h.yields registered wf held declared
  by_cases present : text ∈ node.members
  · -- There would have been nothing to do.
    rw [hyields.ends, setOutcome, if_pos present] at edited
    cases edited
  · obtain ⟨before, after, hmembers, hinsert⟩ := Ordered.insertMember_of_not_mem present
    rw [hyields.root, setOutcome, if_neg present, hinsert]
    exact .member held declared hmembers (hmembers ▸ present)

/-- What is removed from a set is one member less. -/
theorem Targets.loses_member
    (h : Targets engine root (above ++ [.field name]) directive .remove text) :
    Gains (engine.apply root directive).1 above (.field name) root ∧
      (engine.apply root directive).1.WellFormed engine.schema := by
  have hyields := h.yields registered wf held declared
  by_cases present : text ∈ node.members
  · have ascending := (wf.get? held).members_ascending
    obtain ⟨before, after, _, hsplit, herase⟩ := List.exists_erase_eq present
    rw [← Ordered.eraseMember_eq_erase] at herase
    rw [hyields.root, setOutcome, if_pos present, herase]
    have hnodup := Ordered.nodup_of_ascending ascending
    rw [hsplit, List.nodup_middle, List.nodup_cons] at hnodup
    have filled : node.present?.isSome = true := by
      cases hpresent : node.present? with
      | some inside => rfl
      | none =>
          rw [Value.members, hpresent] at present
          cases present
    have hmember := Gains.member (Value.get?_withMembers held n (before ++ after))
      (Value.shape_layered _ n) (Value.members_layered _ n) hnodup.1
    rw [Value.withMembers_withMembers, ← hsplit,
      Value.withMembers_eq_self wf held declared filled] at hmember
    refine ⟨hmember, wf.withMembers held declared ?_⟩
    rw [← herase]
    exact ascending.sublist (Ordered.eraseMember_sublist _ _)
  · rw [hyields.ends, setOutcome, if_neg present] at edited
    cases edited

end

/-! ## §3. One directive. -/

/-- The graph `more` is the graph `less` with one more item, entry or member, and apart from what
is new, the same leaf slots hold the same values in both. -/
def OneAdded (less more : Value) : Prop :=
  ∃ above new, Gains less above new more ∧
    (∀ other value, value.IsLeafSlot → less.get? other = some value →
      more.get? (Address.past above new other) = some value) ∧
    ∀ other value, value.IsLeafSlot → more.get? other = some value →
      above ++ [new] <+: other ∨
        ∃ other', Address.past above new other' = other ∧ less.get? other' = some value

theorem Gains.oneAdded {schema : Schema} {less more : Value} {above : Address} {new : Step}
    (h : Gains less above new more) (wf : less.WellFormed schema) : OneAdded less more :=
  ⟨above, new, h, fun _ _ leaf held => h.kept wf leaf held, fun _ _ leaf held => h.covered leaf held⟩

section

variable {engine : Engine} {root node container : Value} {address above : Address}
  {directive : Directive} {operation : Operation} {value segment : String}

/-- A place that is taken below a node is one part more. -/
theorem Grows.oneAdded {schema : Schema} {growth : Growth} (h : Grows segment container growth)
    (wf : root.WellFormed schema) (held : root.get? address = some node)
    (present : node.present? = some container) (new : Value) :
    OneAdded root (root.replaceAt address (growth.slot new).container) :=
  (Gains.part held present (h.oneMore new)).oneAdded wf

theorem Removal.oneAdded {schema : Schema} {container' : Value}
    (h : Removal segment container container') (wf : root.WellFormed schema)
    (held : root.get? address = some node) (present : node.present? = some container) :
    OneAdded (root.replaceAt address container') root := by
  have wfContainer := (wf.get? held).present present
  obtain ⟨new, hmore⟩ := h.oneMore wfContainer
  have held' := (Value.replacedAt_replaceAt held container').reachable.2
  have present' : (node.mapPresent fun _ => container').present? = some container' := by
    rw [Value.present?_mapPresent, present]
    exact Value.present?_of_isBare hmore.isBare.1
  have hgains := Gains.part held' present' hmore
  rw [Value.replaceAt_replaceAt hmore.isBare.1, Value.replaceAt_self held present] at hgains
  obtain ⟨wfContainer', hshape⟩ := h.preserves wfContainer
  exact hgains.oneAdded (wf.replaceAt held present hshape wfContainer').1

/-- **WHAT IS BEHIND AN EDIT** that inserts or removes: one part more, one part less, or a field
at the end of the path. -/
theorem edited_cases (standard : engine.updaters = .standard) (wf : root.WellFormed engine.schema)
    (split : engine.config.operators.split directive.value = (operation, value))
    (selecting : operation = .insert ∨ operation = .remove)
    (edited : (engine.apply root directive).2.result = .ok .edited) :
    (operation = .insert ∧ OneAdded root (engine.apply root directive).1) ∨
      (operation = .remove ∧ OneAdded (engine.apply root directive).1 root) ∨
      ∃ above name node, root.get? (above ++ [.field name]) = some node ∧
        Targets engine root (above ++ [.field name]) directive operation value := by
  have applies := apply_applies standard root directive
  generalize engine.apply root directive = result at applies edited ⊢
  cases applies with
  | skipped _ | invalid _ | failed _ _ | rejected _ _ _ | kept _ _ _ => cases edited
  | finished asks lands =>
      obtain ⟨rfl, rfl⟩ := Prod.ext_iff.mp (asks.split.symm.trans split)
      cases lands with
      | held _ _ _ _ => cases edited
      | added located present inserting adds _ =>
          obtain ⟨growth, added, grows, rfl, rfl, _⟩ := adds.grows
          exact .inl ⟨inserting,
            grows.oneAdded wf (Value.get?_of_locate? located) present added⟩
      | removed located present removing removes =>
          exact .inr (.inl ⟨removing,
            removes.oneAdded wf (Value.get?_of_locate? located) present⟩)
  | @wrote before last operation' value' root' notes parent slot slot' message asks lands updates =>
      obtain ⟨rfl, rfl⟩ := Prod.ext_iff.mp (asks.split.symm.trans split)
      cases lands with
      | @selected _ parentNode _ part step _ located present leads binds fields =>
          have hfield : ∃ name, step = .field name := by
            rcases fields with rfl | rfl | hfield
            · rcases selecting with h | h <;> cases h
            · rcases selecting with h | h <;> cases h
            · exact hfield
          obtain ⟨name, rfl⟩ := hfield
          have hlocated : root.locate? (FieldPath.parse directive.path)
              = some (parent ++ [.field name], part) := by
            rw [asks.segments]
            exact Value.locate?_concat located leads
          exact .inr (.inr ⟨parent, name, part, Value.get?_of_locate? hlocated, asks.valid,
            ⟨asks.nonempty, split⟩, part, hlocated⟩)
      | opened located present inserting adds _ binds _ _ =>
          obtain ⟨growth, added, grows, rfl, rfl, hslot⟩ := adds.grows
          cases updates with
          | @wrote new _ message written writes =>
              -- Whatever the last stage wrote, it is in the place that was taken.
              rw [hslot slot binds] at writes
              obtain ⟨stored, _, rfl⟩ := grows.exists_of_write writes
              refine .inl ⟨inserting, ?_⟩
              rw [Value.replaceAt_replaceAt (grows.isBare added)]
              exact grows.oneAdded wf (Value.get?_of_locate? located) present stored

end

/-! ## §4. The statement. -/

/-- The path of the directive leads to a field, and this is the node in it. -/
structure AtField (engine : Engine) (root : Value) (directive : Directive) (operation : Operation)
    (value : String) (address : Address) (node : Value) : Prop where
  /-- The address is the one of a field. -/
  field : ∃ above name, address = above ++ [.field name]
  /-- The directive is a valid one, and its path leads there. -/
  targets : Targets engine root address directive operation value
  /-- The node is there. -/
  held : root.get? address = some node

/-- A field for a leaf takes the value as a literal, and the directive fails if it is none. -/
structure TakesLiteral (root after : Value) (outcome : Outcome) (address : Address) (node : Value)
    (value : String) : Prop where
  /-- What the literal says is in the field, behind its layers, and nothing else is different. -/
  read : ∀ new, Literal.read node.shape.resolved value = .ok new →
    outcome.result = .ok .edited ∧ ∃ stored, Value.ReplacedAt root after address stored ∧
      stored.shape = node.shape ∧ stored.present? = new.present?
  /-- Otherwise nothing changes. -/
  unread : ∀ issue, Literal.read node.shape.resolved value = .error issue →
    Fails root after outcome (.unreadable value node.shape.resolved issue)

/-- What a directive that inserts or removes leaves behind. -/
structure Conserves (engine : Engine) (root after : Value) (outcome : Outcome)
    (directive : Directive) (operation : Operation) (value : String) : Prop where
  /-- An insertion that edits the graph adds one part, unless it is at a leaf field. -/
  gained : operation = .insert → outcome.result = .ok .edited →
    (∀ address node, AtField engine root directive operation value address node →
      node.shape.resolved.isLeaf = false) → OneAdded root after
  /-- A removal that edits the graph takes one part, unless it is at a leaf field. -/
  lost : operation = .remove → outcome.result = .ok .edited →
    (∀ address node, AtField engine root directive operation value address node →
      node.shape.resolved.isLeaf = false) → OneAdded after root
  /-- At a leaf field it is an overwrite. -/
  leaf : ∀ address node, AtField engine root directive operation value address node →
    node.shape.resolved.isLeaf = true → TakesLiteral root after outcome address node value
  /-- Fields without an update of their own are left alone. -/
  bare : ∀ address node, AtField engine root directive operation value address node →
    UpdaterTable.standard.find? node.shape.resolved.kind = none →
    Fails root after outcome (.unsupported operation node.shape.resolved
      (.noLiterals (engine.config.operators.token .defaultValue)))

theorem Shape.exists_optional (shape : Shape) : ∃ n, shape = .optional n shape.resolved := by
  induction shape with
  | nullable inner ih =>
      obtain ⟨n, hn⟩ := ih
      exact ⟨n + 1, congrArg Shape.nullable hn⟩
  | _ => exact ⟨0, rfl⟩

section

variable {engine : Engine} {root node : Value} {address : Address} {directive : Directive}
  {operation : Operation} {value : String} (standard : engine.updaters = .standard)
  (selecting : operation = .insert ∨ operation = .remove)

include standard selecting

/-- A field without an update of its own takes resets only. -/
theorem AtField.fails (h : AtField engine root directive operation value address node)
    (bare : UpdaterTable.standard.find? node.shape.resolved.kind = none) :
    Fails root (engine.apply root directive).1 (engine.apply root directive).2
      (.unsupported operation node.shape.resolved
        (.noLiterals (engine.config.operators.token .defaultValue))) := by
  obtain ⟨above, name, rfl⟩ := h.field
  obtain ⟨_, _, slot, _, _, _, _, hslot, happly⟩ := h.targets.exists_slot h.held
  have hop : operation ≠ .defaultValue := by
    rintro rfl
    rcases selecting with h | h <;> cases h
  rw [← hslot] at bare ⊢
  rw [happly]
  rw [settle_of_ends (ends_of_bare (standard ▸ bare)), Engine.fillSlot, if_pos hop]
  exact ⟨rfl, rfl⟩

variable (wf : root.WellFormed engine.schema)

include wf

/-- **A LEAF FIELD IS OVERWRITTEN**, whichever of the two the directive asks for. -/
theorem AtField.takesLiteral (h : AtField engine root directive operation value address node)
    (leaf : node.shape.resolved.isLeaf = true) :
    TakesLiteral root (engine.apply root directive).1 (engine.apply root directive).2 address node
      value := by
  obtain ⟨above, name, rfl⟩ := h.field
  obtain ⟨parent, container, slot, hparent, present, binds, hpart, hslot, happly⟩ :=
    h.targets.exists_slot h.held
  obtain ⟨done, ends, updates⟩ := updateSlot_updates standard binds operation value
  rw [← hslot] at leaf
  rw [happly, settle_of_ends ends]
  rcases done with fault | done
  · obtain ⟨_, issue, hread, rfl⟩ := updates.of_leaf leaf
    rw [hslot] at hread ⊢
    refine ⟨fun new hnew => ?_, fun issue' hissue => ?_⟩
    · rw [hread] at hnew
      cases hnew
    · rw [hread] at hissue
      injection hissue with hissue
      rw [hissue]
      exact ⟨rfl, rfl⟩
  · cases updates with
    | @wrote new slot' message written writes =>
        obtain ⟨stored, hupdate, hshape, hpresent⟩ :=
          write_eq_update wf hparent present binds writes
        have hread : Literal.read node.shape.resolved value = .ok new := by
          rcases written.of_leaf leaf with ⟨_, hread⟩ | ⟨hop, _⟩
          · rw [← hslot, hread]
          · rcases selecting with h | h <;> (rw [h] at hop; cases hop)
        refine ⟨fun new' hnew' => ?_, fun issue hissue => ?_⟩
        · rw [hread] at hnew'
          injection hnew' with hnew'
          refine ⟨rfl, stored, ?_, hshape.trans hslot, hnew' ▸ hpresent⟩
          show Value.ReplacedAt root (root.replaceAt above slot'.container) _ _
          rw [hupdate]
          exact Value.replacedAt_update h.held fun _ => stored
        · rw [hread] at hissue
          cases hissue
    | kept set _ =>
        rw [set] at leaf
        cases leaf

/-- At a field for a set, an edit is one member more or less. -/
theorem AtField.oneAdded (h : AtField engine root directive operation value address node)
    (set : node.shape.resolved = .textSet)
    (edited : (engine.apply root directive).2.result = .ok .edited) :
    (operation = .insert ∧ OneAdded root (engine.apply root directive).1) ∨
      (operation = .remove ∧ OneAdded (engine.apply root directive).1 root) := by
  obtain ⟨above, name, rfl⟩ := h.field
  have registered : engine.updaters.find? .textSet = some LeafUpdate.textSet.updater := by
    rw [standard]
    rfl
  obtain ⟨n, hshape⟩ := node.shape.exists_optional
  rw [set] at hshape
  rcases selecting with rfl | rfl
  · exact .inl ⟨rfl, (h.targets.gains_member registered wf h.held hshape edited).oneAdded wf⟩
  · obtain ⟨hloses, wf'⟩ := h.targets.loses_member registered wf h.held hshape edited
    exact .inr ⟨rfl, hloses.oneAdded wf'⟩

end

/-- **INSERTIONS ADD AND REMOVALS TAKE**: a directive that inserts or removes, and edits the graph,
makes one item, entry or member more or less and leaves all leaf slots what they were, unless its
path leads to a leaf field, which it overwrites. -/
theorem insertions_add_removals_take {engine : Engine} (standard : engine.updaters = .standard)
    {root : Value} (wf : root.WellFormed engine.schema) {directive : Directive}
    {operation : Operation} {value : String}
    (split : engine.config.operators.split directive.value = (operation, value))
    (selecting : operation = .insert ∨ operation = .remove) :
    Conserves engine root (engine.apply root directive).1 (engine.apply root directive).2 directive
      operation value := by
  have hedit (edited : (engine.apply root directive).2.result = .ok .edited)
      (elsewhere : ∀ address node, AtField engine root directive operation value address node →
        node.shape.resolved.isLeaf = false) :
      (operation = .insert ∧ OneAdded root (engine.apply root directive).1) ∨
        (operation = .remove ∧ OneAdded (engine.apply root directive).1 root) := by
    rcases edited_cases standard wf split selecting edited with
      hmore | hless | ⟨above, name, node, held, targets⟩
    · exact .inl hmore
    · exact .inr hless
    -- At a field there are sets, leaves and the rest, and only the sets are left.
    · have hfield : AtField engine root directive operation value (above ++ [.field name]) node :=
        ⟨⟨above, name, rfl⟩, targets, held⟩
      cases hresolved : node.shape.resolved with
      | textSet => exact hfield.oneAdded standard selecting wf hresolved edited
      | text | bool | int | float | vector =>
          have hleaf := elsewhere _ _ hfield
          rw [hresolved] at hleaf
          cases hleaf
      | record | list | map | nullable | dynamic =>
          have hfails := hfield.fails standard selecting (by rw [hresolved]; rfl)
          rw [hfails.1] at edited
          cases edited
  refine ⟨fun hop edited elsewhere => ?_, fun hop edited elsewhere => ?_,
    fun _ _ h leaf => h.takesLiteral standard selecting wf leaf,
    fun _ _ h bare => h.fails standard selecting bare⟩
  · rcases hedit edited elsewhere with ⟨_, hmore⟩ | ⟨hno, _⟩
    · exact hmore
    · rw [hop] at hno
      cases hno
  · rcases hedit edited elsewhere with ⟨hno, _⟩ | ⟨_, hless⟩
    · rw [hop] at hno
      cases hno
    · exact hless

/-- An item is put between two others, and then it is given a value. -/
theorem insertions_add_removals_take_preset :
    Catalog.samplePreset.WellFormed (Engine.new Catalog.schema .standard).schema ∧
      Conserves (Engine.new Catalog.schema .standard) Catalog.samplePreset
        ((Engine.new Catalog.schema .standard).apply Catalog.samplePreset ⟨"values.1", "9 !+"⟩).1
        ((Engine.new Catalog.schema .standard).apply Catalog.samplePreset ⟨"values.1", "9 !+"⟩).2
        ⟨"values.1", "9 !+"⟩ .insert "9" :=
  ⟨by decide, insertions_add_removals_take rfl (by decide) (by rfl) (.inl rfl)⟩

/-- A removal at a field for an integer replaces the integer. -/
theorem leaf_field_overwritten :
    ¬ ∀ (root : Value) (directive : Directive) (operation : Operation) (value name : String)
      (old new : Value), root.WellFormed Catalog.schema →
      OperatorTokens.standard.split directive.value = (operation, value) →
      (operation = .insert ∨ operation = .remove) →
      ((Engine.new Catalog.schema .standard).apply root directive).2.result = .ok .edited →
      root.get? [.field name] = some old → old.shape.resolved.isLeaf = true →
      ((Engine.new Catalog.schema .standard).apply root directive).1.get? [.field name]
        = some new → new = old := by
  intro h
  have hsame := h Catalog.samplePreset ⟨"count", "5 !-"⟩ .remove "5" "count" (.int 2) (.int 5)
    (by decide) (by rfl) (.inr rfl) (by rfl) (by rfl) rfl (by rfl)
  injection hsame with hsame
  exact absurd hsame (by decide)

end ConfigGraph
