/-
  ConfigGraph.Proofs.Update
  ────────────────────────────────
  **EVERYTHING THAT AN UPDATE CAN DO.**

  The standard table divides the shapes into three: leaves, which have
  literals; sets; and shapes without an update, which can only be reset.
  `Written` says which value an update writes, and `Updates` lists the
  effects of the last stage with the reason for each.

  A slot takes whatever the update of its shape writes.  The one value that a
  slot may refuse is the default instance of another shape, which a tag
  reference names.

  Main results:
    * `leaf_read`, `leaf_reset`, `textSet_cases`, `resolve_cases`
    * `updateSlot_updates`
-/
import Mathlib.Data.List.Basic
import ConfigGraph.Proofs.Slot
import ConfigGraph.Proofs.Updater

namespace ConfigGraph

/-! ## §1. Literals by shape. -/

/-- The shape is a leaf with literals. -/
def Shape.isLeaf : Shape → Bool
  | .text | .bool | .int | .float | .vector _ => true
  | _ => false

/-- The value that a literal of a leaf writes. -/
def Literal.read : Shape → String → Except ParseIssue Value
  | .text, raw => .ok (.text raw)
  | .bool, raw => .ok (.bool (Literal.bool raw))
  | .int, raw =>
      match Text.int? raw with
      | some n => .ok (.int n)
      | none => .error .malformed
  | .float, raw =>
      match Literal.float? raw with
      | some x => .ok (.float x)
      | none => .error .malformed
  | .vector dim, raw => (Literal.vector dim raw).map (.vector dim)
  | _, _ => .error .malformed

theorem Literal.shape_of_read {shape : Shape} {raw : String} {new : Value}
    (h : Literal.read shape raw = .ok new) : new.shape = shape := by
  cases shape with
  | text | bool =>
      injection h with h
      rw [← h, Value.shape]
  | int | float =>
      rw [Literal.read] at h
      split at h
      · injection h with h
        rw [← h, Value.shape]
      · cases h
  | vector dim =>
      rw [Literal.read] at h
      cases hread : Literal.vector dim raw with
      | error issue =>
          rw [hread] at h
          cases h
      | ok components =>
          rw [hread] at h
          injection h with h
          rw [← h, Value.shape]
  | _ => cases h

/-! ## §2. The updates of leaves. -/

namespace UpdateRequest

variable {request : UpdateRequest} {container : Value} {step : Step} {leaf : LeafUpdate}

/-- The update wrote this value and said so. -/
def Commits (request : UpdateRequest) (new : Value) (result : Except Fault UpdateEffect) : Prop :=
  ∃ slot' message, request.slot.write new = .ok slot' ∧ result = .ok (.wrote slot' message)

theorem commits_write (binds : Slot.Binds container step request.slot) {new : Value}
    (haccepts : request.slot.declared.accepts new.shape = true) (message : String) :
    request.Commits new (request.write new message) := by
  obtain ⟨slot', hwrite⟩ := binds.write_of_accepts haccepts
  exact ⟨slot', message, hwrite, by rw [write, hwrite]⟩

/-- And it takes every value of the shape that literals are read for. -/
theorem commits_write_of_shape (binds : Slot.Binds container step request.slot) {shape : Shape}
    (hshape : request.shape = shape) {new : Value} (hnew : new.shape = shape) (message : String) :
    request.Commits new (request.write new message) := by
  refine commits_write binds ?_ message
  rw [hnew, ← hshape]
  exact request.slot.declared.accepts_resolved

/-- **A LEAF IS WRITTEN AS READ**: unless it is reset, its update writes the value of the
literal, or reports what is wrong with it. -/
theorem leaf_read (request : UpdateRequest) (binds : Slot.Binds container step request.slot)
    (hfind : UpdaterTable.leaf? request.shape.kind = some leaf)
    (hleaf : request.shape.isLeaf = true) (hop : request.operation ≠ .defaultValue) :
    match Literal.read request.shape request.value with
    | .ok new => request.Commits new (leaf.run request)
    | .error issue => leaf.run request = .error (request.unreadable issue) := by
  cases hshape : request.shape with
  | text =>
      rw [hshape] at hfind
      cases hfind
      show request.Commits _ (updateText request)
      rw [updateText, if_pos hop]
      exact commits_write_of_shape binds hshape (by rfl) _
  | bool =>
      rw [hshape] at hfind
      cases hfind
      -- Every text is a truth value, so this update has no failure to report.
      have hread : (decide (request.operation ≠ .defaultValue) && Literal.bool request.value)
          = Literal.bool request.value := by rw [decide_eq_true hop, Bool.true_and]
      show request.Commits _ (updateBool request)
      rw [updateBool, hread]
      exact commits_write_of_shape binds hshape (by rfl) _
  | int =>
      rw [hshape] at hfind
      cases hfind
      -- The slot is written after the literal has been read, so a bad literal writes nothing.
      simp only [Literal.read, LeafUpdate.run, updateInt, if_neg hop]
      cases Text.int? request.value with
      | none => rfl
      | some n => exact commits_write_of_shape binds hshape (by rfl) _
  | float =>
      rw [hshape] at hfind
      cases hfind
      simp only [Literal.read, LeafUpdate.run, updateFloat, if_neg hop]
      cases Literal.float? request.value with
      | none => rfl
      | some x => exact commits_write_of_shape binds hshape (by rfl) _
  | vector dim =>
      have hupdater : leaf = .vector dim := by
        rw [hshape] at hfind
        cases dim <;> cases hfind <;> rfl
      subst hupdater
      simp only [Literal.read, LeafUpdate.run, updateVector, if_neg hop]
      cases Literal.vector dim request.value with
      | error issue => rfl
      | ok components => exact commits_write_of_shape binds hshape (by rfl) _
  | _ =>
      rw [hshape] at hleaf
      cases hleaf

/-- **A LEAF IS RESET TO ITS DEFAULT**, except that a nullable text is emptied. -/
theorem leaf_reset (request : UpdateRequest) (schema : Schema)
    (binds : Slot.Binds container step request.slot)
    (hfind : UpdaterTable.leaf? request.shape.kind = some leaf)
    (hleaf : request.shape.isLeaf = true) (hop : request.operation = .defaultValue) :
    (request.shape = .text ∧ request.slot.declared.isNullable = true ∧
        request.Commits (.vacant .text) (leaf.run request)) ∨
      ((request.shape = .text → request.slot.declared.isNullable = false) ∧
        ∃ new, schema.instantiate request.shape = some new ∧
          request.Commits new (leaf.run request)) := by
  cases hshape : request.shape with
  | text =>
      rw [hshape] at hfind
      cases hfind
      have hno : ¬ request.operation ≠ .defaultValue := not_not_intro hop
      simp only [LeafUpdate.run, updateText, if_neg hno]
      cases hnullable : request.slot.declared.isNullable with
      | true =>
          -- What is written is one empty layer, whatever the number of layers of the slot.
          refine .inl ⟨trivial, rfl, commits_write binds ?_ _⟩
          have haccepts := Shape.accepts_nullable_resolved hnullable
          rw [show request.slot.declared.resolved = .text from hshape] at haccepts
          exact haccepts
      | false =>
          refine .inr ⟨fun _ => rfl, _, rfl, ?_⟩
          exact commits_write_of_shape binds hshape (by rfl) _
  | bool =>
      rw [hshape] at hfind
      cases hfind
      have hread : (decide (request.operation ≠ .defaultValue) && Literal.bool request.value)
          = false := by rw [decide_eq_false (not_not_intro hop), Bool.false_and]
      refine .inr ⟨fun h => Shape.noConfusion h, .bool false, rfl, ?_⟩
      rw [LeafUpdate.run, updateBool, hread]
      exact commits_write_of_shape binds hshape (by rfl) _
  | int =>
      rw [hshape] at hfind
      cases hfind
      refine .inr ⟨fun h => Shape.noConfusion h, .int 0, rfl, ?_⟩
      simp only [LeafUpdate.run, updateInt, if_pos hop]
      exact commits_write_of_shape binds hshape (by rfl) _
  | float =>
      rw [hshape] at hfind
      cases hfind
      refine .inr ⟨fun h => Shape.noConfusion h, .float .zero, rfl, ?_⟩
      simp only [LeafUpdate.run, updateFloat, if_pos hop]
      exact commits_write_of_shape binds hshape (by rfl) _
  | vector dim =>
      have hupdater : leaf = .vector dim := by
        rw [hshape] at hfind
        cases dim <;> cases hfind <;> rfl
      subst hupdater
      refine .inr ⟨fun h => Shape.noConfusion h, .vector dim (List.replicate dim.size .zero), rfl, ?_⟩
      simp only [LeafUpdate.run, updateVector, if_pos hop]
      exact commits_write_of_shape binds hshape (by rfl) _
  | _ =>
      rw [hshape] at hleaf
      cases hleaf

/-! ## §3. The update of sets. -/

/-- The members of the set in a bound slot are those of the part that its step leads to. -/
theorem members_eq {part : Value} (binds : Slot.Binds container step request.slot)
    (hpart : container.part? step = some part) : request.members = part.members := by
  rw [members, binds.target?_eq, hpart]
  rfl

/-- **A SET GAINS OR LOSES ONE MEMBER**, or it is kept because there is nothing to do; it takes
no other operation. -/
theorem textSet_cases (request : UpdateRequest) (binds : Slot.Binds container step request.slot)
    (hshape : request.shape = .textSet) :
    (request.operation = .insert ∧ request.value ∉ request.members ∧
        request.Commits (.textSet (Ordered.insertMember request.value request.members))
          (updateTextSet request)) ∨
      (request.operation = .remove ∧ request.value ∈ request.members ∧
        request.Commits (.textSet (Ordered.eraseMember request.value request.members))
          (updateTextSet request)) ∨
      ((request.operation = .insert ∧ request.value ∈ request.members ∨
          request.operation = .remove ∧ request.value ∉ request.members) ∧
        ∃ message, updateTextSet request = .ok (.kept message)) ∨
      ((request.operation = .overwrite ∨ request.operation = .defaultValue) ∧
        updateTextSet request
          = .error (.unsupported request.operation request.shape .membersOnly)) := by
  unfold updateTextSet
  cases hop : request.operation with
  | overwrite => exact .inr (.inr (.inr ⟨.inl rfl, rfl⟩))
  | defaultValue => exact .inr (.inr (.inr ⟨.inr rfl, rfl⟩))
  | insert =>
      by_cases hmem : request.value ∈ request.members
      · exact .inr (.inr (.inl ⟨.inl ⟨rfl, hmem⟩, _, if_pos hmem⟩))
      · refine .inl ⟨rfl, hmem, ?_⟩
        simp only [if_neg hmem]
        exact commits_write_of_shape binds hshape (by rfl) _
  | remove =>
      by_cases hmem : request.value ∈ request.members
      · refine .inr (.inl ⟨rfl, hmem, ?_⟩)
        simp only [if_pos hmem]
        exact commits_write_of_shape binds hshape (by rfl) _
      · exact .inr (.inr (.inl ⟨.inr ⟨rfl, hmem⟩, _, if_neg hmem⟩))

end UpdateRequest

/-! ## §4. Resets. -/

namespace TagTable

/-- A tag reference is the marker with the tag behind it. -/
theorem eq_of_reference? {table : TagTable} {value tag : String}
    (h : table.reference? value = some tag) : value = table.marker ++ tag := by
  rw [reference?, Option.map_eq_some_iff] at h
  obtain ⟨rest, hrest, htag⟩ := h
  have hlist : table.marker.toList ++ rest = value.toList :=
    List.isPrefixOf?_eq_some_iff_append_eq.mp hrest
  rw [← htag, ← String.toList_inj, String.toList_append, String.toList_ofList, hlist]

/-- The shape that a value refers to, if it refers to one. -/
inductive Resolves (table : TagTable) (value : String) : Option Shape → Prop where
  /-- The value is no tag reference. -/
  | plain (noReference : table.reference? value = none) : Resolves table value none
  /-- The tag is registered. -/
  | tagged {tag : String} {shape : Shape} (reference : table.reference? value = some tag)
      (registered : table.find? tag = some shape) : Resolves table value (some shape)

theorem resolve_cases (table : TagTable) (value : String) :
    (∃ tagged, table.Resolves value tagged ∧ table.resolve value = .ok tagged) ∨
      ∃ tag, table.reference? value = some tag ∧ table.find? tag = none ∧
        table.resolve value = .error (.unknownTag value) := by
  cases href : table.reference? value with
  | none => exact .inl ⟨none, .plain href, by simp only [resolve, href]⟩
  | some tag =>
      cases hfind : table.find? tag with
      | none => exact .inr ⟨tag, rfl, hfind, by simp only [resolve, href, hfind]⟩
      | some shape =>
          exact .inl ⟨some shape, .tagged href hfind, by simp only [resolve, href, hfind]⟩

end TagTable

/-! ## §5. The last stage of a directive. -/

/-- The members of the set in the slot; an empty slot has none. -/
def Slot.members (slot : Slot) : List String :=
  match slot.target?.bind Value.present? with
  | some (.textSet members) => members
  | _ => []

/-- The value that the last stage writes to the slot. -/
inductive Written (engine : Engine) (slot : Slot) (operation : Operation) (value : String) :
    Value → Prop where
  /-- What a literal of the leaf says. -/
  | read {new : Value} (leaf : slot.declared.resolved.isLeaf = true)
      (setting : operation ≠ .defaultValue)
      (reads : Literal.read slot.declared.resolved value = .ok new) :
      Written engine slot operation value new
  /-- Nothing, in a nullable text. -/
  | emptied (text : slot.declared.resolved = .text) (nullable : slot.declared.isNullable = true)
      (resetting : operation = .defaultValue) : Written engine slot operation value (.vacant .text)
  /-- The default of any other leaf. -/
  | zeroed {new : Value} (leaf : slot.declared.resolved.isLeaf = true)
      (filled : slot.declared.resolved = .text → slot.declared.isNullable = false)
      (resetting : operation = .defaultValue)
      (fresh : engine.schema.instantiate slot.declared.resolved = some new) :
      Written engine slot operation value new
  /-- The set with one member more. -/
  | inserted (set : slot.declared.resolved = .textSet) (inserting : operation = .insert)
      (absent : value ∉ slot.members) :
      Written engine slot operation value (.textSet (Ordered.insertMember value slot.members))
  /-- The set with one member less. -/
  | erased (set : slot.declared.resolved = .textSet) (removing : operation = .remove)
      (present : value ∈ slot.members) :
      Written engine slot operation value (.textSet (Ordered.eraseMember value slot.members))
  /-- The default instance of a shape without an update, or of the shape that a tag names. -/
  | instance' {new : Value} {tagged : Option Shape}
      (bare : UpdaterTable.standard.find? slot.declared.resolved.kind = none)
      (resetting : operation = .defaultValue) (tags : engine.tags.Resolves value tagged)
      (fresh : engine.schema.instantiate (tagged.getD slot.declared.resolved) = some new) :
      Written engine slot operation value new

/-- What is known of the result of the last stage. -/
inductive Updates (engine : Engine) (slot : Slot) (operation : Operation) (value : String) :
    Except Fault UpdateEffect → Prop where
  /-- A value was written. -/
  | wrote {new : Value} {slot' : Slot} {message : String}
      (written : Written engine slot operation value new) (writes : slot.write new = .ok slot') :
      Updates engine slot operation value (.ok (.wrote slot' message))
  /-- The set has the member already, or does not have it. -/
  | kept {message : String} (set : slot.declared.resolved = .textSet)
      (idle : operation = .insert ∧ value ∈ slot.members ∨
        operation = .remove ∧ value ∉ slot.members) :
      Updates engine slot operation value (.ok (.kept message))
  /-- The value is no literal of the leaf. -/
  | unreadable {issue : ParseIssue} (leaf : slot.declared.resolved.isLeaf = true)
      (setting : operation ≠ .defaultValue)
      (reads : Literal.read slot.declared.resolved value = .error issue) :
      Updates engine slot operation value
        (.error (.unreadable value slot.declared.resolved issue))
  /-- A set takes insertions and removals only. -/
  | membersOnly (set : slot.declared.resolved = .textSet)
      (selecting : operation = .overwrite ∨ operation = .defaultValue) :
      Updates engine slot operation value
        (.error (.unsupported operation slot.declared.resolved .membersOnly))
  /-- A shape without an update takes resets only. -/
  | noLiterals (bare : UpdaterTable.standard.find? slot.declared.resolved.kind = none)
      (setting : operation ≠ .defaultValue) :
      Updates engine slot operation value (.error (.unsupported operation slot.declared.resolved
        (.noLiterals (engine.config.operators.token .defaultValue))))
  /-- The tag is not registered. -/
  | unknownTag {tag : String}
      (bare : UpdaterTable.standard.find? slot.declared.resolved.kind = none)
      (resetting : operation = .defaultValue) (reference : engine.tags.reference? value = some tag)
      (unregistered : engine.tags.find? tag = none) :
      Updates engine slot operation value (.error (.unknownTag value))
  /-- The shape has no default instance. -/
  | noDefault {tagged : Option Shape}
      (bare : UpdaterTable.standard.find? slot.declared.resolved.kind = none)
      (resetting : operation = .defaultValue) (tags : engine.tags.Resolves value tagged)
      (barren : engine.schema.instantiate (tagged.getD slot.declared.resolved) = none) :
      Updates engine slot operation value
        (.error (.noDefault (tagged.getD slot.declared.resolved)))
  /-- The slot does not take the shape that the tag names. -/
  | mismatch {tag : String} {shape : Shape}
      (bare : UpdaterTable.standard.find? slot.declared.resolved.kind = none)
      (resetting : operation = .defaultValue) (reference : engine.tags.reference? value = some tag)
      (registered : engine.tags.find? tag = some shape)
      (refuses : slot.declared.accepts shape = false) :
      Updates engine slot operation value
        (.error (.write (.typeMismatch slot.declared.resolved shape)))

/-! ## §6. Every update is one of them. -/

section

variable {engine : Engine} {container : Value} {step : Step} {slot : Slot}
  {operation : Operation} {value : String}

/-- To begin with, every leaf but the sets has the update of a single value. -/
theorem UpdaterTable.leaf?_of_isLeaf {shape : Shape} (leaf : shape.isLeaf = true) :
    ∃ update, UpdaterTable.leaf? shape.kind = some update ∧ update.isScalar = true := by
  cases shape with
  | vector dim => cases dim <;> exact ⟨_, rfl, rfl⟩
  | text | bool | int | float => exact ⟨_, rfl, rfl⟩
  | _ => cases leaf

/-- An update that wrote a value ends the directive as edited. -/
theorem Updates.of_commits {new : Value} {done : Except Fault UpdateEffect}
    (written : Written engine slot operation value new)
    (h : UpdateRequest.Commits ⟨value, operation, slot, engine.config.operators⟩ new done) :
    Updates engine slot operation value done := by
  obtain ⟨slot', message, hwrite, rfl⟩ := h
  exact .wrote written hwrite

/-- The update of a leaf reads or resets it. -/
theorem updates_leaf (binds : Slot.Binds container step slot)
    (leaf : slot.declared.resolved.isLeaf = true) {update : LeafUpdate}
    (hupdate : UpdaterTable.leaf? slot.declared.resolved.kind = some update) :
    Updates engine slot operation value
      (update.run ⟨value, operation, slot, engine.config.operators⟩) := by
  let request : UpdateRequest := ⟨value, operation, slot, engine.config.operators⟩
  by_cases hop : operation = .defaultValue
  · rcases UpdateRequest.leaf_reset request engine.schema binds hupdate leaf hop with
      ⟨htext, hnullable, hcommits⟩ | ⟨hfilled, new, hfresh, hcommits⟩
    · exact .of_commits (.emptied htext hnullable hop) hcommits
    · exact .of_commits (.zeroed leaf hfilled hop hfresh) hcommits
  · have hread := UpdateRequest.leaf_read request binds hupdate leaf hop
    cases hliteral : Literal.read slot.declared.resolved value with
    | ok new =>
        rw [show Literal.read request.shape request.value = _ from hliteral] at hread
        exact .of_commits (.read leaf hop hliteral) hread
    | error issue =>
        rw [show Literal.read request.shape request.value = _ from hliteral] at hread
        rw [hread]
        exact .unreadable leaf hop hliteral

theorem updates_textSet (binds : Slot.Binds container step slot)
    (set : slot.declared.resolved = .textSet) :
    Updates engine slot operation value
      (LeafUpdate.textSet.run ⟨value, operation, slot, engine.config.operators⟩) := by
  let request : UpdateRequest := ⟨value, operation, slot, engine.config.operators⟩
  rcases UpdateRequest.textSet_cases request binds set with
    ⟨hop, hmem, hcommits⟩ | ⟨hop, hmem, hcommits⟩ | ⟨idle, message, hrun⟩ | ⟨hop, hrun⟩
  · exact .of_commits (.inserted set hop hmem) hcommits
  · exact .of_commits (.erased set hop hmem) hcommits
  · rw [LeafUpdate.run, hrun]
    exact .kept set idle
  · rw [LeafUpdate.run, hrun]
    exact .membersOnly set hop

theorem updates_bare (binds : Slot.Binds container step slot)
    (bare : UpdaterTable.standard.find? slot.declared.resolved.kind = none) :
    Updates engine slot operation value (engine.fillSlot slot operation value) := by
  unfold Engine.fillSlot
  by_cases hop : operation = .defaultValue
  · simp only [hop, ne_eq, not_true, if_false, Slot.reset]
    rcases engine.tags.resolve_cases value with
      ⟨tagged, resolves, hresolve⟩ | ⟨tag, reference, unregistered, hresolve⟩
    · simp only [hresolve]
      cases hfresh : engine.schema.instantiate (tagged.getD slot.declared.resolved) with
      | none => exact .noDefault bare rfl resolves hfresh
      | some new =>
          have hshape := Schema.shape_of_instantiate hfresh
          cases haccepts : slot.declared.accepts new.shape with
          | true =>
              obtain ⟨slot', hwrite⟩ := binds.write_of_accepts haccepts
              simp only [hwrite]
              exact .wrote (.instance' bare rfl resolves hfresh) hwrite
          | false =>
              simp only [binds.write_of_not_accepts haccepts]
              rw [hshape] at haccepts ⊢
              cases resolves with
              | plain _ =>
                  -- Without a tag the instance has the slot's own shape, which the slot takes.
                  rw [show (none.getD _ : Shape) = slot.declared.resolved from rfl,
                    Shape.accepts_resolved] at haccepts
                  cases haccepts
              | tagged reference registered =>
                  exact .mismatch bare rfl reference registered haccepts
    · simp only [hresolve]
      exact .unknownTag bare rfl reference unregistered
  · simp only [ne_eq, hop, not_false_eq_true, if_true]
    exact .noLiterals bare hop

/-- **EVERYTHING THAT THE LAST STAGE CAN DO**, with the updaters that an engine starts with. -/
theorem updateSlot_updates (standard : engine.updaters = .standard)
    (binds : Slot.Binds container step slot) (operation : Operation) (value : String) :
    ∃ done, engine.Ends slot operation value done ∧ Updates engine slot operation value done := by
  have hfind : engine.updaters.find? slot.declared.resolved.kind
      = (UpdaterTable.leaf? slot.declared.resolved.kind).map LeafUpdate.updater := by
    rw [standard, UpdaterTable.find?_standard]
  cases hshape : slot.declared.resolved with
  | text | bool | int | float | vector =>
      have leaf : slot.declared.resolved.isLeaf = true := by rw [hshape]; rfl
      obtain ⟨update, hupdate, _⟩ := UpdaterTable.leaf?_of_isLeaf leaf
      rw [hupdate] at hfind
      exact ⟨_, ends_of_leaf hfind, updates_leaf binds leaf hupdate⟩
  | textSet =>
      rw [hshape] at hfind
      exact ⟨_, ends_of_leaf (hshape ▸ hfind), updates_textSet binds hshape⟩
  | record | list | map | nullable | dynamic =>
      have bare : UpdaterTable.standard.find? slot.declared.resolved.kind = none := by
        rw [hshape]
        rfl
      exact ⟨_, ends_of_bare (standard ▸ bare), updates_bare binds bare⟩

end

end ConfigGraph
