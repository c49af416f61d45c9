/-
  ConfigGraph.Proofs.Atomicity
  ────────────────────────────────
  **A DIRECTIVE HAPPENS OR IT DOES NOT.**

  A directive that is skipped, that changes nothing or that fails leaves the
  graph as it was.  There is one exception, and it is intended: an insertion
  with a value makes the new item or entry before it reads the value.  If the
  value cannot be used, the default instance stays where it was put, and the
  note about it is kept.  `LeavesInsertion` says exactly what is left.

  The notes tell the cases apart: without an edit note nothing has changed.

  Main results:
    * `apply_atomic`
-/
import ConfigGraph.Proofs.Application

namespace ConfigGraph

/-! ## §1. Fresh sets. -/

/-- A set in a new slot has no members. -/
theorem members_of_fresh {schema : Schema} {slot : Slot} {fresh : Value}
    (holds : slot.target? = some fresh)
    (instantiates : schema.instantiate slot.declared = some fresh)
    (set : slot.declared.resolved = .textSet) : slot.members = [] := by
  have hpresent : fresh.present? = some (.textSet []) := by
    rw [Schema.present?_of_instantiate instantiates, set]
    rfl
  rw [Slot.members, holds, Option.bind_some, hpresent]

/-! ## §2. The statement. -/

/-- A failing insertion with a value left one default instance behind, at the index or at the
end of a list or under a new key of a map, and nothing else. -/
structure LeavesInsertion (engine : Engine) (directive : Directive) (root after : Value)
    (fault : Fault) (notes : List Note) : Prop where
  /-- The insertion, the list or map that took it, and why the value could not be used. -/
  inserted : ∃ before last value address node container step container',
    Asks engine directive before last .insert value ∧ Text.isBlankText value = false ∧
    root.locate? before = some (address, node) ∧ node.present? = some container ∧
    Addition engine.schema last container step container' ∧
    Value.ReplacedAt root after address (node.mapPresent fun _ => container') ∧
    ∃ shape, (∃ issue, fault = .unreadable value shape issue) ∨
      ∃ refusal, fault = .unsupported .insert shape refusal
  /-- The insertion was reported. -/
  reported : ∃ message, notes = [⟨.edit, message⟩]

/-- How the graph after a directive depends on its outcome. -/
structure Atomic (engine : Engine) (directive : Directive) (root after : Value)
    (outcome : Outcome) : Prop where
  /-- A skipped directive changes and reports nothing. -/
  skipped : outcome.result = .ok .skipped → after = root ∧ outcome.notes = []
  /-- An unnecessary one changes nothing and reports the attempt. -/
  unchanged : outcome.result = .ok .unchanged →
    after = root ∧ ∃ message, outcome.notes = [⟨.attempt, message⟩]
  /-- One that edits reports its edits, which are one or two. -/
  edited : outcome.result = .ok .edited →
    (outcome.notes.length = 1 ∨ outcome.notes.length = 2) ∧
    ∀ note ∈ outcome.notes, note.kind = .edit
  /-- One that fails changes and reports nothing, except for an insertion. -/
  failed : ∀ fault, outcome.result = .error fault → after = root ∧ outcome.notes = [] ∨
    LeavesInsertion engine directive root after fault outcome.notes
  /-- Without an edit note nothing has changed. -/
  silent : (∀ note ∈ outcome.notes, note.kind ≠ .edit) → after = root

/-! ## §3. The ways to be atomic. -/

variable {engine : Engine} {directive : Directive} {root after : Value} {notes : List Note}

theorem Atomic.of_fault (fault : Fault) :
    Atomic engine directive root root ⟨.error fault, []⟩ where
  skipped := nofun
  unchanged := nofun
  edited := nofun
  failed := fun _ _ => .inl ⟨rfl, rfl⟩
  silent := fun _ => rfl

theorem Atomic.of_attempt (message : String) :
    Atomic engine directive root root ⟨.ok .unchanged, [⟨.attempt, message⟩]⟩ where
  skipped := nofun
  unchanged := fun _ => ⟨rfl, message, rfl⟩
  edited := nofun
  failed := nofun
  silent := fun _ => rfl

theorem Atomic.of_edits (hlength : notes.length = 1 ∨ notes.length = 2)
    (hkind : ∀ note ∈ notes, note.kind = .edit) :
    Atomic engine directive root after ⟨.ok .edited, notes⟩ where
  skipped := nofun
  unchanged := nofun
  edited := fun _ => ⟨hlength, hkind⟩
  failed := nofun
  silent := by
    intro hsilent
    cases notes with
    | nil => rcases hlength with h | h <;> cases h
    | cons note rest =>
        have hedit := hkind note List.mem_cons_self
        exact absurd hedit (hsilent note List.mem_cons_self)

theorem Atomic.of_insertion {fault : Fault}
    (h : LeavesInsertion engine directive root after fault notes) :
    Atomic engine directive root after ⟨.error fault, notes⟩ where
  skipped := nofun
  unchanged := nofun
  edited := nofun
  failed := by
    intro fault' hfault
    injection hfault with hfault
    rw [← hfault]
    exact .inr h
  silent := by
    intro hsilent
    obtain ⟨message, hnotes⟩ := h.reported
    refine absurd rfl (hsilent ⟨.edit, message⟩ ?_)
    rw [hnotes]
    exact List.mem_singleton_self _

/-! ## §4. Every directive is atomic. -/

/-- An update of a new slot that fails: the value cannot be used. -/
theorem leavesInsertion_of_updates {before : List String} {last value message : String}
    {address : Address} {node container container' : Value} {step : Step} {slot : Slot}
    {fault : Fault} (asks : Asks engine directive before last .insert value)
    (filled : Text.isBlankText value = false) (located : root.locate? before = some (address, node))
    (present : node.present? = some container)
    (adds : Addition engine.schema last container step container')
    (updates : Updates engine slot .insert value (.error fault)) :
    LeavesInsertion engine directive root (root.replaceAt address container') fault
      [⟨.edit, message⟩] := by
  -- An insertion is no reset, so of the failures of an update only two are left.
  have hfault : ∃ shape, (∃ issue, fault = .unreadable value shape issue) ∨
      ∃ refusal, fault = .unsupported .insert shape refusal := by
    cases updates with
    | unreadable _ _ _ => exact ⟨_, .inl ⟨_, rfl⟩⟩
    | noLiterals _ _ => exact ⟨_, .inr ⟨_, rfl⟩⟩
    | membersOnly _ selecting => rcases selecting with h | h <;> cases h
    | unknownTag _ resetting _ _ => cases resetting
    | noDefault _ resetting _ _ => cases resetting
    | mismatch _ resetting _ _ _ => cases resetting
  have hreplaced := Value.replacedAt_replaceAt (Value.get?_of_locate? located) container'
  exact ⟨⟨before, last, value, address, node, container, step, container', asks, filled, located,
    present, adds, hreplaced, hfault⟩, message, rfl⟩

/-- **EVERY DIRECTIVE IS ATOMIC** but for the one insertion that it reports: on every graph, for
every engine that has the updates it started with. -/
theorem apply_atomic (engine : Engine) (standard : engine.updaters = .standard) (root : Value)
    (directive : Directive) :
    Atomic engine directive root (engine.apply root directive).1
      (engine.apply root directive).2 := by
  have happlies := apply_applies standard root directive
  generalize engine.apply root directive = done at happlies ⊢
  cases happlies with
  | skipped _ => exact ⟨fun _ => ⟨rfl, rfl⟩, nofun, nofun, nofun, fun _ => rfl⟩
  | invalid _ => exact .of_fault _
  | failed _ lands =>
      cases lands with
      | stopped _ | refused _ _ _ _ => exact .of_fault _
  | finished _ lands =>
      cases lands with
      | held _ _ _ _ => exact .of_attempt _
      | added _ _ _ _ _ | removed _ _ _ _ =>
          exact .of_edits (.inl rfl) (by simp)
  | rejected asks lands updates =>
      cases lands with
      | selected _ _ _ _ _ => exact .of_fault _
      | opened located present inserting adds filled _ _ _ =>
          subst inserting
          exact .of_insertion
            (leavesInsertion_of_updates asks filled located present adds updates)
  | kept _ lands updates =>
      cases updates with
      | kept set idle =>
          cases lands with
          | selected _ _ _ _ _ => exact .of_attempt _
          | opened _ _ inserting _ _ _ holds instantiates =>
              -- A new set is empty, so an insertion into it is not idle.
              rcases idle with ⟨_, hmem⟩ | ⟨hremove, _⟩
              · rw [members_of_fresh holds instantiates set] at hmem
                cases hmem
              · rw [inserting] at hremove
                cases hremove
  | wrote _ lands updates =>
      cases updates with
      | wrote _ _ =>
          cases lands with
          | selected _ _ _ _ _ => exact .of_edits (.inl rfl) (by simp)
          | opened _ _ _ _ _ _ _ _ => exact .of_edits (.inr rfl) (by simp)

/-- An item goes into a list of integers before its value is read, and stays there. -/
theorem apply_atomic_preset :
    (Engine.new Catalog.schema .standard).updaters = .standard ∧
      ((Engine.new Catalog.schema .standard).apply Catalog.samplePreset
        ⟨"values.1", "many !+"⟩).2.result = .error (.unreadable "many" .int .malformed) ∧
      Atomic (Engine.new Catalog.schema .standard) ⟨"values.1", "many !+"⟩ Catalog.samplePreset
        ((Engine.new Catalog.schema .standard).apply Catalog.samplePreset ⟨"values.1", "many !+"⟩).1
        ((Engine.new Catalog.schema .standard).apply Catalog.samplePreset
          ⟨"values.1", "many !+"⟩).2 :=
  ⟨rfl, by rfl, apply_atomic _ rfl _ _⟩

end ConfigGraph
