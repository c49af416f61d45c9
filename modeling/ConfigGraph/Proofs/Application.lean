/-
  ConfigGraph.Proofs.Application
  ────────────────────────────────
  **EVERYTHING THAT A DIRECTIVE CAN DO.**

  `Applies` puts the stages of a directive together: it is skipped, its path
  is no path, its path ends without a slot (`Lands`), or its path ends at a
  slot and the slot is updated (`Updates`).  Each end comes with the graph
  and the outcome as they are then, so a property of all runs is a case
  analysis of the two relations, and no proof about runs opens the engine.

  Main results:
    * `apply_applies`
-/
import ConfigGraph.Proofs.Landing
import ConfigGraph.Proofs.Update

namespace ConfigGraph

/-! ## §1. What a directive says. -/

/-- The directive is valid, and this is what it asks for. -/
structure Asks (engine : Engine) (directive : Directive) (before : List String) (last : String)
    (operation : Operation) (value : String) : Prop where
  /-- The raw value is not the empty text. -/
  nonempty : directive.value.isEmpty = false
  /-- The path is a path. -/
  valid : FieldPath.validate directive.path = .ok ()
  /-- The operation, and the value without its token. -/
  split : engine.config.operators.split directive.value = (operation, value)
  /-- The segments of the path. -/
  segments : FieldPath.parse directive.path = before ++ [last]

theorem nonempty_of_validate {path : String} (h : FieldPath.validate path = .ok ()) :
    path.isEmpty = false := by
  rw [FieldPath.validate] at h
  cases hempty : path.isEmpty with
  | false => rfl
  | true =>
      rw [hempty, if_pos rfl] at h
      cases h

theorem exists_last_of_validate {path : String} (h : FieldPath.validate path = .ok ()) :
    ∃ before last, FieldPath.parse path = before ++ [last] := by
  have hne : FieldPath.parse path ≠ [] := by
    intro hnil
    rw [FieldPath.validate, nonempty_of_validate h, if_neg Bool.false_ne_true, hnil] at h
    split at h <;> cases h
  exact ⟨_, _, (List.dropLast_concat_getLast hne).symm⟩

/-! ## §2. The stages, for every engine. -/

/-- The directive is not carried out, and this is how it ends. -/
inductive Dismissed (directive : Directive) : Except Fault Status → Prop where
  /-- The path or the value is the empty text. -/
  | skipped (empty : directive.path.isEmpty = true ∨ directive.value.isEmpty = true) :
      Dismissed directive (.ok .skipped)
  /-- The path is no path. -/
  | invalid {defect : FieldPath.Defect}
      (invalid : FieldPath.validate directive.path = .error defect) :
      Dismissed directive (.error (.invalidPath directive.path defect))

/-- The graph and the outcome after the last stage at a slot of the parent. -/
def Value.afterUpdate (root : Value) (parent : Address) (update : Update) : Value × Outcome :=
  (match update.slot with
    | some slot' => root.replaceAt parent slot'.container
    | none => root,
   ⟨update.result, update.notes⟩)

/-- What becomes of a landing: if it ended at a slot, the slot is updated. -/
def Engine.settle (engine : Engine) (operation : Operation) (value : String) (landing : Landing) :
    Value × Outcome :=
  match landing.result with
  | .error fault => (landing.root, ⟨.error fault, landing.notes⟩)
  | .ok (.finished status) => (landing.root, ⟨.ok status, landing.notes⟩)
  | .ok (.slot parent slot) =>
      landing.root.afterUpdate parent (engine.updateSlot slot operation value landing.notes)

/-- The graph and the outcome after an effect at a slot of the parent. -/
def Value.afterEffect (root : Value) (parent : Address) (notes : List Note) :
    Except Fault UpdateEffect → Value × Outcome
  | .ok (.wrote slot' message) =>
      (root.replaceAt parent slot'.container, ⟨.ok .edited, notes ++ [⟨.edit, message⟩]⟩)
  | .ok (.kept message) => (root, ⟨.ok .unchanged, notes ++ [⟨.attempt, message⟩]⟩)
  | .error fault => (root, ⟨.error fault, notes⟩)

/-- Where the last stage has one effect, this is what becomes of the landing. -/
theorem settle_of_ends {engine : Engine} {slot : Slot} {operation : Operation} {value : String}
    {done : Except Fault UpdateEffect} (ends : engine.Ends slot operation value done)
    (root : Value) (notes : List Note) (parent : Address) :
    engine.settle operation value ⟨root, notes, .ok (.slot parent slot)⟩
      = root.afterEffect parent notes done := by
  unfold Engine.settle
  simp only [ends notes]
  rcases done with fault | ⟨slot', message⟩ | message <;> rfl

/-- A valid directive comes to what its landing comes to. -/
theorem apply_eq_settle {engine : Engine} {directive : Directive} {before : List String}
    {last : String} {operation : Operation} {value : String}
    (asks : Asks engine directive before last operation value) (root : Value) :
    engine.apply root directive = engine.settle operation value
      (land engine.schema root (before ++ [last]) operation value) := by
  have hpath : ¬ (directive.path.isEmpty = true ∨ directive.value.isEmpty = true) := by
    rw [nonempty_of_validate asks.valid, asks.nonempty]
    simp
  unfold Engine.apply
  rw [if_neg hpath, asks.valid, asks.split, asks.segments]
  rfl

/-- If all segments but the last lead to a node, the last one decides. -/
theorem apply_of_locate? {engine : Engine} {directive : Directive} {before : List String}
    {last : String} {operation : Operation} {value : String} {root node : Value}
    {address : Address} (asks : Asks engine directive before last operation value)
    (located : root.locate? before = some (address, node)) :
    engine.apply root directive = engine.settle operation value (.of root address node
      (finalStep engine.schema node before.length last operation value)) := by
  rw [apply_eq_settle asks root, land_of_locate? located]

/-- **A DIRECTIVE IS DISMISSED OR VALID**, whatever the graph. -/
theorem apply_cases (engine : Engine) (directive : Directive) :
    (∃ result, Dismissed directive result ∧
        ∀ root, engine.apply root directive = (root, ⟨result, []⟩)) ∨
      ∃ before last operation value, Asks engine directive before last operation value := by
  by_cases hempty : directive.path.isEmpty = true ∨ directive.value.isEmpty = true
  · refine .inl ⟨_, .skipped hempty, ?_⟩
    intro root
    unfold Engine.apply
    rw [if_pos hempty]
  · cases hvalid : FieldPath.validate directive.path with
    | error defect =>
        refine .inl ⟨_, .invalid hvalid, ?_⟩
        intro root
        unfold Engine.apply
        rw [if_neg hempty, hvalid]
    | ok _ =>
        obtain ⟨before, last, hsegments⟩ := exists_last_of_validate hvalid
        have hnonempty : directive.value.isEmpty = false :=
          Bool.eq_false_iff.mpr fun h => hempty (.inr h)
        exact .inr ⟨before, last, _, _, hnonempty, hvalid, rfl, hsegments⟩

/-- **A PATH THAT ENDS AT A SLOT ENDS AT A BOUND ONE**, in the graph as it is then. -/
theorem Lands.slot_bound {schema : Schema} {root root' : Value} {before : List String}
    {last : String} {operation : Operation} {value : String} {notes : List Note}
    {parent : Address} {slot : Slot}
    (h : Lands schema root before last operation value ⟨root', notes, .ok (.slot parent slot)⟩) :
    ∃ node container step, root'.get? parent = some node ∧ node.present? = some container ∧
      Slot.Binds container step slot := by
  cases h with
  | selected located present _ binds _ =>
      exact ⟨_, _, _, Value.get?_of_locate? located, present, binds⟩
  | @opened _ node container container' _ _ _ _ located present _ _ _ binds _ _ =>
      -- The slot is one of the container that has just been put there.
      have hreplaced := Value.replacedAt_replaceAt (Value.get?_of_locate? located) container'
      refine ⟨_, container', _, hreplaced.reachable.2, ?_, binds⟩
      rw [Value.present?_mapPresent, present, Option.bind_some]
      exact Value.present?_of_isBare binds.isBare

/-! ## §3. The ends of a directive. -/

/-- What is known of the graph and the outcome after a directive. -/
inductive Applies (engine : Engine) (root : Value) (directive : Directive) :
    Value × Outcome → Prop where
  /-- The path or the value is the empty text. -/
  | skipped (empty : directive.path.isEmpty = true ∨ directive.value.isEmpty = true) :
      Applies engine root directive (root, ⟨.ok .skipped, []⟩)
  /-- The path is no path. -/
  | invalid {defect : FieldPath.Defect}
      (invalid : FieldPath.validate directive.path = .error defect) :
      Applies engine root directive (root, ⟨.error (.invalidPath directive.path defect), []⟩)
  /-- Following the path failed. -/
  | failed {before : List String} {last : String} {operation : Operation} {value : String}
      {root' : Value} {notes : List Note} {fault : Fault}
      (asks : Asks engine directive before last operation value)
      (lands : Lands engine.schema root before last operation value ⟨root', notes, .error fault⟩) :
      Applies engine root directive (root', ⟨.error fault, notes⟩)
  /-- Following the path was all. -/
  | finished {before : List String} {last : String} {operation : Operation} {value : String}
      {root' : Value} {notes : List Note} {status : Status}
      (asks : Asks engine directive before last operation value)
      (lands : Lands engine.schema root before last operation value
        ⟨root', notes, .ok (.finished status)⟩) :
      Applies engine root directive (root', ⟨.ok status, notes⟩)
  /-- The update of the slot failed. -/
  | rejected {before : List String} {last : String} {operation : Operation} {value : String}
      {root' : Value} {notes : List Note} {parent : Address} {slot : Slot} {fault : Fault}
      (asks : Asks engine directive before last operation value)
      (lands : Lands engine.schema root before last operation value
        ⟨root', notes, .ok (.slot parent slot)⟩)
      (updates : Updates engine slot operation value (.error fault)) :
      Applies engine root directive (root', ⟨.error fault, notes⟩)
  /-- The update left the slot as it was. -/
  | kept {before : List String} {last : String} {operation : Operation} {value : String}
      {root' : Value} {notes : List Note} {parent : Address} {slot : Slot} {message : String}
      (asks : Asks engine directive before last operation value)
      (lands : Lands engine.schema root before last operation value
        ⟨root', notes, .ok (.slot parent slot)⟩)
      (updates : Updates engine slot operation value (.ok (.kept message))) :
      Applies engine root directive
        (root', ⟨.ok .unchanged, notes ++ [⟨.attempt, message⟩]⟩)
  /-- The update wrote to the slot. -/
  | wrote {before : List String} {last : String} {operation : Operation} {value : String}
      {root' : Value} {notes : List Note} {parent : Address} {slot slot' : Slot}
      {message : String} (asks : Asks engine directive before last operation value)
      (lands : Lands engine.schema root before last operation value
        ⟨root', notes, .ok (.slot parent slot)⟩)
      (updates : Updates engine slot operation value (.ok (.wrote slot' message))) :
      Applies engine root directive
        (root'.replaceAt parent slot'.container, ⟨.ok .edited, notes ++ [⟨.edit, message⟩]⟩)

/-! ## §4. Every directive comes to one of them. -/

/-- A path that ends at a slot ends at a bound one. -/
theorem Lands.binds {schema : Schema} {root root' : Value} {before : List String} {last : String}
    {operation : Operation} {value : String} {notes : List Note} {parent : Address} {slot : Slot}
    (h : Lands schema root before last operation value ⟨root', notes, .ok (.slot parent slot)⟩) :
    ∃ container step, Slot.Binds container step slot := by
  obtain ⟨_, container, step, _, _, binds⟩ := h.slot_bound
  exact ⟨container, step, binds⟩

/-- **EVERYTHING THAT A DIRECTIVE CAN DO**, with the updaters that an engine starts with. -/
theorem apply_applies {engine : Engine} (standard : engine.updaters = .standard) (root : Value)
    (directive : Directive) : Applies engine root directive (engine.apply root directive) := by
  rcases apply_cases engine directive with
    ⟨result, dismissed, happly⟩ | ⟨before, last, operation, value, asks⟩
  · rw [happly root]
    cases dismissed with
    | skipped empty => exact .skipped empty
    | invalid invalid => exact .invalid invalid
  · rw [apply_eq_settle asks root]
    have lands := land_lands engine.schema root before last operation value
    generalize land engine.schema root (before ++ [last]) operation value = landing at lands ⊢
    obtain ⟨root', notes, result⟩ := landing
    rcases result with fault | (⟨parent, slot⟩ | status)
    · exact .failed asks lands
    · -- The slot is bound to its parent, so the update can be known in advance.
      obtain ⟨_, _, binds⟩ := lands.binds
      obtain ⟨done, ends, updates⟩ := updateSlot_updates standard binds operation value
      rw [settle_of_ends ends]
      rcases done with fault | ⟨slot', message⟩ | message
      · exact .rejected asks lands updates
      · exact .wrote asks lands updates
      · exact .kept asks lands updates
    · exact .finished asks lands

end ConfigGraph
