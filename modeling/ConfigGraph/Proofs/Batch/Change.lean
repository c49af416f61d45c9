/-
  ConfigGraph.Proofs.Batch.Change
  ────────────────────────────────
  **EVERYTHING THAT AN OVERRIDE OR A SCRIPT CAN DO.**

  `Overrides` and `Scripts` say for each early exit, and for the exit that is
  left, what the registry is afterwards, what is reported and whether the
  registry counts as touched.  What they say of a registry that is touched is
  the same in both: one collection has been put back, changed at one key.

  Both relations determine the change (`Overrides.eq`, `Scripts.eq`), so they
  can be used in both directions: to know what a run did, and to compute what
  another run does.

  Main results:
    * `applyOverride_overrides`, `Overrides.eq`
    * `applyScript_scripts`, `Scripts.eq`
-/
import ConfigGraph.Batch.Apply

namespace ConfigGraph

variable {σ : Type}

/-! ## §1. Diagnostics about a root. -/

/-- A diagnostic about the root of an override as a whole. -/
def Override.diagnostic (o : Override) (context : OverlayContext) (kind : DiagnosticKind)
    (message : String) : Diagnostic :=
  ⟨context, o.collection, o.key, none, kind, message⟩

/-- A diagnostic about the root of a script as a whole. -/
def EditScript.diagnostic (s : EditScript) (context : OverlayContext) (kind : DiagnosticKind)
    (message : String) : Diagnostic :=
  ⟨context, s.collection, s.key, none, kind, message⟩

/-! ## §2. Overrides. -/

/-- What an override can do to a registry. -/
inductive Overrides (context : OverlayContext) (registry : Registry σ) (o : Override) :
    Change σ → Prop where
  /-- There is no such collection. -/
  | unknown (missing : registry.find? o.collection = none) :
      Overrides context registry o ⟨registry, [o.diagnostic context .attempt
        ("attempts to override config " ++ o.key ++ " of unknown type " ++ o.collection)], false⟩
  /-- The collection does not take the root. -/
  | refused {target : Collection σ} {cause : AssignError}
      (found : registry.find? o.collection = some target)
      (refuses : o.root.convert target.shape = .error cause) :
      Overrides context registry o ⟨registry, [o.diagnostic context .attempt
        ("attempts to override config " ++ o.key ++ " of type " ++ o.collection ++ ": " ++
          cause.message)], false⟩
  /-- The converted root stands at the key, which had a root before or had none. -/
  | stored {target : Collection σ} {root : Value}
      (found : registry.find? o.collection = some target)
      (converts : o.root.convert target.shape = .ok root) :
      Overrides context registry o
        ⟨registry.replace o.collection (target.put o.key root), [o.diagnostic context .edit
          (if target.contains o.key then "replaces config " ++ o.key ++ " of type " ++ o.collection
            else "injects additional config " ++ o.key ++ " of type " ++ o.collection)], true⟩

/-- **EVERYTHING THAT AN OVERRIDE CAN DO.** -/
theorem applyOverride_overrides (context : OverlayContext) (registry : Registry σ)
    (o : Override) :
    Overrides context registry o (Engine.applyOverride context registry o) := by
  simp only [Engine.applyOverride, Collection.upsert]
  cases hfound : registry.find? o.collection with
  | none => exact .unknown hfound
  | some target =>
      simp only []
      cases hconvert : o.root.convert target.shape with
      | error cause => exact .refused hfound hconvert
      | ok root =>
          -- One constructor for both lines; the key decides which of the two it reports.
          have stored : Overrides context registry o _ := .stored hfound hconvert
          cases hcontains : target.contains o.key with
          | true =>
              rw [hcontains] at stored
              exact stored
          | false =>
              rw [hcontains] at stored
              exact stored

/-- What is known of an override's end determines it. -/
theorem Overrides.eq {context : OverlayContext} {registry : Registry σ} {o : Override}
    {change : Change σ} (h : Overrides context registry o change) :
    Engine.applyOverride context registry o = change := by
  have overrides := applyOverride_overrides context registry o
  generalize Engine.applyOverride context registry o = change' at overrides
  -- Two different ends contradict each other in what they say of the registry.
  cases h <;> cases overrides <;> simp_all

/-! ## §3. Scripts. -/

/-- Running directives with reports does to the root what applying them does. -/
theorem runDirectives_fst (engine : Engine) (context : OverlayContext) (collection key : String)
    (count index : Nat) (root : Value) (directives : List Directive) :
    (engine.runDirectives context collection key count index root directives).1
      = (engine.applyAll root directives).1 := by
  induction directives generalizing index root with
  | nil => rfl
  | cons directive rest ih => exact ih (index + 1) (engine.apply root directive).1

/-- What a script can do to a registry. -/
inductive Scripts (engine : Engine) (context : OverlayContext) (registry : Registry σ)
    (s : EditScript) : Change σ → Prop where
  /-- There is no such collection. -/
  | unknown (missing : registry.find? s.collection = none) :
      Scripts engine context registry s ⟨registry, [s.diagnostic context .attempt
        ("attempts to edit config " ++ s.key ++ " of unknown type " ++ s.collection)], false⟩
  /-- The collection has no root at the key. -/
  | absent {target : Collection σ} (found : registry.find? s.collection = some target)
      (missing : target.find? s.key = none) :
      Scripts engine context registry s ⟨registry, [s.diagnostic context .attempt
        ("attempts to edit config " ++ s.key ++ " of type " ++ s.collection ++
          ", which doesn't exist")], false⟩
  /-- The root is deleted. -/
  | removed {target : Collection σ} {root : Value}
      (found : registry.find? s.collection = some target)
      (present : target.find? s.key = some root) (removing : s.removed = true) :
      Scripts engine context registry s
        ⟨registry.replace s.collection (target.erase s.key), [s.diagnostic context .edit
          ("removes config " ++ s.key ++ " of type " ++ s.collection)], true⟩
  /-- There is nothing to do. -/
  | idle {target : Collection σ} {root : Value}
      (found : registry.find? s.collection = some target)
      (present : target.find? s.key = some root) (editing : s.removed = false)
      (empty : s.edits = []) :
      Scripts engine context registry s ⟨registry, [], false⟩
  /-- The directives run on the root. -/
  | edited {target : Collection σ} {root : Value}
      (found : registry.find? s.collection = some target)
      (present : target.find? s.key = some root) (editing : s.removed = false)
      (nonempty : s.edits ≠ []) :
      Scripts engine context registry s
        ⟨registry.replace s.collection
            (target.modify s.key fun _ => (engine.applyAll root s.edits).1),
          s.diagnostic context .edit ("edits config " ++ s.key ++ " of type " ++ s.collection) ::
            (engine.runDirectives context s.collection s.key s.edits.length 0 root s.edits).2,
          true⟩

/-- **EVERYTHING THAT A SCRIPT CAN DO.** -/
theorem applyScript_scripts (engine : Engine) (context : OverlayContext) (registry : Registry σ)
    (s : EditScript) :
    Scripts engine context registry s (engine.applyScript context registry s) := by
  simp only [Engine.applyScript]
  cases hfound : registry.find? s.collection with
  | none => exact .unknown hfound
  | some target =>
      cases hpresent : target.find? s.key with
      | none =>
          simp only [hpresent]
          exact .absent hfound hpresent
      | some root =>
          simp only [hpresent]
          by_cases hremoved : s.removed = true
          -- From here on the script decides, and no longer the registry.
          · rw [if_pos hremoved]
            exact .removed hfound hpresent hremoved
          · have hediting : s.removed = false := Bool.eq_false_iff.mpr hremoved
            rw [if_neg hremoved]
            by_cases hempty : s.edits.isEmpty = true
            · rw [if_pos hempty]
              exact .idle hfound hpresent hediting (List.isEmpty_iff.mp hempty)
            · rw [if_neg hempty, runDirectives_fst]
              exact .edited hfound hpresent hediting fun h => hempty (List.isEmpty_iff.mpr h)

/-- What is known of a script's end determines it. -/
theorem Scripts.eq {engine : Engine} {context : OverlayContext} {registry : Registry σ}
    {s : EditScript} {change : Change σ} (h : Scripts engine context registry s change) :
    engine.applyScript context registry s = change := by
  have scripts := applyScript_scripts engine context registry s
  generalize engine.applyScript context registry s = change' at scripts
  -- As for overrides, and ends that agree on the registry differ in what they say of the script.
  cases h <;> cases scripts <;> simp_all

end ConfigGraph
