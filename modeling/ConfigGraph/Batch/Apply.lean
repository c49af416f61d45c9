/-
  ConfigGraph.Batch.Apply
  ────────────────────────────────
  **APPLYING OVERLAYS TO A REGISTRY.**

  `applyOverride` and `applyScript` change one root of one collection.  Each
  returns the registry afterwards, the diagnostics that it gives rise to, and
  whether it touched the registry.

  `applyOverlays` runs a batch: overlays in order, within an overlay the
  overrides before the scripts, and after the last overlay the hooks of every
  collection that was touched, in the order in which they were first touched.
  A disabled engine does nothing and says so in one event.

  Main definitions: `Engine.applyOverride`, `Engine.applyScript`,
  `Engine.applyOverlays`.
-/
import ConfigGraph.Batch.Overlay
import ConfigGraph.Batch.Registry
import ConfigGraph.Batch.Report

namespace ConfigGraph

variable {σ : Type}

/-! ## §1. One root. -/

/-- What an override or a script did. -/
structure Change (σ : Type) where
  /-- The registry afterwards. -/
  registry : Registry σ
  /-- What there is to report. -/
  diagnostics : List Diagnostic
  /-- The registry was touched. -/
  touched : Bool

namespace Engine

/-- Put a whole root into a collection. -/
def applyOverride (context : OverlayContext) (registry : Registry σ) (override : Override) :
    Change σ :=
  let collection := override.collection
  let key := override.key
  let diagnostic (kind : DiagnosticKind) (message : String) : Diagnostic :=
    ⟨context, collection, key, none, kind, message⟩
  match registry.find? collection with
  | none =>
      ⟨registry, [diagnostic .attempt
        ("attempts to override config " ++ key ++ " of unknown type " ++ collection)], false⟩
  | some target =>
      match target.upsert key override.root with
      | .error cause =>
          ⟨registry, [diagnostic .attempt
            ("attempts to override config " ++ key ++ " of type " ++ collection ++ ": " ++
              cause.message)], false⟩
      | .ok (.replaced, target') =>
          ⟨registry.replace collection target', [diagnostic .edit
            ("replaces config " ++ key ++ " of type " ++ collection)], true⟩
      | .ok (.inserted, target') =>
          ⟨registry.replace collection target', [diagnostic .edit
            ("injects additional config " ++ key ++ " of type " ++ collection)], true⟩

/-- Run the directives of a script against its root, with a notice in front of each. -/
def runDirectives (engine : Engine) (context : OverlayContext) (collection key : String)
    (count index : Nat) (root : Value) : List Directive → Value × List Diagnostic
  | [] => (root, [])
  | directive :: rest =>
      let notice : Diagnostic := ⟨context, collection, key, none, .notice,
        "applying edit " ++ Text.ofNat (index + 1) ++ " of " ++ Text.ofNat count ++
          " to config " ++ key⟩
      let (root', outcome) := engine.apply root directive
      let (root'', later) :=
        engine.runDirectives context collection key count (index + 1) root' rest
      (root'', notice :: outcome.diagnostics context collection key directive.path ++ later)

/-- Run a script against its root, or delete the root. -/
def applyScript (engine : Engine) (context : OverlayContext) (registry : Registry σ)
    (script : EditScript) : Change σ :=
  let collection := script.collection
  let key := script.key
  let diagnostic (kind : DiagnosticKind) (message : String) : Diagnostic :=
    ⟨context, collection, key, none, kind, message⟩
  match registry.find? collection with
  | none =>
      ⟨registry, [diagnostic .attempt
        ("attempts to edit config " ++ key ++ " of unknown type " ++ collection)], false⟩
  | some target =>
      match target.find? key with
      | none =>
          ⟨registry, [diagnostic .attempt
            ("attempts to edit config " ++ key ++ " of type " ++ collection ++
              ", which doesn't exist")], false⟩
      | some root =>
          if script.removed then
            ⟨registry.replace collection (target.erase key), [diagnostic .edit
              ("removes config " ++ key ++ " of type " ++ collection)], true⟩
          else if script.edits.isEmpty then ⟨registry, [], false⟩
          else
            let (root', diagnostics) := engine.runDirectives context collection key
              script.edits.length 0 root script.edits
            ⟨registry.replace collection (target.modify key fun _ => root'),
              diagnostic .edit ("edits config " ++ key ++ " of type " ++ collection) ::
                diagnostics, true⟩

end Engine

/-! ## §2. One overlay. -/

/-- A batch in progress. -/
structure BatchState (σ : Type) where
  /-- The registry. -/
  registry : Registry σ
  /-- What has been reported. -/
  journal : Journal
  /-- The collections that were touched, in the order in which they first were. -/
  touched : List String

namespace BatchState

/-- The batch after a change to a collection. -/
def record (batch : BatchState σ) (collection : String) (change : Change σ) : BatchState σ where
  registry := change.registry
  journal := batch.journal.pushAll change.diagnostics
  touched :=
    if change.touched ∧ collection ∉ batch.touched then batch.touched ++ [collection]
    else batch.touched

end BatchState

namespace Engine

/-- Apply overrides in order. -/
def runOverrides (context : OverlayContext) (batch : BatchState σ) :
    List Override → BatchState σ
  | [] => batch
  | override :: rest =>
      runOverrides context
        (batch.record override.collection (applyOverride context batch.registry override)) rest

/-- The notice in front of a script. -/
def scriptNotice (context : OverlayContext) (count index : Nat) (script : EditScript) :
    Diagnostic :=
  ⟨context, script.collection, script.key, none, .notice,
    "applying edit script " ++ Text.ofNat (index + 1) ++ " of " ++ Text.ofNat count ++
      ": <key=" ++ script.key ++ ";type=" ++ script.collection ++ ";source=" ++
      script.source.getD "-" ++ ">"⟩

/-- Apply scripts in order, with a notice in front of each. -/
def runScripts (engine : Engine) (context : OverlayContext) (count index : Nat)
    (batch : BatchState σ) : List EditScript → BatchState σ
  | [] => batch
  | script :: rest =>
      let noticed := { batch with
        journal := batch.journal.push (scriptNotice context count index script) }
      engine.runScripts context count (index + 1)
        (noticed.record script.collection (engine.applyScript context noticed.registry script))
        rest

/-- Apply one overlay. -/
def runOverlay (engine : Engine) (index : Nat) (batch : BatchState σ) (overlay : Overlay) :
    BatchState σ :=
  let context : OverlayContext := ⟨overlay.id, index⟩
  engine.runScripts context overlay.edits.length 0
    (runOverrides context batch overlay.overrides) overlay.edits

/-- Apply overlays in order; `index` is the place of the first one. -/
def runOverlays (engine : Engine) (index : Nat) (batch : BatchState σ) :
    List Overlay → BatchState σ
  | [] => batch
  | overlay :: rest => engine.runOverlays (index + 1) (engine.runOverlay index batch overlay) rest

/-! ## §3. The batch. -/

/-- Run the hooks of the named collections. -/
def runTouched (registry : Registry σ) (journal : Journal) (state : σ) :
    List String → Registry σ × Journal × σ
  | [] => (registry, journal, state)
  | name :: rest =>
      match registry.find? name with
      | none => runTouched registry journal state rest
      | some collection =>
          let (collection', state') := collection.finishBatch state
          runTouched (registry.replace name collection')
            (journal.hear (.hooks name collection.size)) state' rest

/-- Apply a batch of overlays: the registry, the journal and the hooks' state afterwards. -/
def applyOverlays (engine : Engine) (registry : Registry σ) (overlays : List Overlay)
    (state : σ) : Registry σ × Journal × σ :=
  if engine.config.enabled then
    let batch := engine.runOverlays 0 ⟨registry, .empty, []⟩ overlays
    runTouched batch.registry batch.journal state batch.touched
  else (registry, Journal.empty.hear .disabled, state)

end Engine

end ConfigGraph
