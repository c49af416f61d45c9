/-
  ConfigGraph.Directive.Engine
  ────────────────────────────────
  **THE ENGINE: ONE DIRECTIVE, ONE GRAPH.**

  `Engine.apply` runs a directive against a graph and returns the graph
  afterwards together with the outcome.  The stages, each of which can end
  the directive:

      an empty path or value        skipped
      validation of the path
      the operator token            operation and value
      the path                      may change a list or map (`land`)
      the updater of the slot       by the kind of its shape, or a reset

  Notes are kept when a later stage fails: an insertion followed by a value
  that cannot be read leaves the new element in place, and both facts are
  reported.

  Main definitions: `EngineConfig`, `Engine`, `Engine.apply`,
  `Engine.applyAll`.
-/
import ConfigGraph.Directive.Landing
import ConfigGraph.Directive.Tag
import ConfigGraph.Directive.Update

namespace ConfigGraph

/-! ## §1. Configuration. -/

/-- How an engine is configured. -/
structure EngineConfig where
  /-- A disabled engine applies no overlays. -/
  enabled : Bool
  /-- The operator tokens. -/
  operators : OperatorTokens
  /-- What a tag reference begins with. -/
  tagMarker : String
  deriving Repr, DecidableEq

namespace EngineConfig

/-- The configuration of an engine that nobody has configured. -/
def standard : EngineConfig := ⟨true, .standard, "!"⟩

/-- A setting that must not be the empty text. -/
inductive Setting where
  /-- The insert token. -/
  | insert
  /-- The remove token. -/
  | remove
  /-- The default value token. -/
  | defaultValue
  /-- The tag marker. -/
  | tagMarker
  deriving Repr, DecidableEq

/-- The name of a setting. -/
def Setting.name : Setting → String
  | .insert => "operators.insert"
  | .remove => "operators.remove"
  | .defaultValue => "operators.default_value"
  | .tagMarker => "tag_marker"

/-- The text about a setting that is empty. -/
def Setting.emptyMessage (setting : Setting) : String :=
  setting.name ++ " must not be empty"

/-- The settings that must not be empty, in the order in which they are checked. -/
def tokens (config : EngineConfig) : List (Setting × String) :=
  [(.insert, config.operators.insert), (.remove, config.operators.remove),
   (.defaultValue, config.operators.defaultValue), (.tagMarker, config.tagMarker)]

/-- The first setting that is empty, if one is. -/
def validate (config : EngineConfig) : Except Setting Unit :=
  match config.tokens.find? fun (_, token) => token.isEmpty with
  | some (setting, _) => .error setting
  | none => .ok ()

end EngineConfig

/-! ## §2. Engines and outcomes. -/

/-- What an engine knows. -/
structure Engine where
  /-- The records that graphs may contain. -/
  schema : Schema
  /-- The configuration. -/
  config : EngineConfig
  /-- The updaters by kind. -/
  updaters : UpdaterTable
  /-- The shapes by tag. -/
  tags : TagTable

/-- Everything that a directive produced besides the graph. -/
structure Outcome where
  /-- How it ended. -/
  result : Except Fault Status
  /-- What it reported on the way. -/
  notes : List Note

namespace Outcome

/-- The directive did not fail. -/
def isOk (outcome : Outcome) : Bool :=
  match outcome.result with
  | .ok _ => true
  | .error _ => false

/-- The directive changed the graph. -/
def isEdited (outcome : Outcome) : Bool :=
  match outcome.result with
  | .ok .edited => true
  | _ => false

end Outcome

namespace Engine

/-- An engine with the standard updaters and no tags. -/
def new (schema : Schema) (config : EngineConfig) : Engine :=
  ⟨schema, config, .standard, .empty config.tagMarker⟩

/-- The engine with one more tag. -/
def withTag (engine : Engine) (tag : String) (shape : Shape) : Engine :=
  { engine with tags := engine.tags.register tag shape }

/-! ## §3. Application. -/

/-- The last stage of a slot whose kind has no updater: on a default request, a reset. -/
def fillSlot (engine : Engine) (slot : Slot) (operation : Operation) (value : String) :
    Except Fault UpdateEffect :=
  if operation ≠ .defaultValue then
    .error (.unsupported operation slot.declared.resolved
      (.noLiterals (engine.config.operators.token .defaultValue)))
  else
    match slot.reset engine.schema engine.tags value with
    | .error fault => .error fault
    | .ok (slot', note) => .ok (.wrote slot' note.message)

/-- The last stage, after these notes. -/
def updateSlot (engine : Engine) (slot : Slot) (operation : Operation) (value : String)
    (notes : List Note) : Update :=
  match engine.updaters.find? slot.declared.resolved.kind with
  | some updater => updater.run ⟨⟨value, operation, slot, engine.config.operators⟩, notes⟩
  | none => .of notes (engine.fillSlot slot operation value)

/-- Run one directive: the graph afterwards, and the outcome. -/
def apply (engine : Engine) (root : Value) (directive : Directive) : Value × Outcome :=
  if directive.path.isEmpty ∨ directive.value.isEmpty then (root, ⟨.ok .skipped, []⟩)
  else
    match FieldPath.validate directive.path with
    | .error defect => (root, ⟨.error (.invalidPath directive.path defect), []⟩)
    | .ok () =>
      let (operation, value) := engine.config.operators.split directive.value
      let landing := land engine.schema root (FieldPath.parse directive.path) operation value
      match landing.result with
      | .error fault => (landing.root, ⟨.error fault, landing.notes⟩)
      | .ok (.finished status) => (landing.root, ⟨.ok status, landing.notes⟩)
      | .ok (.slot parent slot) =>
          let update := engine.updateSlot slot operation value landing.notes
          (match update.slot with
            | some slot' => landing.root.replaceAt parent slot'.container
            | none => landing.root,
           ⟨update.result, update.notes⟩)

/-- Run directives in order, each against what the ones before it left. -/
def applyAll (engine : Engine) (root : Value) : List Directive → Value × List Outcome
  | [] => (root, [])
  | directive :: rest =>
      let (root', outcome) := engine.apply root directive
      let (root'', outcomes) := engine.applyAll root' rest
      (root'', outcome :: outcomes)

end Engine

end ConfigGraph
