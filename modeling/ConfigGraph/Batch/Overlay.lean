/-
  ConfigGraph.Batch.Overlay
  ────────────────────────────────
  **OVERLAYS.**

  An overlay is what one supplier contributes to a batch: whole roots that
  replace or join those of a collection, and edit scripts that run directives
  against a root or delete it.
-/
import ConfigGraph.Directive.Basic
import ConfigGraph.Graph.Value

namespace ConfigGraph

/-- Directives for one root of one collection. -/
structure EditScript where
  /-- The name of the collection. -/
  collection : String
  /-- The key of the root. -/
  key : String
  /-- The document that the script was read from. -/
  source : Option String
  /-- The root is deleted, and the directives are ignored. -/
  removed : Bool
  /-- The directives. -/
  edits : List Directive
  deriving Repr, DecidableEq

/-- A root that is put into a collection as a whole. -/
structure Override where
  /-- The name of the collection. -/
  collection : String
  /-- The key of the root. -/
  key : String
  /-- The root. -/
  root : Value
  deriving Repr

/-- The description of an override. -/
def Override.describe (override : Override) : String :=
  "ConfigOverride \x7b collection: " ++ Text.quoted override.collection ++
    ", key: " ++ Text.quoted override.key ++
    ", root: " ++ Text.quoted override.root.shape.name ++ " \x7d"

/-- What one supplier contributes to a batch. -/
structure Overlay where
  /-- The name of the supplier. -/
  id : String
  /-- Whole roots, which go first. -/
  overrides : List Override
  /-- Edit scripts, which go second. -/
  edits : List EditScript
  deriving Repr

/-- The overlay contributes nothing. -/
def Overlay.isEmpty (overlay : Overlay) : Bool :=
  overlay.overrides.isEmpty && overlay.edits.isEmpty

end ConfigGraph
