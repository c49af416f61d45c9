/-
  ConfigGraph.Graph.Schema
  ────────────────────────────────
  **RECORD DEFINITIONS AND DEFAULT INSTANCES.**

  A schema says what fields each record has and what they hold in a new
  record.  The shape of a field is the shape of its initial value.  A name
  without a definition is the name of a record without fields, so that every
  record shape has a default instance.

  A default instance is what an insertion or a reset puts into a slot.  Only
  a slot of any type has none: nothing says which type it should get.  A
  nullable slot starts out filled if its inner shape can be, so the default
  of a nullable slot is not the vacant one that a new record may hold.
-/
import ConfigGraph.Graph.Value
import ConfigGraph.Ordered

namespace ConfigGraph

/-- The fields of a new record: names in declaration order, with initial values. -/
abbrev RecordFields := List (String × Value)

/-- The records that a graph may contain. -/
structure Schema where
  /-- The definition of each record, by display name. -/
  records : List (String × RecordFields)

namespace Schema

/-- The fields of a new record of this name. -/
def fields (schema : Schema) (name : String) : RecordFields :=
  (Ordered.find? name schema.records).getD []

/-- A new value in the default state of its shape. -/
def instantiate (schema : Schema) : Shape → Option Value
  | .text => some (.text "")
  | .bool => some (.bool false)
  | .int => some (.int 0)
  | .float => some (.float .zero)
  | .vector dim => some (.vector dim (List.replicate dim.size .zero))
  | .textSet => some (.textSet [])
  | .record name => some (.record name (schema.fields name))
  | .list element => some (.list element [])
  | .map order key value => some (.map order key value [])
  | .nullable inner =>
      match schema.instantiate inner with
      | some value => some (.filled inner value)
      | none => some (.vacant inner)
  | .dynamic => none

end Schema

end ConfigGraph
