/-
  ConfigGraph.Directive.Tag
  ────────────────────────────────
  **TAGS AND RESETS.**

  A slot without a typed update can only be reset: a default instance takes
  the place of its value.  A value that begins with the marker is a tag
  reference; what follows the marker must be registered, and the instance is
  of the registered shape.  Any other value is ignored and the instance is
  of the slot's own shape, nullable layers aside.
-/
import ConfigGraph.Directive.Slot
import ConfigGraph.Graph.Schema

namespace ConfigGraph

/-! ## §1. Tags. -/

/-- The shapes that tags name. -/
structure TagTable where
  /-- What a tag reference begins with. -/
  marker : String
  /-- Tags in ascending order, with their shapes. -/
  entries : List (String × Shape)
  deriving Repr, DecidableEq

namespace TagTable

/-- The table without tags. -/
def empty (marker : String) : TagTable := ⟨marker, []⟩

/-- Register a shape under a tag, in place of the one that was there. -/
def register (table : TagTable) (tag : String) (shape : Shape) : TagTable :=
  { table with entries := Ordered.putSorted tag shape table.entries }

/-- The shape of a tag. -/
def find? (table : TagTable) (tag : String) : Option Shape :=
  Ordered.find? tag table.entries

/-- The tags in ascending order. -/
def tags (table : TagTable) : List String :=
  table.entries.map (·.1)

/-- What follows the marker at the beginning of a value. -/
def reference? (table : TagTable) (value : String) : Option String :=
  (table.marker.toList.isPrefixOf? value.toList).map String.ofList

/-- The shape that a value refers to; nothing if it is no tag reference. -/
def resolve (table : TagTable) (value : String) : Except Fault (Option Shape) :=
  match table.reference? value with
  | none => .ok none
  | some tag =>
      match table.find? tag with
      | some shape => .ok (some shape)
      | none => .error (.unknownTag value)

end TagTable

/-! ## §2. Resets. -/

/-- The slot after a reset, and the line about it. -/
def Slot.reset (slot : Slot) (schema : Schema) (tags : TagTable) (value : String) :
    Except Fault (Slot × Note) :=
  match tags.resolve value with
  | .error fault => .error fault
  | .ok tagged =>
      let shape := tagged.getD slot.declared.resolved
      match schema.instantiate shape with
      | none => .error (.noDefault shape)
      | some instance' =>
          match slot.write instance' with
          | .error cause => .error (.write cause)
          | .ok slot' => .ok (slot', ⟨.edit,
              "Assigning new default object of type " ++ shape.name ++ " to target " ++
                slot.describe⟩)

end ConfigGraph
