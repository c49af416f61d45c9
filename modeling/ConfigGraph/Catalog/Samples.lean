/-
  ConfigGraph.Catalog.Samples
  ────────────────────────────────
  **SAMPLE GRAPHS OF THE CATALOGUE.**

  A preset, a rig, a node with children, a slot and a hardpoint, each with
  something in it.  A sample is written as the fields in which it differs
  from a new record.
-/
import ConfigGraph.Binary32.Numeral
import ConfigGraph.Catalog.Records

namespace ConfigGraph.Catalog

/-! ## §1. Parts. -/

/-- Fields with some of the values changed. -/
def withValues (fields : RecordFields) (changes : List (String × Value)) : RecordFields :=
  fields.map fun (name, initial) => (name, (Ordered.find? name changes).getD initial)

/-- The number `± digits · 10^exponent`. -/
def number (digits : Int) (exponent : Int) : Binary32 :=
  Numeral.nearest (digits < 0) digits.natAbs exponent

/-- A slot. -/
def slot (enabled : Bool) (ammo : Int32) : Value :=
  .record "Slot" [("enabled", .bool enabled), ("ammo", .int ammo)]

/-- A hardpoint. -/
def hardpoint (name : String) (position : List Binary32) (tags : List String) : Value :=
  .record "HardpointDef"
    [("name", .text name), ("position", .vector .three position), ("tags", .textSet tags)]

/-- A node that holds nothing in its field of any type. -/
def node (label : String) (value : Binary32) (children : List Value)
    (named : List (Key × Value)) : Value :=
  .record "Node" (withValues nodeFields
    [("label", .text label), ("value", .float value), ("children", .list (.record "Node") children),
     ("named", .map .sorted .text (.record "Node") named)])

/-- A map in ascending order with the given entries, which ascend. -/
def sortedMap (shape : Shape) (entries : List (String × Value)) : Value :=
  .map .sorted .text shape (entries.map fun (key, value) => (.text key, value))

/-- A map in order of arrival with the given entries. -/
def arrivalMap (shape : Shape) (entries : List (String × Value)) : Value :=
  .map .arrival .text shape (entries.map fun (key, value) => (.text key, value))

/-- A list of integers. -/
def ints (items : List Int32) : Value :=
  .list .int (items.map .int)

/-- A list of texts. -/
def texts (items : List String) : Value :=
  .list .text (items.map .text)

/-! ## §2. Samples. -/

/-- A preset with one slot, one rank and one hardpoint. -/
def samplePreset : Value :=
  .record "Preset" (withValues presetFields
    [("name", .text "mech_a"), ("description", .filled .text (.text "light frame")),
     ("count", .int 2), ("weight", .float (number 15 (-1))),
     ("position", .vector .three [number 1 0, number 2 0, number 3 0]),
     ("tags", .textSet ["light"]),
     ("slots", sortedMap slotShape [("a", slot false 3)]),
     ("ranks", .map .sorted .int slotShape [(.int 1, slot true 10)]),
     ("hardpoints", .list (.record "HardpointDef")
       [hardpoint "front" [.zero, number 1 0, .zero] []]),
     ("values", ints [1, 2, 3])])

/-- A rig with something in most of its fields. -/
def sampleRig : Value :=
  .record "Rig" (withValues rigFields
    [("matrix", .list (.list .int) [ints [1, 2], ints [], ints [3]]),
     ("table", sortedMap (.map .sorted .text .float)
       [("row", sortedMap .float
          [("x", .float (number 5 (-1))), ("y", .float (number (-2) 0))]),
        ("void", sortedMap .float [])]),
     ("order", arrivalMap .int [("c", .int 1), ("a", .int 2), ("b", .int 3)]),
     ("codes", .map .arrival .int .text
       [(.int 30, .text "thirty"), (.int (-1), .text "minus"), (.int 7, .text "seven")]),
     ("flags", .map .sorted .int .bool
       [(.int (-5), .bool false), (.int 0, .bool true), (.int 12, .bool true)]),
     ("parts", .list (.nullable slotShape)
       [.filled slotShape (slot true 1), .vacant slotShape]),
     ("names", texts ["one", "two"]),
     ("opt_names", .list (.nullable .text) [.filled .text (.text "x"), .vacant .text]),
     ("points", .list (.vector .three)
       [.vector .three [number 1 0, .zero, number (-1) 0]]),
     ("sets", sortedMap .textSet [("none", .textSet []), ("s", .textSet ["p", "q"])]),
     ("m_int", .filled .int (.int 4)),
     ("m_list", .filled (.list .int) (ints [5, 6])),
     ("mm_text", .filled (.nullable .text) (.filled .text (.text "deep"))),
     ("dyns", .list .dynamic
       [.dynamic (.int 5), .dynamic (.text "txt"), .dynamic (slot false 9),
        .dynamic (ints [1, 2])]),
     ("dyn_map", sortedMap .dynamic
       [("nest", .dynamic (.dynamic (.bool true))), ("num", .dynamic (.float (number 125 (-2)))),
        ("set", .dynamic (.textSet ["z"]))]),
     ("opt_dyn_map", sortedMap (.nullable .dynamic)
       [("off", .vacant .dynamic),
        ("on", .filled .dynamic (.dynamic (.record "PartResolverKeep" [("priority", .int 3)])))]),
     ("slot_map", arrivalMap (.nullable slotShape)
       [("z", .filled slotShape (slot true 2)), ("n", .vacant slotShape)]),
     ("any", .dynamic (.filled slotShape (slot true 77))),
     ("0", .int 10), ("größe", .int 20), (" spaced ", .text "sp")])

/-- A node with two children, a grandchild, a named node and a node of any type. -/
def sampleNode : Value :=
  .record "Node" (withValues nodeFields
    [("label", .text "root"), ("value", .float (number 1 0)),
     ("children", .list (.record "Node")
       [node "first" (number 25 (-2)) [] [],
        node "second" .zero [node "leaf" .zero [] []] []]),
     ("named", sortedMap (.record "Node") [("left", node "L" .zero [] [])]),
     ("extra", .filled .dynamic (.dynamic (node "dyn" .zero [] [])))])

/-- The samples by name. -/
def samples : List (String × Value) :=
  [("preset", samplePreset), ("rig", sampleRig), ("node", sampleNode), ("slot", slot true 6),
   ("hardpoint", hardpoint "hp" [number 15 (-1), number (-15) (-1), .zero] ["t"])]

end ConfigGraph.Catalog
