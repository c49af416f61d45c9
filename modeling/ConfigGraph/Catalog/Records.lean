/-
  ConfigGraph.Catalog.Records
  ────────────────────────────────
  **A CATALOGUE OF RECORD TYPES.**

  The records of a small vehicle game, as a schema: presets and their parts,
  a rig that has a field of nearly every shape, and nodes that contain nodes.
  Between them they have every kind of slot, nullable and dynamic layers over
  one another, both kinds of map under both kinds of key, a record without
  fields, and fields whose names are a number, contain a blank or lie outside
  ASCII.

  A new record holds nothing in its nullable fields, and zero or nothing in
  all others.
-/
import ConfigGraph.Graph.Schema

namespace ConfigGraph.Catalog

/-! ## §1. Abbreviations for fields. -/

/-- A field that starts as the empty text. -/
def text (name : String) : String × Value := (name, .text "")

/-- A field that starts false. -/
def bool (name : String) : String × Value := (name, .bool false)

/-- A field that starts at zero. -/
def int (name : String) : String × Value := (name, .int 0)

/-- A field that starts at zero. -/
def float (name : String) : String × Value := (name, .float .zero)

/-- A field that starts as the zero vector. -/
def vector (name : String) (dim : Dim) : String × Value :=
  (name, .vector dim (List.replicate dim.size .zero))

/-- A field that starts as the empty set. -/
def textSet (name : String) : String × Value := (name, .textSet [])

/-- A field that starts as the empty list. -/
def list (name : String) (element : Shape) : String × Value := (name, .list element [])

/-- A field that starts as the empty map in ascending order. -/
def sorted (name : String) (key : KeyKind) (value : Shape) : String × Value :=
  (name, .map .sorted key value [])

/-- A field that starts as the empty map in order of arrival. -/
def arrival (name : String) (key : KeyKind) (value : Shape) : String × Value :=
  (name, .map .arrival key value [])

/-- A field that starts out holding nothing. -/
def nullable (name : String) (inner : Shape) : String × Value := (name, .vacant inner)

/-! ## §2. The records. -/

/-- The shape of a slot for ammunition. -/
def slotShape : Shape := .record "Slot"

/-- A slot for ammunition. -/
def slotFields : RecordFields := [bool "enabled", int "ammo"]

/-- A place where parts are fixed. -/
def hardpointFields : RecordFields := [text "name", vector "position" .three, textSet "tags"]

/-- A preset of a unit. -/
def presetFields : RecordFields :=
  [text "name", nullable "description" .text, bool "enabled", int "count", float "weight",
   vector "offset" .two, vector "position" .three, vector "color" .four, textSet "tags",
   sorted "slots" .text slotShape, sorted "ranks" .int slotShape, sorted "levels" .text .int,
   list "hardpoints" (.record "HardpointDef"), list "values" .int,
   nullable "resolver" .dynamic, nullable "backup" slotShape]

/-- A rig, with a field of nearly every shape. -/
def rigFields : RecordFields :=
  [list "matrix" (.list .int), sorted "table" .text (.map .sorted .text .float),
   arrival "order" .text .int, arrival "codes" .int .text, sorted "flags" .int .bool,
   list "parts" (.nullable slotShape), list "names" .text,
   list "opt_names" (.nullable .text), list "points" (.vector .three),
   sorted "sets" .text .textSet, nullable "m_int" .int, nullable "m_bool" .bool,
   nullable "m_float" .float, nullable "m_vec" (.vector .two), nullable "m_tags" .textSet,
   nullable "m_list" (.list .int), nullable "m_map" (.map .sorted .text .int),
   nullable "mm_int" (.nullable .int), nullable "mm_text" (.nullable .text),
   list "dyns" .dynamic, sorted "dyn_map" .text .dynamic,
   sorted "opt_dyn_map" .text (.nullable .dynamic),
   arrival "slot_map" .text (.nullable slotShape), ("any", .dynamic (.int 0)),
   ("empty", .record "Empty" []), int "0", int "größe", text " spaced "]

/-- A node with other nodes below it. -/
def nodeFields : RecordFields :=
  [text "label", float "value", list "children" (.record "Node"),
   sorted "named" .text (.record "Node"), nullable "extra" .dynamic]

/-- The records of the catalogue. -/
def schema : Schema where
  records :=
    [("Slot", slotFields), ("HardpointDef", hardpointFields),
     ("PartResolverClear", [textSet "tags"]), ("PartResolverKeep", [int "priority"]),
     ("Empty", []), ("Preset", presetFields), ("Rig", rigFields), ("Node", nodeFields)]

/-! ## §3. Names of shapes. -/

/-- Shapes by the names under which they are asked for. -/
def shapes : List (String × Shape) :=
  [("string", .text), ("bool", .bool), ("int", .int), ("float", .float),
   ("vector2", .vector .two), ("vector3", .vector .three), ("vector4", .vector .four),
   ("set", .textSet), ("Dynamic", .dynamic), ("Slot", slotShape),
   ("Hardpoint", .record "HardpointDef"), ("PartResolverClear", .record "PartResolverClear"),
   ("PartResolverKeep", .record "PartResolverKeep"), ("Empty", .record "Empty"),
   ("Preset", .record "Preset"), ("Rig", .record "Rig"), ("Node", .record "Node"),
   ("List<int>", .list .int), ("List<string>", .list .text), ("List<float>", .list .float),
   ("List<Slot>", .list slotShape), ("List<Hardpoint>", .list (.record "HardpointDef")),
   ("List<Dynamic>", .list .dynamic), ("List<List<int>>", .list (.list .int)),
   ("List<Option<Slot>>", .list (.nullable slotShape)),
   ("Map<string,int>", .map .sorted .text .int), ("Map<int,int>", .map .sorted .int .int),
   ("Map<string,Slot>", .map .sorted .text slotShape),
   ("Map<int,Slot>", .map .sorted .int slotShape),
   ("Map<string,Map<string,float>>", .map .sorted .text (.map .sorted .text .float)),
   ("Map<string,Option<Dynamic>>", .map .sorted .text (.nullable .dynamic)),
   ("Map<int,List<Option<vector2>>>",
     .map .sorted .int (.list (.nullable (.vector .two)))),
   ("IndexMap<string,int>", .map .arrival .text .int),
   ("IndexMap<int,string>", .map .arrival .int .text), ("Option<int>", .nullable .int),
   ("Option<string>", .nullable .text), ("Option<set>", .nullable .textSet),
   ("Option<Slot>", .nullable slotShape), ("Option<Dynamic>", .nullable .dynamic),
   ("Option<Option<int>>", .nullable (.nullable .int)),
   ("Option<List<int>>", .nullable (.list .int)),
   ("Option<Option<List<string>>>", .nullable (.nullable (.list .text)))]

end ConfigGraph.Catalog
