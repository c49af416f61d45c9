/-
  ConfigGraph.Graph.Shape
  ────────────────────────────────
  **THE TYPES OF A CONFIGURATION GRAPH.**

  A shape says what a slot may hold: a leaf, a record, a list, a map, a
  nullable slot or a slot whose type is chosen while the program runs.  A
  record shape carries only the record's name, so records may contain lists
  and maps of themselves; what the fields are is the schema's business.

  The two kinds of map differ in the order of their entries and are different
  shapes with one display name.

  Main definitions: `Shape`, `Shape.name`, `Shape.kind`, `Shape.resolved`.
-/
import ConfigGraph.Text.Integer
import ConfigGraph.Text.Quoted

namespace ConfigGraph

/-! ## §1. The parts of a shape. -/

/-- How many components a vector has. -/
inductive Dim where
  /-- A vector of the plane. -/
  | two
  /-- A vector of space. -/
  | three
  /-- Four components, such as a colour. -/
  | four
  deriving Repr, DecidableEq

/-- The number of components. -/
def Dim.size : Dim → Nat
  | .two => 2
  | .three => 3
  | .four => 4

/-- What the keys of a map are. -/
inductive KeyKind where
  /-- Any text. -/
  | text
  /-- A 32-bit integer. -/
  | int
  deriving Repr, DecidableEq

/-- Where a map puts a new entry. -/
inductive MapOrder where
  /-- At its place among ascending keys. -/
  | sorted
  /-- Behind all others. -/
  | arrival
  deriving Repr, DecidableEq

/-- The type of a slot. -/
inductive Shape where
  /-- A text. -/
  | text
  /-- A truth value. -/
  | bool
  /-- A 32-bit integer. -/
  | int
  /-- A 32-bit floating-point number. -/
  | float
  /-- A vector of floating-point numbers. -/
  | vector (dim : Dim)
  /-- A set of texts. -/
  | textSet
  /-- The record of this name. -/
  | record (name : String)
  /-- A list of elements of one shape. -/
  | list (element : Shape)
  /-- A map to values of one shape. -/
  | map (order : MapOrder) (key : KeyKind) (value : Shape)
  /-- Nothing, or a value of the inner shape. -/
  | nullable (inner : Shape)
  /-- A value of any shape. -/
  | dynamic
  deriving Repr, DecidableEq

/-! ## §2. Display names. -/

/-- The display name of a key type. -/
def KeyKind.name : KeyKind → String
  | .text => "String"
  | .int => "int"

/-- The display name. Both kinds of map have the same one. -/
def Shape.name : Shape → String
  | .text => "String"
  | .bool => "bool"
  | .int => "int"
  | .float => "float"
  | .vector dim => "Vector" ++ Text.ofNat dim.size
  | .textSet => "StringSet"
  | .record name => name
  | .list element => "List<" ++ element.name ++ ">"
  | .map _ key value => "Map<" ++ key.name ++ ", " ++ value.name ++ ">"
  | .nullable inner => "Option<" ++ inner.name ++ ">"
  | .dynamic => "Dynamic"

/-! ## §3. Kinds. -/

/-- What a shape is at its outermost layer. Updates are chosen by kind. -/
inductive Kind where
  /-- Texts. -/
  | text
  /-- Truth values. -/
  | bool
  /-- Integers. -/
  | int
  /-- Floating-point numbers. -/
  | float
  /-- Vectors of one size. -/
  | vector (dim : Dim)
  /-- Sets of texts. -/
  | textSet
  /-- Records of any name. -/
  | record
  /-- Lists of anything. -/
  | list
  /-- Maps of either order. -/
  | map
  /-- Nullable slots. -/
  | nullable
  /-- Slots of any type. -/
  | dynamic
  deriving Repr, DecidableEq

/-- All kinds, in the order in which they are listed. -/
def Kind.all : List Kind :=
  [.text, .bool, .int, .float, .vector .two, .vector .three, .vector .four, .textSet,
   .record, .list, .map, .nullable, .dynamic]

/-- The name of a kind in reports. -/
def Kind.name : Kind → String
  | .text => "string"
  | .bool => "bool"
  | .int => "int"
  | .float => "float"
  | .vector dim => "vector" ++ Text.ofNat dim.size
  | .textSet => "string set"
  | .record => "record"
  | .list => "list"
  | .map => "map"
  | .nullable => "nullable"
  | .dynamic => "dynamic"

/-- The name of a kind in descriptions of shapes. -/
def Kind.label : Kind → String
  | .text => "String"
  | .bool => "Bool"
  | .int => "Int"
  | .float => "Float"
  | .vector dim => "Vector" ++ Text.ofNat dim.size
  | .textSet => "StringSet"
  | .record => "Record"
  | .list => "List"
  | .map => "Map"
  | .nullable => "Nullable"
  | .dynamic => "Dynamic"

namespace Shape

/-- The kind of a shape. -/
def kind : Shape → Kind
  | .text => .text
  | .bool => .bool
  | .int => .int
  | .float => .float
  | .vector dim => .vector dim
  | .textSet => .textSet
  | .record _ => .record
  | .list _ => .list
  | .map .. => .map
  | .nullable _ => .nullable
  | .dynamic => .dynamic

/-! ## §4. Taking shapes apart. -/

/-- The element of a list, the value of a map, the inside of a nullable slot. -/
def element? : Shape → Option Shape
  | .list element => some element
  | .map _ _ value => some value
  | .nullable inner => some inner
  | _ => none

/-- The shape that keys have as values. -/
def ofKey : KeyKind → Shape
  | .text => .text
  | .int => .int

/-- The shape of a map's keys. -/
def key? : Shape → Option Shape
  | .map _ key _ => some (ofKey key)
  | _ => none

/-- The slot may be empty. -/
def isNullable : Shape → Bool
  | .nullable _ => true
  | _ => false

/-- The shape without its nullable layers. -/
def resolved : Shape → Shape
  | .nullable inner => inner.resolved
  | shape => shape

/-- The description of a shape: its display name and its kind. -/
def describe (shape : Shape) : String :=
  "Shape \x7b name: " ++ Text.quoted shape.name ++ ", kind: " ++ shape.kind.label ++ " \x7d"

end Shape

end ConfigGraph
