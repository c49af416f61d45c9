/-
  ConfigGraph.Graph.Value
  ────────────────────────────────
  **THE VALUES OF A CONFIGURATION GRAPH.**

  A value is a tree.  Lists, maps and nullable slots carry the shape that
  their contents were declared with, so the shape of every value can be read
  off the value, and an empty list still knows what it may hold.

  Nullable and dynamic layers are transparent to readers: `present?` looks
  through them, and `mapPresent` changes what is behind them and leaves the
  layers standing.

  That a tree obeys its own declarations (elements have the element shape,
  records have the schema's fields, sorted maps ascend) is a property of
  trees and not part of the type.

  Main definitions: `Key`, `Value`, `Value.shape`, `Value.present?`,
  `Value.mapPresent`.
-/
import ConfigGraph.Binary32.Basic
import ConfigGraph.Graph.Shape

namespace ConfigGraph

/-! ## §1. Map keys. -/

/-- The key of a map entry. -/
inductive Key where
  /-- A text, which is its own path segment. -/
  | text (s : String)
  /-- An integer, written in decimal as a path segment. -/
  | int (n : Int32)
  deriving Repr, DecidableEq

namespace Key

/-- The type of a key. -/
def kind : Key → KeyKind
  | .text _ => .text
  | .int _ => .int

/-- Texts ascend by code point, integers by number; texts come before integers. -/
def before : Key → Key → Bool
  | .text s, .text t => s < t
  | .text _, .int _ => true
  | .int _, .text _ => false
  | .int m, .int n => m < n

instance : LT Key := ⟨fun a b => a.before b = true⟩

instance : DecidableLT Key := fun a b => inferInstanceAs (Decidable (a.before b = true))

/-- The path segment that writes a key. -/
def segment : Key → String
  | .text s => s
  | .int n => Text.ofInt n.toInt

end Key

/-- The key that a path segment writes in a map with keys of this kind. -/
def KeyKind.read? : KeyKind → String → Option Key
  | .text, segment => some (.text segment)
  | .int, segment => (Text.int? segment).map .int

/-! ## §2. Values. -/

/-- A node of a configuration graph with everything below it. -/
inductive Value where
  /-- A text. -/
  | text (s : String)
  /-- A truth value. -/
  | bool (b : Bool)
  /-- A 32-bit integer. -/
  | int (n : Int32)
  /-- A floating-point number. -/
  | float (x : Binary32)
  /-- A vector, by its components. -/
  | vector (dim : Dim) (components : List Binary32)
  /-- A set of texts, by its ascending members. -/
  | textSet (members : List String)
  /-- A record, by its fields in declaration order. -/
  | record (name : String) (fields : List (String × Value))
  /-- A list. -/
  | list (element : Shape) (items : List Value)
  /-- A map, by its entries in the map's own order. -/
  | map (order : MapOrder) (key : KeyKind) (value : Shape) (entries : List (Key × Value))
  /-- A nullable slot that holds nothing. -/
  | vacant (inner : Shape)
  /-- A nullable slot that holds a value. -/
  | filled (inner : Shape) (value : Value)
  /-- A slot of any type, with the value that it holds now. -/
  | dynamic (value : Value)
  deriving Repr

namespace Value

/-- The shape that a value was declared with. -/
def shape : Value → Shape
  | .text _ => .text
  | .bool _ => .bool
  | .int _ => .int
  | .float _ => .float
  | .vector dim _ => .vector dim
  | .textSet _ => .textSet
  | .record name _ => .record name
  | .list element _ => .list element
  | .map order key value _ => .map order key value
  | .vacant inner => .nullable inner
  | .filled inner _ => .nullable inner
  | .dynamic _ => .dynamic

/-! ## §3. Looking through layers. -/

/-- The value behind all nullable and dynamic layers, if there is one. -/
def present? : Value → Option Value
  | .vacant _ => none
  | .filled _ value => value.present?
  | .dynamic value => value.present?
  | value => some value

/-- Change the value behind all nullable and dynamic layers; an empty slot stays empty. -/
def mapPresent (f : Value → Value) : Value → Value
  | .vacant inner => .vacant inner
  | .filled inner value => .filled inner (value.mapPresent f)
  | .dynamic value => .dynamic (value.mapPresent f)
  | value => f value

/-- The display name of what a reader sees in a slot. -/
def viewName (value : Value) : String :=
  match value.present? with
  | some inside => inside.shape.name
  | none => "null"

end Value

end ConfigGraph
