/-
  ConfigGraph.Graph.Address
  ────────────────────────────────
  **ADDRESSES AND LOOK-UP.**

  A path is text; an address is what the text means in one graph: field
  names, index numbers and converted keys.  Several texts may write one
  address (`values.0` and `values.+00`).

  `locate?` resolves a path and finds the node at its end.  The first segment
  always names a field of the root, later ones index lists, key maps or name
  fields.  An empty slot stops the look-up, and so does a leaf.  `get?` and
  `update` read and change the node at an address.

  `place?` is the look-up of one who means to write: it finds the node
  together with the graph around it, into which another node can be put.
-/
import ConfigGraph.Graph.Value
import ConfigGraph.Ordered

namespace ConfigGraph

/-! ## §1. Steps from a node to a part of it. -/

/-- One step from a record, list or map to one of its parts. -/
inductive Step where
  /-- To the field of this name. -/
  | field (name : String)
  /-- To the item at this index. -/
  | index (i : Nat)
  /-- To the value at this key. -/
  | key (k : Key)
  deriving Repr, DecidableEq

/-- A way from the root of a graph to a node. -/
abbrev Address := List Step

namespace Value

/-- The part of a bare record, list or map that a step leads to. -/
def part? : Value → Step → Option Value
  | .record _ fields, .field name => Ordered.find? name fields
  | .list _ items, .index i => items[i]?
  | .map _ _ _ entries, .key k => Ordered.find? k entries
  | _, _ => none

/-- Change the part of a bare record, list or map that a step leads to. -/
def mapPart (step : Step) (f : Value → Value) : Value → Value
  | .record name fields =>
      match step with
      | .field field => .record name (Ordered.modify field f fields)
      | _ => .record name fields
  | .list element items =>
      match step with
      | .index i => .list element (items.modify i f)
      | _ => .list element items
  | .map order kind shape entries =>
      match step with
      | .key k => .map order kind shape (Ordered.modify k f entries)
      | _ => .map order kind shape entries
  | value => value

/-- The part that a step leads to, seen through nullable and dynamic layers. -/
def child? (value : Value) (step : Step) : Option Value :=
  value.present?.bind (·.part? step)

/-! ## §2. Nodes at addresses. -/

/-- The node at an address. -/
def get? (root : Value) : Address → Option Value
  | [] => some root
  | step :: address => (root.child? step).bind (·.get? address)

/-- Change the node at an address; without such a node, no change. -/
def update (f : Value → Value) : Address → Value → Value
  | [], root => f root
  | step :: address, root => root.mapPresent (mapPart step (update f address))

/-! ## §3. Paths. -/

/-- The step that a segment writes at a node, and the part that it leads to. Lists and
maps are entered behind the first segment only. -/
def step? (value : Value) (depth : Nat) (segment : String) : Option (Step × Value) :=
  match value.present? with
  | some (.record _ fields) =>
      (Ordered.find? segment fields).map fun part => (.field segment, part)
  | some (.list _ items) =>
      if depth = 0 then none
      else (Text.index? segment).bind fun i => items[i]?.map fun part => (.index i, part)
  | some (.map _ kind _ entries) =>
      if depth = 0 then none
      else (kind.read? segment).bind fun k =>
        (Ordered.find? k entries).map fun part => (.key k, part)
  | _ => none

/-- The address that the segments write, and the node there. -/
def locateFrom? (value : Value) (depth : Nat) : List String → Option (Address × Value)
  | [] => some ([], value)
  | segment :: rest => do
      let (step, part) ← value.step? depth segment
      let (address, node) ← part.locateFrom? (depth + 1) rest
      return (step :: address, node)

/-- The address of a path in a graph, and the node there. The empty path is the root. -/
def locate? (root : Value) (segments : List String) : Option (Address × Value) :=
  root.locateFrom? 0 segments

/-- The node at a path. -/
def lookup? (root : Value) (segments : List String) : Option Value :=
  (root.locate? segments).map (·.2)

/-- The value at a path behind all layers, if it has the given shape. -/
def lookupAs? (root : Value) (segments : List String) (shape : Shape) : Option Value :=
  ((root.lookup? segments).bind present?).filter fun value => value.shape = shape

/-! ## §4. Places. -/

/-- A node that can be exchanged. -/
structure Place where
  /-- The node that is there now. -/
  node : Value
  /-- The graph around it, with another node in its place. -/
  put : Value → Value

/-- The place that a segment leads to in a node that is to be changed. The layers around
the node's contents stay as they are. -/
def enter? (value : Value) (depth : Nat) (segment : String) : Option Place :=
  match value.present? with
  | some (.record name fields) =>
      (Ordered.find? segment fields).map fun part =>
        ⟨part, fun new => value.mapPresent fun _ =>
          .record name (Ordered.modify segment (fun _ => new) fields)⟩
  | some (.list element items) =>
      if depth = 0 then none
      else (Text.index? segment).bind fun i => items[i]?.map fun part =>
        ⟨part, fun new => value.mapPresent fun _ => .list element (items.set i new)⟩
  | some (.map order kind shape entries) =>
      if depth = 0 then none
      else (kind.read? segment).bind fun key => (Ordered.find? key entries).map fun part =>
        ⟨part, fun new => value.mapPresent fun _ =>
          .map order kind shape (Ordered.modify key (fun _ => new) entries)⟩
  | _ => none

/-- The place that the segments lead to, each one a place in the node of the one before. -/
def placeFrom? (value : Value) (depth : Nat) : List String → Option Place
  | [] => some ⟨value, fun new => new⟩
  | segment :: rest => do
      let outer ← value.enter? depth segment
      let inner ← outer.node.placeFrom? (depth + 1) rest
      return ⟨inner.node, fun new => outer.put (inner.put new)⟩

/-- The place at a path. The empty path is the place of the whole graph. -/
def place? (root : Value) (segments : List String) : Option Place :=
  root.placeFrom? 0 segments

end Value

end ConfigGraph
