/-
  ConfigGraph.Directive.Basic
  ────────────────────────────────
  **DIRECTIVES AND WHAT THEY REPORT.**

  A directive is a path and a raw value.  The raw value may end in an
  operator token that selects what happens at the path; without one the slot
  is overwritten.  A directive that does not fail ends in a status, and on
  the way it leaves notes: one for every change, and one for a request that
  was understood and ignored.
-/
import ConfigGraph.Text.Integer

namespace ConfigGraph

/-! ## §1. The request. -/

/-- What a directive does to the slot at its path. -/
inductive Operation where
  /-- Replace the value. -/
  | overwrite
  /-- Add a list element, a map entry or a set member. -/
  | insert
  /-- Delete a list element, a map entry or a set member. -/
  | remove
  /-- Put a default instance in place of the value. -/
  | defaultValue
  deriving Repr, DecidableEq

/-- The name of an operation in reports. -/
def Operation.name : Operation → String
  | .overwrite => "overwrite"
  | .insert => "insert"
  | .remove => "remove"
  | .defaultValue => "default value"

/-- One instruction: where, and what. -/
structure Directive where
  /-- The field path of the slot. -/
  path : String
  /-- The raw value, operator token included. -/
  value : String
  deriving Repr, DecidableEq

/-- How the last segment of a path addresses a slot of its parent, in the words of the path. -/
inductive Selector where
  /-- An element of a list. -/
  | index (i : Nat)
  /-- An entry of a map, by the text of its key. -/
  | key (text : String)
  /-- A field of a record. -/
  | field (name : String)
  deriving Repr, DecidableEq

/-- The text of a selector in reports. -/
def Selector.describe : Selector → String
  | .index i => "list index " ++ Text.ofNat i
  | .key text => "map key " ++ text
  | .field name => "field " ++ name

/-! ## §2. The report. -/

/-- How a directive ended that did not fail. -/
inductive Status where
  /-- The graph was changed. -/
  | edited
  /-- The requested state held already, and this was reported. -/
  | unchanged
  /-- The path or the value is the empty text, and nothing was attempted. -/
  | skipped
  deriving Repr, DecidableEq

/-- What a note is about. -/
inductive NoteKind where
  /-- A change. -/
  | edit
  /-- A request that was ignored. -/
  | attempt
  deriving Repr, DecidableEq

/-- A line that a directive reports. -/
structure Note where
  /-- What the line is about. -/
  kind : NoteKind
  /-- The line. -/
  message : String
  deriving Repr, DecidableEq

end ConfigGraph
