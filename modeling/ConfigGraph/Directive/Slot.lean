/-
  ConfigGraph.Directive.Slot
  ────────────────────────────────
  **SLOTS.**

  A slot is the place that a directive writes to: one element of a list, one
  entry of a map or one field of a record, bound to the contents of its
  parent.  `Slot.write` is the only way in which a directive commits a value,
  and all three kinds of slot convert the value by the shape that the parent
  declares.  Writing returns the slot with the new contents; `container` is
  the parent that has them.
-/
import ConfigGraph.Directive.Fault

namespace ConfigGraph

/-- A place in a list, map or record, with the contents around it. -/
inductive Slot where
  /-- The element at an index of a list. -/
  | element (shape : Shape) (items : List Value) (index : Nat)
  /-- The entry of a map for the key that a text writes. -/
  | entry (order : MapOrder) (kind : KeyKind) (shape : Shape) (entries : List (Key × Value))
      (text : String)
  /-- The field of a record, with the shape that the field was declared with. -/
  | field (record : String) (fields : List (String × Value)) (name : String) (declared : Shape)
  deriving Repr

namespace Slot

/-- Bind a selector to the value it selects from, layers looked through. The slot must exist. -/
def resolve (parent : Value) (selector : Selector) : Except Fault Slot :=
  match parent.present?, selector with
  | some (.list shape items), .index i =>
      if i < items.length then .ok (.element shape items i)
      else .error (.inconsistentSlot parent.shape (.index i))
  | some (.map order kind shape entries), .key text =>
      if (Entries.find? kind entries text).isSome then .ok (.entry order kind shape entries text)
      else .error (.inconsistentSlot parent.shape (.key text))
  | some (.record record fields), .field name =>
      match Ordered.find? name fields with
      | some part => .ok (.field record fields name part.shape)
      | none => .error (.inconsistentSlot parent.shape (.field name))
  | _, selector => .error (.inconsistentSlot parent.shape selector)

/-- The shape that the parent declares for the slot. -/
def declared : Slot → Shape
  | .element shape .. => shape
  | .entry _ _ shape .. => shape
  | .field _ _ _ declared => declared

/-- How the slot is addressed. -/
def selector : Slot → Selector
  | .element _ _ index => .index index
  | .entry _ _ _ _ text => .key text
  | .field _ _ name _ => .field name

/-- The value in the slot. -/
def target? : Slot → Option Value
  | .element _ items index => items[index]?
  | .entry _ kind _ entries text => Entries.find? kind entries text
  | .field _ fields name _ => Ordered.find? name fields

/-- The list, map or record that the slot is a place of. -/
def container : Slot → Value
  | .element shape items _ => .list shape items
  | .entry order kind shape entries _ => .map order kind shape entries
  | .field record fields .. => .record record fields

/-- Put a value into the slot. -/
def write (slot : Slot) (value : Value) : Except AssignError Slot :=
  match slot with
  | .element shape items index =>
      (Items.set shape items index value).map fun items => .element shape items index
  | .entry order kind shape entries text =>
      (Entries.put order kind shape entries text value).map fun entries =>
        .entry order kind shape entries text
  | .field record fields name declared =>
      match Ordered.find? name fields with
      | none => .error (.missingField name record)
      | some current =>
          (current.assign value).map fun value =>
            .field record (Ordered.modify name (fun _ => value) fields) name declared

/-- Put a value into the slot without a check of its shape. -/
def replace (slot : Slot) (value : Value) : Slot :=
  match slot with
  | .element shape items index => .element shape (items.set index value) index
  | .entry order kind shape entries text =>
      match kind.read? text with
      | some key => .entry order kind shape (Ordered.modify key (fun _ => value) entries) text
      | none => .entry order kind shape entries text
  | .field record fields name declared =>
      .field record (Ordered.modify name (fun _ => value) fields) name declared

/-- What kind of place the slot is, in reports. -/
def describe : Slot → String
  | .element .. => "list element"
  | .entry .. => "dictionary entry"
  | .field .. => "field"

end Slot

end ConfigGraph
