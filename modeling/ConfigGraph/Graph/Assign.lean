/-
  ConfigGraph.Graph.Assign
  ────────────────────────────────
  **TYPE-CHECKED ASSIGNMENT.**

  A value enters a slot only through `Value.convert`, which checks it against
  the shape of the slot.  A value of exactly that shape is taken as it is.  A
  nullable slot also takes what its inner shape takes, and a slot of any type
  takes everything, wrapping it once.  Every other value is refused, and the
  two shapes are named in the refusal.

  §2 and §3 are the operations on the items of a list and the entries of a
  map.  Each checks the position or the key first and converts the value
  second; on failure nothing has changed, because the operations return the
  new contents instead of changing the old.
-/
import ConfigGraph.Graph.Value
import ConfigGraph.Ordered

namespace ConfigGraph

/-! ## §1. Conversion. -/

/-- Why a value could not be put into a slot. -/
inductive AssignError where
  /-- The slot does not take values of this shape. -/
  | typeMismatch (expected found : Shape)
  /-- The list is not that long. -/
  | indexOutOfBounds (index length : Nat)
  /-- The text writes no key of this kind. -/
  | invalidKey (key : String) (kind : KeyKind)
  /-- The record has no such field. -/
  | missingField (field record : String)
  deriving Repr, DecidableEq

/-- The text of a refusal. -/
def AssignError.message : AssignError → String
  | .typeMismatch expected found =>
      "value of type " ++ found.name ++ " can't be stored in a slot of type " ++ expected.name
  | .indexOutOfBounds index length =>
      "index " ++ Text.ofNat index ++ " is out of bounds for list size " ++ Text.ofNat length
  | .invalidKey key kind =>
      "key " ++ key ++ " can't be converted to key type " ++ kind.name
  | .missingField field record =>
      "field " ++ field ++ " doesn't exist on type " ++ record

/-- The value as a value of the given shape. -/
def Value.convert : Shape → Value → Except AssignError Value
  | .nullable inner, value =>
      if value.shape = .nullable inner then .ok value
      else (Value.convert inner value).map (.filled inner)
  | .dynamic, value =>
      if value.shape = .dynamic then .ok value else .ok (.dynamic value)
  | shape, value =>
      if value.shape = shape then .ok value else .error (.typeMismatch shape value.shape)

/-- The value that a slot holds after `value` has been assigned over `current`. -/
def Value.assign (current value : Value) : Except AssignError Value :=
  Value.convert current.shape value

/-! ## §2. The items of a list. -/

namespace Items

/-- Replace the item at an index. -/
def set (element : Shape) (items : List Value) (index : Nat) (value : Value) :
    Except AssignError (List Value) :=
  if index < items.length then
    (Value.convert element value).map (items.set index)
  else .error (.indexOutOfBounds index items.length)

/-- Put a new item in front of the one at an index, or behind the last. -/
def insert (element : Shape) (items : List Value) (index : Nat) (value : Value) :
    Except AssignError (List Value) :=
  if index ≤ items.length then
    (Value.convert element value).map (items.insertIdx index)
  else .error (.indexOutOfBounds index items.length)

/-- Put a new item behind the last. -/
def push (element : Shape) (items : List Value) (value : Value) :
    Except AssignError (List Value) :=
  (Value.convert element value).map fun item => items ++ [item]

/-- Take out the item at an index: the item and the items that stay. -/
def remove? (items : List Value) (index : Nat) : Option (Value × List Value) :=
  items[index]?.map fun item => (item, items.eraseIdx index)

end Items

/-! ## §3. The entries of a map. -/

namespace Entries

/-- The value at the key that a text writes; a text that writes no key matches nothing. -/
def find? (kind : KeyKind) (entries : List (Key × Value)) (text : String) : Option Value :=
  (kind.read? text).bind fun key => Ordered.find? key entries

/-- Put a value at a key: in the place of the old value, or where the map's order puts a
new entry. -/
def putKey (order : MapOrder) (key : Key) (value : Value) (entries : List (Key × Value)) :
    List (Key × Value) :=
  match order with
  | .sorted => Ordered.putSorted key value entries
  | .arrival => Ordered.putLast key value entries

/-- Insert or replace the value at the key that a text writes. -/
def put (order : MapOrder) (kind : KeyKind) (shape : Shape) (entries : List (Key × Value))
    (text : String) (value : Value) : Except AssignError (List (Key × Value)) :=
  match kind.read? text with
  | none => .error (.invalidKey text kind)
  | some key => (Value.convert shape value).map fun value => putKey order key value entries

/-- Take out the entry at the key that a text writes: its value and the entries that stay. -/
def remove? (kind : KeyKind) (entries : List (Key × Value)) (text : String) :
    Option (Value × List (Key × Value)) :=
  (kind.read? text).bind fun key =>
    (Ordered.find? key entries).map fun value => (value, Ordered.erase key entries)

end Entries

end ConfigGraph
