/-
  ConfigGraph.Document.Toml.Table
  ────────────────────────────────
  **TOML: TABLES UNDER CONSTRUCTION.**

  The tables of a document are written in pieces: by headers, by headers of
  their sub-tables, and by keys with points.  Whether a later piece may add
  to a table depends on how the table came about.

      written as a value       nothing may be added
      implied by a sub-table   a header may define it, once
      made by a key            other keys may add to it, a header may not
      defined by a header      sub-tables may be added, keys from outside not
      element of an array      the last element takes what names the array

  A key that is there already is refused in every case.
-/
import ConfigGraph.Document.Node
import ConfigGraph.Ordered

namespace ConfigGraph.Document.Toml

/-- How a table came about. -/
inductive Origin where
  /-- A header named a sub-table of it. -/
  | implied
  /-- A key with points made it. -/
  | dotted
  /-- A header defined it. -/
  | header
  deriving Repr, DecidableEq

/-- What stands at a key while the document is read. -/
inductive Entry where
  /-- A value, arrays and tables written as values included. -/
  | value (node : Node)
  /-- A table that was not written as a value. -/
  | table (origin : Origin) (members : List (String × Entry))
  /-- An array whose elements have headers. -/
  | elements (tables : List (List (String × Entry)))
  deriving Repr

/-- The members of a table under construction. -/
abbrev Members := List (String × Entry)

namespace Members

/-! ## §1. Adding. -/

/-- Put a new entry behind the others. -/
def add (members : Members) (key : String) (entry : Entry) : Members :=
  members ++ [(key, entry)]

/-- Put a changed entry in the place of the old one. -/
def replace (members : Members) (key : String) (entry : Entry) : Members :=
  Ordered.modify key (fun _ => entry) members

/-- Change the last element of an array. -/
def inLast (f : Members → Option Members) (tables : List Members) : Option (List Members) :=
  tables.getLast?.bind fun last => (f last).map fun last' => tables.dropLast ++ [last']

/-- Change the table that the path of a header leads to; tables on the way are implied. -/
def inHeader (f : Members → String → Option Members) : List String → Members → Option Members
  | [], _ => none
  | [key], members => f members key
  | key :: rest, members =>
      match Ordered.find? key members with
      | none => (inHeader f rest []).map fun inner => members.add key (.table .implied inner)
      | some (.table origin inner) =>
          (inHeader f rest inner).map fun inner => members.replace key (.table origin inner)
      | some (.elements tables) =>
          (inLast (inHeader f rest) tables).map fun tables =>
            members.replace key (.elements tables)
      | some (.value _) => none

/-- The header of a table. -/
def openTable (members : Members) (key : String) : Option Members :=
  match Ordered.find? key members with
  | none => some (members.add key (.table .header []))
  | some (.table .implied inner) => some (members.replace key (.table .header inner))
  | some _ => none

/-- The header of an element of an array. -/
def openElement (members : Members) (key : String) : Option Members :=
  match Ordered.find? key members with
  | none => some (members.add key (.elements [[]]))
  | some (.elements tables) => some (members.replace key (.elements (tables ++ [[]])))
  | some _ => none

/-- Change the table at a path that exists. -/
def within (f : Members → Option Members) : List String → Members → Option Members
  | [], members => f members
  | key :: rest, members =>
      match Ordered.find? key members with
      | some (.table origin inner) =>
          (within f rest inner).map fun inner => members.replace key (.table origin inner)
      | some (.elements tables) =>
          (inLast (within f rest) tables).map fun tables => members.replace key (.elements tables)
      | _ => none

/-- Put a value at a key, which may have points. The table that the value goes into must
be the one that the key starts from, or be made by keys; `open'` says that it is. -/
def put (node : Node) (open' : Bool) : List String → Members → Option Members
  | [], _ => none
  | [key], members =>
      if open' ∧ (Ordered.find? key members).isNone then some (members.add key (.value node))
      else none
  | key :: rest, members =>
      match Ordered.find? key members with
      | none => (put node true rest []).map fun inner => members.add key (.table .dotted inner)
      | some (.table .header _) => none
      | some (.table origin inner) =>
          (put node (origin = .dotted) rest inner).map fun inner =>
            members.replace key (.table origin inner)
      | some (.elements tables) =>
          (inLast (put node false rest) tables).map fun tables =>
            members.replace key (.elements tables)
      | some (.value _) => none

end Members

/-! ## §2. Finishing. -/

mutual

/-- The node of an entry. -/
def Entry.node : Entry → Node
  | .value node => node
  | .table _ members => .table (nodes members)
  | .elements tables => .array (elementNodes tables)

/-- The nodes of members. -/
def nodes : List (String × Entry) → List (Option String × Node)
  | [] => []
  | (key, entry) :: rest => (some key, entry.node) :: nodes rest

/-- The nodes of the elements of an array. -/
def elementNodes : List (List (String × Entry)) → List Node
  | [] => []
  | members :: rest => .table (nodes members) :: elementNodes rest

end

/-- The table that keys and values written as one value make. -/
def inlineTable? (pairs : List (List String × Node)) : Option Node :=
  (pairs.foldlM (fun (members : Members) (key, node) => members.put node true key) []).map
    fun members => .table (nodes members)

end ConfigGraph.Document.Toml
