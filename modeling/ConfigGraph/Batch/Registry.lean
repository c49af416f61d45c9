/-
  ConfigGraph.Batch.Registry
  ────────────────────────────────
  **COLLECTIONS OF ROOTS.**

  A collection holds the roots of one type under ascending keys.  A registry
  holds collections under their names, in the order in which the names were
  first registered.  A root is put into a collection by conversion, so every
  root in it has the collection's shape.

  Hooks run on every root after a batch.  A hook may change the root it is
  given and whatever state the caller threads through it; the state's type
  is a parameter, because the library never looks at it.

  Main definitions: `Collection`, `Collection.upsert`,
  `Collection.finishBatch`, `Registry`.
-/
import ConfigGraph.Graph.Assign
import ConfigGraph.Text.Quoted

namespace ConfigGraph

/-! ## §1. Collections. -/

/-- What runs on the root at a key after a batch. -/
abbrev Hook (σ : Type) := String → Value → σ → Value × σ

/-- Roots of one type. -/
structure Collection (σ : Type) where
  /-- The name that the collection is registered under. -/
  name : String
  /-- The shape of every root. -/
  shape : Shape
  /-- Keys in ascending order, with their roots. -/
  entries : List (String × Value)
  /-- The hooks, in the order in which they run on a root. -/
  hooks : List (Hook σ)

/-- How putting a root into a collection changed it. -/
inductive Upsert where
  /-- The key is new. -/
  | inserted
  /-- The key had another root before. -/
  | replaced
  deriving Repr, DecidableEq

namespace Collection

variable {σ : Type}

/-- A collection without roots and hooks. -/
def empty (name : String) (shape : Shape) : Collection σ := ⟨name, shape, [], []⟩

/-- The root at a key. -/
def find? (collection : Collection σ) (key : String) : Option Value :=
  Ordered.find? key collection.entries

/-- The key has a root. -/
def contains (collection : Collection σ) (key : String) : Bool :=
  Ordered.contains key collection.entries

/-- The number of roots. -/
def size (collection : Collection σ) : Nat :=
  collection.entries.length

/-- Put a converted root at a key. -/
def put (collection : Collection σ) (key : String) (root : Value) : Collection σ :=
  { collection with entries := Ordered.putSorted key root collection.entries }

/-- Convert a root and put it at a key. -/
def upsert (collection : Collection σ) (key : String) (root : Value) :
    Except AssignError (Upsert × Collection σ) :=
  (root.convert collection.shape).map fun root =>
    (if collection.contains key then .replaced else .inserted, collection.put key root)

/-- Change the root at a key. -/
def modify (collection : Collection σ) (key : String) (f : Value → Value) : Collection σ :=
  { collection with entries := Ordered.modify key f collection.entries }

/-- Delete the root at a key. -/
def erase (collection : Collection σ) (key : String) : Collection σ :=
  { collection with entries := Ordered.erase key collection.entries }

/-- Add a hook behind the others. -/
def addHook (collection : Collection σ) (hook : Hook σ) : Collection σ :=
  { collection with hooks := collection.hooks ++ [hook] }

/-! ## §2. Hooks. -/

/-- Run hooks on one root, one after the other. -/
def runHooks (key : String) : List (Hook σ) → Value → σ → Value × σ
  | [], root, state => (root, state)
  | hook :: rest, root, state =>
      let (root', state') := hook key root state
      runHooks key rest root' state'

/-- Run all hooks on each root in turn. -/
def runEntries (hooks : List (Hook σ)) :
    List (String × Value) → σ → List (String × Value) × σ
  | [], state => ([], state)
  | (key, root) :: rest, state =>
      let (root', state') := runHooks key hooks root state
      let (rest', state'') := runEntries hooks rest state'
      ((key, root') :: rest', state'')

/-- Run every hook on every root, in ascending order of keys. -/
def finishBatch (collection : Collection σ) (state : σ) : Collection σ × σ :=
  let (entries, state') := runEntries collection.hooks collection.entries state
  ({ collection with entries := entries }, state')

end Collection

/-! ## §3. Registries. -/

/-- Collections by name, in order of registration. -/
structure Registry (σ : Type) where
  /-- Names and collections. -/
  collections : List (String × Collection σ)

namespace Registry

variable {σ : Type}

/-- The registry without collections. -/
def empty : Registry σ := ⟨[]⟩

/-- The collection of a name. -/
def find? (registry : Registry σ) (name : String) : Option (Collection σ) :=
  Ordered.find? name registry.collections

/-- Register a collection under its own name, in place of the one that had the name. -/
def register (registry : Registry σ) (collection : Collection σ) : Registry σ :=
  ⟨Ordered.putLast collection.name collection registry.collections⟩

/-- Put a changed collection back in the place of the one of this name. -/
def replace (registry : Registry σ) (name : String) (collection : Collection σ) : Registry σ :=
  ⟨Ordered.modify name (fun _ => collection) registry.collections⟩

/-- The names in order of registration. -/
def names (registry : Registry σ) : List String :=
  registry.collections.map (·.1)

/-- The description of a registry: the quoted names. -/
def describe (registry : Registry σ) : String :=
  "[" ++ ", ".intercalate (registry.names.map Text.quoted) ++ "]"

end Registry

end ConfigGraph
