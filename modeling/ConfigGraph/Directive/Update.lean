/-
  ConfigGraph.Directive.Update
  ────────────────────────────────
  **TYPED UPDATES.**

  A slot whose shape, nullable layers aside, is a leaf is updated by reading
  the raw value as a literal of the leaf's type and writing the result once.
  Leaves other than sets have one value: inserting and removing write the
  value just as overwriting does, and a default request writes zero, or
  nothing into a nullable text.  Sets have members: they take insertions and
  removals and nothing else.

  Which updater runs is looked up by the kind of the shape.  The table knows
  the updates of the leaf types to begin with, but an updater is no more than
  a function of the slot and of what has been reported: a table can leave
  kinds out, give one kind the update of another, and take the updaters of a
  host.

  Main definitions: `LeafUpdate`, `Updater`, `UpdaterTable`.
-/
import ConfigGraph.Directive.Literal
import ConfigGraph.Directive.Operator
import ConfigGraph.Directive.Slot

namespace ConfigGraph

/-! ## §1. What an update sees and does. -/

/-- Everything that an update depends on. -/
structure UpdateRequest where
  /-- The raw value without its operator token. -/
  value : String
  /-- The operation. -/
  operation : Operation
  /-- The slot. -/
  slot : Slot
  /-- The tokens, for messages. -/
  tokens : OperatorTokens

/-- What an update did. -/
inductive UpdateEffect where
  /-- It wrote to the slot. -/
  | wrote (slot : Slot) (message : String)
  /-- It left the slot as it was. -/
  | kept (message : String)
  deriving Repr

namespace UpdateRequest

/-- The shape that literals are read for. -/
def shape (request : UpdateRequest) : Shape :=
  request.slot.declared.resolved

/-- The fault of a value that is no literal. -/
def unreadable (request : UpdateRequest) (issue : ParseIssue) : Fault :=
  .unreadable request.value request.shape issue

/-- Write a value and report it. -/
def write (request : UpdateRequest) (value : Value) (message : String) :
    Except Fault UpdateEffect :=
  match request.slot.write value with
  | .ok slot => .ok (.wrote slot message)
  | .error cause => .error (.write cause)

/-! ## §2. The updates. -/

/-- Update a text. -/
def updateText (request : UpdateRequest) : Except Fault UpdateEffect :=
  if request.operation ≠ .defaultValue then
    request.write (.text request.value) ("String field modified with value " ++ request.value)
  else if request.slot.declared.isNullable then
    request.write (.vacant .text) "String field reset to null"
  else request.write (.text "") "String field reset to empty"

/-- Update a truth value. -/
def updateBool (request : UpdateRequest) : Except Fault UpdateEffect :=
  let b := request.operation ≠ .defaultValue && Literal.bool request.value
  request.write (.bool b) ("Bool field modified with value " ++ Literal.boolText b)

/-- Update an integer. -/
def updateInt (request : UpdateRequest) : Except Fault UpdateEffect :=
  let read := if request.operation = .defaultValue then some 0 else Text.int? request.value
  match read with
  | none => .error (request.unreadable .malformed)
  | some n =>
      request.write (.int n) ("Integer field modified with value " ++ Text.ofInt n.toInt)

/-- Update a floating-point number. -/
def updateFloat (request : UpdateRequest) : Except Fault UpdateEffect :=
  let read :=
    if request.operation = .defaultValue then some .zero else Literal.float? request.value
  match read with
  | none => .error (request.unreadable .malformed)
  | some x => request.write (.float x) ("Float field modified with value " ++ x.text)

/-- Update a vector of the given size. All components are read before the slot is written. -/
def updateVector (dim : Dim) (request : UpdateRequest) : Except Fault UpdateEffect :=
  let read :=
    if request.operation = .defaultValue then .ok (List.replicate dim.size .zero)
    else Literal.vector dim request.value
  match read with
  | .error issue => .error (request.unreadable issue)
  | .ok components =>
      request.write (.vector dim components)
        ("Vector" ++ Text.ofNat dim.size ++ " field modified with value " ++
          Literal.vectorText components)

/-- The members of the set in the slot; an empty slot has none. -/
def members (request : UpdateRequest) : List String :=
  match request.slot.target?.bind Value.present? with
  | some (.textSet members) => members
  | _ => []

/-- Add a member to a set or delete one. -/
def updateTextSet (request : UpdateRequest) : Except Fault UpdateEffect :=
  let value := request.value
  let token := request.tokens.token request.operation
  match request.operation with
  | .insert =>
      if value ∈ request.members then
        .ok (.kept ("Value " ++ value ++
          " already exists in target set, ignoring addition command prompted by " ++ token ++
          " keyword"))
      else request.write (.textSet (Ordered.insertMember value request.members))
        ("Value " ++ value ++ " is added to target set due to " ++ token ++ " keyword")
  | .remove =>
      if value ∈ request.members then
        request.write (.textSet (Ordered.eraseMember value request.members))
          ("Value " ++ value ++ " is removed from target set due to " ++ token ++ " keyword")
      else .ok (.kept ("Value " ++ value ++
        " doesn't exist in target set, ignoring removal command prompted by " ++ token ++
        " keyword"))
  | operation => .error (.unsupported operation request.shape .membersOnly)

end UpdateRequest

/-! ## §3. Leaf types. -/

/-- The update of a leaf type. -/
inductive LeafUpdate where
  /-- Of texts. -/
  | text
  /-- Of truth values. -/
  | bool
  /-- Of integers. -/
  | int
  /-- Of floating-point numbers. -/
  | float
  /-- Of vectors of one size. -/
  | vector (dim : Dim)
  /-- Of sets. -/
  | textSet
  deriving Repr, DecidableEq

/-- Run an update. -/
def LeafUpdate.run : LeafUpdate → UpdateRequest → Except Fault UpdateEffect
  | .text => UpdateRequest.updateText
  | .bool => UpdateRequest.updateBool
  | .int => UpdateRequest.updateInt
  | .float => UpdateRequest.updateFloat
  | .vector dim => UpdateRequest.updateVector dim
  | .textSet => UpdateRequest.updateTextSet

/-! ## §4. Updaters. -/

/-- Everything that an updater may look at or touch. -/
structure UpdateContext extends UpdateRequest where
  /-- What has been reported so far. -/
  notes : List Note

/-- What an updater leaves behind. -/
structure Update where
  /-- The slot with its contents, if the updater has touched it. -/
  slot : Option Slot
  /-- Everything that has been reported, before the updater and by it. -/
  notes : List Note
  /-- How the directive ends. -/
  result : Except Fault Status

/-- What is written is reported as an edit and what is kept as an attempt; a fault speaks for
itself. -/
def Update.of (notes : List Note) : Except Fault UpdateEffect → Update
  | .ok (.wrote slot message) => ⟨some slot, notes ++ [⟨.edit, message⟩], .ok .edited⟩
  | .ok (.kept message) => ⟨none, notes ++ [⟨.attempt, message⟩], .ok .unchanged⟩
  | .error fault => ⟨none, notes, .error fault⟩

/-- An updater is any function of what it sees. A host registers its own, which may write more
than once or not at all, and report what they like. -/
structure Updater where
  /-- Run the updater. -/
  run : UpdateContext → Update

/-- The updater of a leaf type. -/
def LeafUpdate.updater (leaf : LeafUpdate) : Updater where
  run context := .of context.notes (leaf.run context.toUpdateRequest)

/-! ## §5. The table. -/

/-- The updater of each kind that has one. -/
structure UpdaterTable where
  /-- Kinds and updaters, one updater a kind. -/
  entries : List (Kind × Updater)

namespace UpdaterTable

/-- The table without updaters. -/
def empty : UpdaterTable := ⟨[]⟩

/-- Every leaf kind and its own update. -/
def leaves : List (Kind × LeafUpdate) :=
  [(.text, .text), (.bool, .bool), (.int, .int), (.float, .float),
    (.vector .two, .vector .two), (.vector .three, .vector .three),
    (.vector .four, .vector .four), (.textSet, .textSet)]

/-- The table of an engine that nobody has configured. -/
def standard : UpdaterTable :=
  ⟨leaves.map fun (kind, leaf) => (kind, leaf.updater)⟩

/-- The updater of a kind. -/
def find? (table : UpdaterTable) (kind : Kind) : Option Updater :=
  Ordered.find? kind table.entries

/-- Give a kind an updater, in place of the one that it had. -/
def register (table : UpdaterTable) (kind : Kind) (updater : Updater) : UpdaterTable :=
  ⟨Ordered.putLast kind updater table.entries⟩

/-- The kinds that have an updater, in the order of all kinds. -/
def kinds (table : UpdaterTable) : List Kind :=
  Kind.all.filter fun kind => (table.find? kind).isSome

end UpdaterTable

end ConfigGraph
