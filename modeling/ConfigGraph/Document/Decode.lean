/-
  ConfigGraph.Document.Decode
  ────────────────────────────────
  **DECODING DOCUMENTS.**

  A record of settings is written as a table of its fields or as an array of
  their values in order.  In a table, unknown fields are ignored and a known
  field given twice is refused.  In an array, fields may be missing at the
  end; what stands behind the last field is refused in JSON and ignored in
  TOML.  A missing field takes its default or, if it has none, makes the
  document invalid.  Types are strict: nothing is converted, and null is
  accepted only where a value is optional.

  A date stands for a table without known fields.

  Main definitions: `engineConfig?`, `scripts?`, `script?`, `directive?`.
-/
import ConfigGraph.Batch.Overlay
import ConfigGraph.Directive.Engine
import ConfigGraph.Document.Node

namespace ConfigGraph.Document.Node

/-! ## §1. Values. -/

/-- A text. -/
def asText? : Node → Option String
  | .text s => s
  | _ => none

/-- A truth value. -/
def asBool? : Node → Option Bool
  | .bool b => some b
  | _ => none

/-- A text that may be null. -/
def asOptionalText? : Node → Option (Option String)
  | .null => some none
  | node => node.asText?.map some

/-- An array whose items are all read the same way. -/
def asList? {α : Type} (read : Node → Option α) : Node → Option (List α)
  | .array items => items.mapM read
  | _ => none

/-! ## §2. Records. -/

/-- The values of a member's name; more than one is an ambiguity. -/
def values (name : String) (members : List (Option String × Node)) : List Node :=
  (members.filter fun member => member.1 = some name).map (·.2)

/-- The items of an array that are written for this many fields. Surplus items are an error
in JSON only. -/
def arrayFields? (format : Format) (count : Nat) (items : List Node) : Option (List Node) :=
  match format with
  | .json => if items.length ≤ count then some items else none
  | .toml => some (items.take count)

/-- The values of the named fields, in their order; a field that is not there has none. -/
def fields? (format : Format) (names : List String) : Node → Option (List (Option Node))
  | .table members =>
      if members.all fun member => member.1.isSome then
        names.mapM fun name =>
          match values name members with
          | [] => some none
          | [node] => some (some node)
          | _ => none
      else none
  | .moment => some (names.map fun _ => none)
  | .array items =>
      (arrayFields? format names.length items).map fun items =>
        items.map some ++ List.replicate (names.length - items.length) none
  | _ => none

/-- A field that has to be there. -/
def required? {α : Type} (read : Node → Option α) (field : Option Node) : Option α :=
  field.bind read

/-- A field that has a default. -/
def withDefault? {α : Type} (default : α) (read : Node → Option α) : Option Node → Option α
  | none => some default
  | some node => read node

/-! ## §3. The records of this library. -/

/-- The operator tokens; what is missing is standard. -/
def operatorTokens? (format : Format) (node : Node) : Option OperatorTokens := do
  let standard := OperatorTokens.standard
  match ← node.fields? format ["insert", "remove", "default_value"] with
  | [insert, remove, defaultValue] =>
      return {
        insert := ← withDefault? standard.insert asText? insert
        remove := ← withDefault? standard.remove asText? remove
        defaultValue := ← withDefault? standard.defaultValue asText? defaultValue }
  | _ => none

/-- The configuration of an engine; what is missing is standard. -/
def engineConfig? (format : Format) (node : Node) : Option EngineConfig := do
  let standard := EngineConfig.standard
  match ← node.fields? format ["enabled", "operators", "tag_marker"] with
  | [enabled, operators, tagMarker] =>
      return {
        enabled := ← withDefault? standard.enabled asBool? enabled
        operators := ← withDefault? standard.operators (operatorTokens? format) operators
        tagMarker := ← withDefault? standard.tagMarker asText? tagMarker }
  | _ => none

/-- A directive; without a value, the value is empty. -/
def directive? (format : Format) (node : Node) : Option Directive := do
  match ← node.fields? format ["path", "value"] with
  | [path, value] =>
      return { path := ← required? asText? path, value := ← withDefault? "" asText? value }
  | _ => none

/-- An edit script. -/
def script? (format : Format) (node : Node) : Option EditScript := do
  match ← node.fields? format ["collection", "key", "source", "removed", "edits"] with
  | [collection, key, source, removed, edits] =>
      return {
        collection := ← required? asText? collection
        key := ← required? asText? key
        source := ← withDefault? none asOptionalText? source
        removed := ← withDefault? false asBool? removed
        edits := ← withDefault? [] (asList? (directive? format)) edits }
  | _ => none

/-- The scripts of an overlay document. -/
def scripts? (format : Format) (node : Node) : Option (List EditScript) := do
  match ← node.fields? format ["edits"] with
  | [edits] => withDefault? [] (asList? (script? format)) edits
  | _ => none

end ConfigGraph.Document.Node
