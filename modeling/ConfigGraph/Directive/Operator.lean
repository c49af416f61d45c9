/-
  ConfigGraph.Directive.Operator
  ────────────────────────────────
  **OPERATOR TOKENS.**

  The token at the very end of a raw value selects the operation.  Tokens
  are tried in a fixed order (insert, remove, default value) and the first
  one that ends the text wins.  It is cut off, and so are the blanks in front
  of it; blanks at the beginning and tokens inside the text are part of the
  value.  A text that ends in no token overwrites, and its value is the text
  as written, blanks included.
-/
import ConfigGraph.Directive.Basic

namespace ConfigGraph

/-- The tokens that select operations. -/
structure OperatorTokens where
  /-- Ends a value that is added. -/
  insert : String
  /-- Ends a value that is deleted. -/
  remove : String
  /-- Ends a request for a default instance. -/
  defaultValue : String
  deriving Repr, DecidableEq

namespace OperatorTokens

/-- The tokens of an engine that nobody has configured. -/
def standard : OperatorTokens := ⟨"!+", "!-", "!d"⟩

/-- Tokens and operations in the order in which they are tried. -/
def entries (tokens : OperatorTokens) : List (String × Operation) :=
  [(tokens.insert, .insert), (tokens.remove, .remove), (tokens.defaultValue, .defaultValue)]

/-- The token that selects an operation; overwriting needs none. -/
def token (tokens : OperatorTokens) : Operation → String
  | .overwrite => ""
  | .insert => tokens.insert
  | .remove => tokens.remove
  | .defaultValue => tokens.defaultValue

/-- What is left of a text when a token at its end and the blanks before it are cut off. -/
def cut? (token raw : String) : Option String :=
  (token.toList.isSuffixOf? raw.toList).map fun rest => String.ofList (Text.trimEnd rest)

/-- The operation and the value of a raw text. -/
def split (tokens : OperatorTokens) (raw : String) : Operation × String :=
  let hit := tokens.entries.findSome? fun (token, operation) =>
    (cut? token raw).map fun value => (operation, value)
  hit.getD (.overwrite, raw)

end OperatorTokens

end ConfigGraph
