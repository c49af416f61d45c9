/-
  ConfigGraph.Directive.Fault
  ────────────────────────────────
  **WHY A DIRECTIVE FAILS.**

  A fault is a cause with the data that explain it; the wording is in
  `Fault.message` and nowhere else.  Faults fall into five categories.  The
  category `internal` collects the faults that a directive cannot run into
  on a graph that obeys its declarations; they arise when slots are resolved
  and written by hand.
-/
import ConfigGraph.Directive.Basic
import ConfigGraph.FieldPath
import ConfigGraph.Graph.Assign

namespace ConfigGraph

/-! ## §1. Causes. -/

/-- What is wrong with a raw value that could not be read. -/
inductive ParseIssue where
  /-- It is no literal of the type. -/
  | malformed
  /-- It is not enclosed in parentheses. -/
  | missingParentheses
  /-- It has the wrong number of components. -/
  | wrongArity (expected found : Nat)
  deriving Repr, DecidableEq

/-- The text of an issue. -/
def ParseIssue.message : ParseIssue → String
  | .malformed => "malformed literal"
  | .missingParentheses => "missing parentheses"
  | .wrongArity expected found =>
      "expected " ++ Text.ofNat expected ++ " elements, found " ++ Text.ofNat found

/-- Why an operation makes no sense on a type. -/
inductive Refusal where
  /-- A set takes and loses members and nothing else. -/
  | membersOnly
  /-- The type has no literals; the token fills the slot with a default instance. -/
  | noLiterals (defaultToken : String)
  /-- What the updater of a host has to say. -/
  | other (reason : String)
  deriving Repr, DecidableEq

/-- The text of a refusal. -/
def Refusal.message : Refusal → String
  | .membersOnly =>
      "no addition or removal keywords detected, no other operations are supported on sets"
  | .noLiterals token =>
      "no string parsing implementation, use the " ++ token ++
        " keyword to fill it with a default instance"
  | .other reason => reason

/-- Why a directive failed. -/
inductive Fault where
  /-- The path is not a valid field path. -/
  | invalidPath (path : String) (defect : FieldPath.Defect)
  /-- A segment would have to be looked up in an empty slot. -/
  | nullTarget (step : Nat) (segment : String)
  /-- The value has no part of that name. -/
  | fieldNotFound (step : Nat) (segment : String) (found : Shape)
  /-- The segment does not write a list index. -/
  | invalidIndex (step : Nat) (segment : String)
  /-- The list is not that long. -/
  | indexOutOfBounds (step index length : Nat)
  /-- The map has no entry for the segment. -/
  | keyNotFound (step : Nat) (key : String)
  /-- Entries are added to maps with text keys only. -/
  | unsupportedKey (step : Nat) (key : String) (kind : KeyKind)
  /-- The raw value is no literal of the slot's type. -/
  | unreadable (value : String) (shape : Shape) (issue : ParseIssue)
  /-- The operation makes no sense on the slot's type. -/
  | unsupported (operation : Operation) (shape : Shape) (refusal : Refusal)
  /-- No type is registered under the tag. -/
  | unknownTag (tag : String)
  /-- The type has no default instance. -/
  | noDefault (shape : Shape)
  /-- The selector does not fit the value that it should select from. -/
  | inconsistentSlot (parent : Shape) (selector : Selector)
  /-- The slot refused the value. -/
  | write (cause : AssignError)
  deriving Repr, DecidableEq

/-! ## §2. Wording. -/

/-- The text of a fault. -/
def Fault.message : Fault → String
  | .invalidPath path defect => "path " ++ path ++ " is invalid: " ++ defect.message
  | .nullTarget step segment =>
      "can't proceed past " ++ segment ++ " (step " ++ Text.ofNat step ++
        "), current target reference is null"
  | .fieldNotFound step segment found =>
      "field " ++ segment ++ " (step " ++ Text.ofNat step ++ ") could not be found on type " ++
        found.name
  | .invalidIndex step segment =>
      "index " ++ segment ++ " (step " ++ Text.ofNat step ++ ") can't be parsed or is negative"
  | .indexOutOfBounds step index length =>
      "index " ++ Text.ofNat index ++ " (step " ++ Text.ofNat step ++
        ") is out of bounds for list size " ++ Text.ofNat length
  | .keyNotFound step key =>
      "key " ++ key ++ " (step " ++ Text.ofNat step ++ ") doesn't exist in the target map"
  | .unsupportedKey step key kind =>
      "can't add key " ++ key ++ " (step " ++ Text.ofNat step ++
        ") - only string keys are supported, map uses " ++ kind.name
  | .unreadable value shape issue =>
      "can't parse raw value " ++ value ++ " as " ++ shape.name ++ ": " ++ issue.message
  | .unsupported operation shape refusal =>
      operation.name ++ " is not supported on type " ++ shape.name ++ " - " ++ refusal.message
  | .unknownTag tag => "there is no type associated with tag " ++ tag
  | .noDefault shape => "type " ++ shape.name ++ " has no default instance"
  | .inconsistentSlot parent selector =>
      "walk terminated inconsistently: " ++ parent.name ++ " can't be addressed by " ++
        selector.describe
  | .write cause => "write failed: " ++ cause.message

/-! ## §3. Categories. -/

/-- What kind of mistake a fault is. -/
inductive Category where
  /-- The path leads nowhere. -/
  | pathResolution
  /-- The value cannot be read. -/
  | parse
  /-- The request does not fit the type. -/
  | unsupportedOperation
  /-- The tag is not registered. -/
  | unknownTag
  /-- The graph, the slot and the selector contradict each other. -/
  | internal
  deriving Repr, DecidableEq

/-- The category of a fault. -/
def Fault.category : Fault → Category
  | .invalidPath .. | .nullTarget .. | .fieldNotFound .. | .invalidIndex ..
  | .indexOutOfBounds .. | .keyNotFound .. => .pathResolution
  | .unreadable .. => .parse
  | .unsupportedKey .. | .unsupported .. | .noDefault .. => .unsupportedOperation
  | .write (.typeMismatch ..) => .unsupportedOperation
  | .unknownTag .. => .unknownTag
  | .inconsistentSlot .. | .write _ => .internal

end ConfigGraph
