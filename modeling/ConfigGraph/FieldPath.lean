/-
  ConfigGraph.FieldPath
  ────────────────────────────────
  **DOTTED FIELD PATHS.**

  A field path names one slot of a configuration graph: segments separated by
  points.  The first segment always names a field of the root; later ones
  index lists, key maps or name fields, whatever the segment before landed
  on.  Taking a path apart loses nothing (empty segments are kept, so that
  validation can refuse them by position), and the empty text is the empty
  path, not the path of one empty segment.

  Main definitions: `parse`, `format`, `index`, `parent`, `isChild`,
  `validate` and `validateSegments`.
-/
import ConfigGraph.Text.Integer

namespace ConfigGraph.FieldPath

/-! ## §1. Text and segments. -/

/-- The character between two segments. -/
def separator : Char := '.'

/-- The segments of a path. -/
def parse (path : String) : List String :=
  if path.isEmpty then []
  else (path.toList.splitOn separator).map String.ofList

/-- The path that joins the segments. -/
def format (segments : List String) : String :=
  String.ofList ([separator].intercalate (segments.map String.toList))

/-! ## §2. Questions about segments. -/

/-- Why a question about a path has no answer. -/
inductive Failure where
  /-- The empty path has no parent. -/
  | noParent
  /-- The segment does not read as a list index. -/
  | invalidIndex (segment : String)
  deriving Repr, DecidableEq

/-- The text of a failure. -/
def Failure.message : Failure → String
  | .noParent => "path has no parent"
  | .invalidIndex segment => "segment " ++ segment ++ " is not a valid list index"

/-- The list index that a segment writes. -/
def index (segment : String) : Except Failure Nat :=
  match Text.index? segment with
  | some i => .ok i
  | none => .error (.invalidIndex segment)

/-- A segment that writes a list index. -/
def isValidIndex (segment : String) : Bool :=
  (Text.index? segment).isSome

/-- The empty path is the root itself. -/
def isRoot (segments : List String) : Bool :=
  segments.isEmpty

/-- `parent` is a strict beginning of `child`. -/
def isChild (parent child : List String) : Bool :=
  parent.length < child.length && parent.isPrefixOf child

/-- The path without its last segment. -/
def parent : List String → Except Failure (List String)
  | [] => .error .noParent
  | segment :: rest => .ok (segment :: rest).dropLast

/-! ## §3. Validation. -/

/-- The greatest length of a path text, in bytes of UTF-8. -/
def maxBytes : Nat := 1024

/-- The greatest number of segments. -/
def maxSegments : Nat := 256

/-- Why a path is not valid. -/
inductive Defect where
  /-- There is no segment at all. -/
  | emptyPath
  /-- The text is longer than `maxBytes`. -/
  | pathTooLong
  /-- There are more segments than `maxSegments`. -/
  | tooManySegments
  /-- The segment at this position is the empty text. -/
  | emptySegment (step : Nat)
  deriving Repr, DecidableEq

/-- The text of a defect. -/
def Defect.message : Defect → String
  | .emptyPath => "path is empty"
  | .pathTooLong => "path is longer than 1024 bytes"
  | .tooManySegments => "path has more than 256 segments"
  | .emptySegment step => "segment " ++ Text.ofNat step ++ " is empty"

/-- The defect of a list of segments, if it has one; the first empty segment is named. -/
def validateSegments (segments : List String) : Except Defect Unit :=
  if segments.isEmpty then .error .emptyPath
  else if maxSegments < segments.length then .error .tooManySegments
  else match segments.findIdx? String.isEmpty with
    | some step => .error (.emptySegment step)
    | none => .ok ()

/-- The defect of a path text, if it has one. The length of the text is judged before
the segments are. -/
def validate (path : String) : Except Defect Unit :=
  if path.isEmpty then .error .emptyPath
  else if maxBytes < path.utf8ByteSize then .error .pathTooLong
  else validateSegments (parse path)

end ConfigGraph.FieldPath
