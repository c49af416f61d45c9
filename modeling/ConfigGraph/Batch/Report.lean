/-
  ConfigGraph.Batch.Report
  ────────────────────────────────
  **DIAGNOSTICS, REPORTS AND EVENTS.**

  A diagnostic says what happened to one root, and names the overlay that
  caused it.  A report is the diagnostics of a batch in the order in which
  they arose.  A journal keeps a report and, beside it, the events that a
  listener hears: one for each diagnostic, and a few about the batch itself.

  Main definitions: `Diagnostic`, `Report`, `Event`, `Journal`.
-/
import ConfigGraph.Directive.Engine

namespace ConfigGraph

/-! ## §1. Diagnostics. -/

/-- What a diagnostic is about. -/
inductive DiagnosticKind where
  /-- The graph was changed. -/
  | edit
  /-- A request was refused or ignored. -/
  | attempt
  /-- Progress and skipped work. -/
  | notice
  deriving Repr, DecidableEq

/-- The verb of a line about a field. -/
def DiagnosticKind.verb : DiagnosticKind → String
  | .edit => "edits"
  | .attempt => "attempts to edit"
  | .notice => "skips"

/-- A note becomes a diagnostic of the same kind. -/
def NoteKind.diagnosticKind : NoteKind → DiagnosticKind
  | .edit => .edit
  | .attempt => .attempt

/-- The overlay that diagnostics are about. -/
structure OverlayContext where
  /-- The name of the overlay. -/
  overlay : String
  /-- Its place in the batch. -/
  index : Nat
  deriving Repr, DecidableEq

/-- One reported fact. -/
structure Diagnostic where
  /-- The overlay that caused it. -/
  context : OverlayContext
  /-- The name of the collection. -/
  collection : String
  /-- The key of the root. -/
  key : String
  /-- The path of the field, if the fact is about a field. -/
  path : Option String
  /-- What the fact is about. -/
  kind : DiagnosticKind
  /-- The fact. -/
  message : String
  deriving Repr, DecidableEq

/-- The line of a diagnostic. A line about a field names the root and the field. -/
def Diagnostic.line (d : Diagnostic) : String :=
  "Overlay " ++ Text.ofNat d.context.index ++ " (" ++ d.context.overlay ++ ") " ++
    match d.path with
    | some path =>
        d.kind.verb ++ " config " ++ d.key ++ " of type " ++ d.collection ++
          ", field " ++ path ++ " | " ++ d.message
    | none => d.message

/-- The diagnostics of one directive: its notes, then why it was skipped or failed. -/
def Outcome.diagnostics (outcome : Outcome) (context : OverlayContext)
    (collection key path : String) : List Diagnostic :=
  let diagnostic (kind : DiagnosticKind) (message : String) : Diagnostic :=
    ⟨context, collection, key, some path, kind, message⟩
  outcome.notes.map (fun note => diagnostic note.kind.diagnosticKind note.message) ++
    match outcome.result with
    | .ok .edited | .ok .unchanged => []
    | .ok .skipped => [diagnostic .notice "directive has an empty path or value"]
    | .error fault => [diagnostic .attempt fault.message]

/-! ## §2. Reports. -/

/-- The diagnostics of a batch, in order. -/
structure Report where
  /-- The diagnostics. -/
  diagnostics : List Diagnostic
  deriving Repr, DecidableEq

namespace Report

/-- The diagnostics of one kind. -/
def ofKind (report : Report) (kind : DiagnosticKind) : List Diagnostic :=
  report.diagnostics.filter fun d => d.kind = kind

/-- The diagnostics about changes. -/
def edits (report : Report) : List Diagnostic := report.ofKind .edit

/-- The diagnostics about refused and ignored requests. -/
def attempts (report : Report) : List Diagnostic := report.ofKind .attempt

/-- The diagnostics about progress and skipped work. -/
def notices (report : Report) : List Diagnostic := report.ofKind .notice

/-- No request was refused or ignored. -/
def isClean (report : Report) : Bool := report.attempts.isEmpty

end Report

/-! ## §3. Events. -/

/-- How much attention an event wants. -/
inductive Level where
  /-- Changes. -/
  | info
  /-- Refused and ignored requests. -/
  | warn
  /-- Progress. -/
  | debug
  deriving Repr, DecidableEq

/-- The level of an event about a diagnostic. -/
def DiagnosticKind.level : DiagnosticKind → Level
  | .edit => .info
  | .attempt => .warn
  | .notice => .debug

/-- What a listener hears. -/
structure Event where
  /-- The level. -/
  level : Level
  /-- The line. -/
  message : String
  /-- Names and texts of the event's fields. -/
  fields : List (String × String)
  deriving Repr, DecidableEq

/-- The event about a diagnostic. A diagnostic without a path has the empty text as path. -/
def Diagnostic.event (d : Diagnostic) : Event where
  level := d.kind.level
  message := d.line
  fields :=
    [("overlay", d.context.overlay), ("overlay_index", Text.ofNat d.context.index),
     ("collection", d.collection), ("key", d.key), ("path", d.path.getD "")]

/-- The event of a batch that a disabled engine does not run. -/
def Event.disabled : Event :=
  ⟨.debug, "edit engine disabled, skipping overlays", []⟩

/-- The event in front of the hooks of a collection. -/
def Event.hooks (collection : String) (size : Nat) : Event :=
  ⟨.debug, "running after-edit hooks",
    [("collection", collection), ("entries", Text.ofNat size)]⟩

/-- A report and the events that have been heard so far. -/
structure Journal where
  /-- The report. -/
  report : Report
  /-- The events. -/
  events : List Event
  deriving Repr, DecidableEq

namespace Journal

/-- The journal of a batch that has not begun. -/
def empty : Journal := ⟨⟨[]⟩, []⟩

/-- Record a diagnostic, which is an event as well. -/
def push (journal : Journal) (d : Diagnostic) : Journal :=
  ⟨⟨journal.report.diagnostics ++ [d]⟩, journal.events ++ [d.event]⟩

/-- Record diagnostics in order. -/
def pushAll (journal : Journal) (ds : List Diagnostic) : Journal :=
  ds.foldl push journal

/-- Let an event be heard that is not about a diagnostic. -/
def hear (journal : Journal) (event : Event) : Journal :=
  { journal with events := journal.events ++ [event] }

end Journal

end ConfigGraph
