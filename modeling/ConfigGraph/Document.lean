/-
  ConfigGraph.Document
  ────────────────────────────────
  **READING DOCUMENTS.**

  A document is read in two steps: its text into a tree, and the tree into
  what it describes.  The format decides how the text is read, and whether
  the surplus of a record that is written as an array is an error.

  Main definitions: `Format.parse?`, `read?`.
-/
import ConfigGraph.Document.Decode
import ConfigGraph.Document.Json
import ConfigGraph.Document.Toml

namespace ConfigGraph.Document

/-- The tree of a text in this format. -/
def Format.parse? : Format → String → Option Node
  | .toml => Toml.parse?
  | .json => Json.parse?

/-- Read a text in this format as whatever the decoder makes of its tree. -/
def read? {α : Type} (decode : Format → Node → Option α) (format : Format) (text : String) :
    Option α :=
  (format.parse? text).bind (decode format)

end ConfigGraph.Document
