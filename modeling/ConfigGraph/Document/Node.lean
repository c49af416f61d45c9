/-
  ConfigGraph.Document.Node
  ────────────────────────────────
  **DOCUMENTS AS TREES.**

  Configurations and overlays are written in TOML or JSON.  Both formats are
  read into the same tree, and the tree is decoded by the same rules.  The
  tree keeps what decoding can ask for: no setting is a number, a date or a
  time, so of those it keeps only that they were there.

  A JSON text may write half of a surrogate pair by an escape.  Such a text
  is well formed and has no characters; it is kept as `none`, so that it may
  stand where nobody looks and is refused where somebody does.
-/

namespace ConfigGraph.Document

/-- A part of a document. -/
inductive Node where
  /-- A text, unless it holds half of a surrogate pair. -/
  | text (s : Option String)
  /-- A truth value. -/
  | bool (b : Bool)
  /-- A number of any kind. -/
  | number
  /-- A date, a time or both. -/
  | moment
  /-- The null of JSON. -/
  | null
  /-- An array. -/
  | array (items : List Node)
  /-- An object or table: its members as written, repeated keys included. -/
  | table (members : List (Option String × Node))
  deriving Repr, Inhabited

/-- The two formats of documents. -/
inductive Format where
  /-- TOML, version 1.0. -/
  | toml
  /-- JSON. -/
  | json
  deriving Repr, DecidableEq

/-- The value of hexadecimal digits of either case. -/
def hexDigits? (cs : List Char) : Option Nat :=
  cs.foldlM (fun n c => (digit? c).map fun d => 16 * n + d) 0
where
  /-- The value of one digit. -/
  digit? (c : Char) : Option Nat :=
    if c.isDigit then some (c.toNat - '0'.toNat)
    else if 'a' ≤ c ∧ c ≤ 'f' then some (c.toNat - 'a'.toNat + 10)
    else if 'A' ≤ c ∧ c ≤ 'F' then some (c.toNat - 'A'.toNat + 10)
    else none

end ConfigGraph.Document
