/-
  ConfigGraph.Document.Toml
  ────────────────────────────────
  **READING TOML.**

  Version 1.0 of the format.  A document is a list of lines, each of which is
  empty, a header, or a key with a value; values may run over several lines.
  The lines are read first and put together into tables second, so a document
  is refused for its grammar or for what its lines add up to.

  Values nest at most 79 deep and keys have at most 79 segments.
-/
import ConfigGraph.Document.Toml.Scalar
import ConfigGraph.Document.Toml.Table

namespace ConfigGraph.Document.Toml

/-- How deep values nest, and how many segments a key has. -/
def depthLimit : Nat := 79

/-! ## §1. Between values. -/

/-- What is left behind blanks, line breaks and comments. -/
def skipFiller (comment : Bool) : List Char → Option (List Char)
  | [] => some []
  | '\r' :: '\n' :: cs => skipFiller false cs
  | c :: cs =>
      if c = '\n' then skipFiller false cs
      else if comment then if isPlain c then skipFiller true cs else none
      else if isBlank c then skipFiller false cs
      else if c = '#' then skipFiller true cs
      else some (c :: cs)

/-- What is left behind the rest of a line, which may hold a comment and nothing else. -/
def endLine (cs : List Char) : Option (List Char) :=
  let rest := match skipBlanks cs with
    | '#' :: cs => cs.dropWhile isPlain
    | cs => cs
  if rest.isEmpty then some [] else lineBreak? rest

/-! ## §2. Values. -/

/-- The items of an array up to its end; a comma may stand behind the last. -/
def arrayItems (read : List Char → Option (Node × List Char)) :
    Nat → List Char → Option (List Node × List Char)
  | 0, _ => none
  | count + 1, cs =>
      (skipFiller false cs).bind fun cs =>
        match cs with
        | ']' :: rest => some ([], rest)
        | cs =>
            (read cs).bind fun (node, rest) =>
              (skipFiller false rest).bind fun rest =>
                match rest with
                | ',' :: rest =>
                    (arrayItems read count rest).map fun (nodes, rest) => (node :: nodes, rest)
                | ']' :: rest => some ([node], rest)
                | _ => none

/-- A key, an equals sign and a value. -/
def keyValue (read : List Char → Option (Node × List Char)) (cs : List Char) :
    Option ((List String × Node) × List Char) :=
  (keyPath depthLimit cs).bind fun (key, rest) =>
    match rest with
    | '=' :: rest => (read (skipBlanks rest)).map fun (node, rest) => ((key, node), rest)
    | _ => none

/-- The pairs of a table written as a value, up to its end, all in one line. -/
def inlinePairs (read : List Char → Option (Node × List Char)) :
    Nat → List Char → Option (List (List String × Node) × List Char)
  | 0, _ => none
  | count + 1, cs =>
      (keyValue read cs).bind fun (pair, rest) =>
        match skipBlanks rest with
        | ',' :: rest =>
            (inlinePairs read count rest).map fun (pairs, rest) => (pair :: pairs, rest)
        | '\x7d' :: rest => some ([pair], rest)
        | _ => none

/-- A table written as a value, behind its opening brace. -/
def inline (read : List Char → Option (Node × List Char)) (cs : List Char) :
    Option (Node × List Char) :=
  match skipBlanks cs with
  | '\x7d' :: rest => some (.table [], rest)
  | cs =>
      (inlinePairs read cs.length cs).bind fun (pairs, rest) =>
        (inlineTable? pairs).map fun node => (node, rest)

/-- A value whose arrays and tables nest at most `depth` deep, and what is left. -/
def value (depth : Nat) (cs : List Char) : Option (Node × List Char) :=
  match depth, cs with
  | 0, '[' :: _ => none
  | 0, '\x7b' :: _ => none
  | depth + 1, '[' :: cs =>
      (arrayItems (fun cs => value depth cs) (cs.length + 1) cs).map fun (nodes, rest) =>
        (.array nodes, rest)
  | depth + 1, '\x7b' :: cs => inline (fun cs => value depth cs) cs
  | _, cs =>
      match text? cs with
      | some (s, rest) => some (.text (some (String.ofList s)), rest)
      | none => scalar? cs

/-! ## §3. Lines. -/

/-- A line that is not empty. -/
inductive Line where
  /-- The header of a table. -/
  | table (path : List String)
  /-- The header of an element of an array. -/
  | element (path : List String)
  /-- A key and its value. -/
  | pair (key : List String) (node : Node)
  deriving Repr

/-- The line in front of a text, its line break included. -/
def line (cs : List Char) : Option (Line × List Char) :=
  match cs with
  | '[' :: '[' :: cs =>
      (keyPath depthLimit cs).bind fun (path, rest) =>
        match rest with
        | ']' :: ']' :: rest => (endLine rest).map fun rest => (.element path, rest)
        | _ => none
  | '[' :: cs =>
      (keyPath depthLimit cs).bind fun (path, rest) =>
        match rest with
        | ']' :: rest => (endLine rest).map fun rest => (.table path, rest)
        | _ => none
  | cs =>
      (keyValue (value depthLimit) cs).bind fun ((key, node), rest) =>
        (endLine rest).map fun rest => (.pair key node, rest)

/-- The lines of a text. -/
def lines : Nat → List Char → Option (List Line)
  | 0, cs => if cs.isEmpty then some [] else none
  | count + 1, cs =>
      match skipBlanks cs with
      | [] => some []
      | cs =>
          match endLine cs with
          | some rest => lines count rest
          | none =>
              (line cs).bind fun (line, rest) =>
                (lines count rest).map fun lines => line :: lines

/-! ## §4. Documents. -/

/-- A document under construction: its tables, and the path of the last header. -/
structure Draft where
  /-- The members of the document. -/
  members : Members
  /-- The table that keys go into. -/
  current : List String

/-- The document with one more line. -/
def Draft.add (draft : Draft) : Line → Option Draft
  | .table path =>
      (draft.members.inHeader Members.openTable path).map fun members => ⟨members, path⟩
  | .element path =>
      (draft.members.inHeader Members.openElement path).map fun members => ⟨members, path⟩
  | .pair key node =>
      (draft.members.within (Members.put node true key) draft.current).map fun members =>
        ⟨members, draft.current⟩

/-- The text without a byte order mark in front. -/
def dropMark : List Char → List Char
  | '\ufeff' :: cs => cs
  | cs => cs

/-- Read a document. -/
def parse? (document : String) : Option Node :=
  let cs := dropMark document.toList
  (lines cs.length cs).bind fun lines =>
    (lines.foldlM Draft.add ⟨[], []⟩).map fun draft => .table (nodes draft.members)

end ConfigGraph.Document.Toml
