/-
  ConfigGraph.Document.Toml.Text
  ────────────────────────────────
  **TOML: TEXTS AND KEYS.**

  Four kinds of text: basic ones with escapes, literal ones without, and the
  long form of each, which may run over several lines.  The first line break
  of a long text is dropped, every other one counts as a single line feed,
  and a backslash at the end of a line swallows blanks and line breaks up to
  the next character.  Up to two quotes may stand directly in front of the
  three that close a long text.

  Every function here is given the characters behind the opening quote and
  returns what was read together with what is left.
-/
import ConfigGraph.Document.Node

namespace ConfigGraph.Document.Toml

/-! ## §1. Blanks. -/

/-- The blanks inside a line. -/
def isBlank (c : Char) : Bool := c = ' ' || c = '\t'

/-- The text behind leading blanks. -/
def skipBlanks (cs : List Char) : List Char := cs.dropWhile isBlank

/-- A character that may stand in texts and comments: a tab, or no control character. -/
def isPlain (c : Char) : Bool := c = '\t' || (0x20 ≤ c.toNat && c.toNat ≠ 0x7F)

/-- What is left behind a line break. -/
def lineBreak? : List Char → Option (List Char)
  | '\n' :: cs => some cs
  | '\r' :: '\n' :: cs => some cs
  | _ => none

/-- The text behind a line break, if it begins with one. -/
def dropLineBreak (cs : List Char) : List Char := (lineBreak? cs).getD cs

/-- Nothing but blanks up to the end of the line. -/
def endsLine (cs : List Char) : Bool := (lineBreak? (skipBlanks cs)).isSome

/-! ## §2. Escapes. -/

/-- The character of a one-letter escape. -/
def escape? : Char → Option Char
  | '"' => some '"'
  | '\\' => some '\\'
  | 'b' => some '\x08'
  | 'f' => some '\x0c'
  | 'n' => some '\n'
  | 'r' => some '\r'
  | 't' => some '\t'
  | _ => none

/-- The character at a code point that is no surrogate. -/
def codePoint? (n : Nat) : Option Char :=
  if n.isValidChar then some (Char.ofNat n) else none

/-- The character that hexadecimal digits write. -/
def hexChar? (digits : List Char) : Option Char :=
  (hexDigits? digits).bind codePoint?

/-- Put a character in front of what was read, if there is one and the reading went well. -/
def cons? (c : Option Char) (read : Option (List Char × List Char)) :
    Option (List Char × List Char) :=
  c.bind fun c => read.map fun (cs, rest) => (c :: cs, rest)

/-! ## §3. Short texts. -/

/-- A basic text. -/
def basic : List Char → Option (List Char × List Char)
  | [] => none
  | '"' :: cs => some ([], cs)
  | '\\' :: 'u' :: a :: b :: c :: d :: cs => cons? (hexChar? [a, b, c, d]) (basic cs)
  | '\\' :: 'U' :: a :: b :: c :: d :: e :: f :: g :: h :: cs =>
      cons? (hexChar? [a, b, c, d, e, f, g, h]) (basic cs)
  | '\\' :: c :: cs => cons? (escape? c) (basic cs)
  | c :: cs => if isPlain c then cons? (some c) (basic cs) else none

/-- A literal text. -/
def literal : List Char → Option (List Char × List Char)
  | [] => none
  | '\'' :: cs => some ([], cs)
  | c :: cs => if isPlain c then cons? (some c) (literal cs) else none

/-! ## §4. Long texts. -/

/-- The inside of a long basic text. While `swallow` holds, blanks and line breaks are
dropped. -/
def longBasic (swallow : Bool) : List Char → Option (List Char × List Char)
  | [] => none
  | '"' :: '"' :: '"' :: '"' :: '"' :: cs => some (['"', '"'], cs)
  | '"' :: '"' :: '"' :: '"' :: cs => some (['"'], cs)
  | '"' :: '"' :: '"' :: cs => some ([], cs)
  | '\r' :: '\n' :: cs =>
      if swallow then longBasic true cs else cons? (some '\n') (longBasic false cs)
  | '\\' :: 'u' :: a :: b :: c :: d :: cs => cons? (hexChar? [a, b, c, d]) (longBasic false cs)
  | '\\' :: 'U' :: a :: b :: c :: d :: e :: f :: g :: h :: cs =>
      cons? (hexChar? [a, b, c, d, e, f, g, h]) (longBasic false cs)
  | '\\' :: c :: cs =>
      if endsLine (c :: cs) then longBasic true (c :: cs)
      else cons? (escape? c) (longBasic false cs)
  | c :: cs =>
      if swallow ∧ (isBlank c ∨ c = '\n') then longBasic true cs
      else if isPlain c ∨ c = '\n' then cons? (some c) (longBasic false cs)
      else none

/-- The inside of a long literal text. -/
def longLiteral : List Char → Option (List Char × List Char)
  | [] => none
  | '\'' :: '\'' :: '\'' :: '\'' :: '\'' :: cs => some (['\'', '\''], cs)
  | '\'' :: '\'' :: '\'' :: '\'' :: cs => some (['\''], cs)
  | '\'' :: '\'' :: '\'' :: cs => some ([], cs)
  | '\r' :: '\n' :: cs => cons? (some '\n') (longLiteral cs)
  | c :: cs => if isPlain c ∨ c = '\n' then cons? (some c) (longLiteral cs) else none

/-- A text of any kind, its opening quotes included. -/
def text? : List Char → Option (List Char × List Char)
  | '"' :: '"' :: '"' :: cs => longBasic false (dropLineBreak cs)
  | '\'' :: '\'' :: '\'' :: cs => longLiteral (dropLineBreak cs)
  | '"' :: cs => basic cs
  | '\'' :: cs => literal cs
  | _ => none

/-! ## §5. Keys. -/

/-- A character of a key without quotes. -/
def isBare (c : Char) : Bool := c.isAlphanum || c = '_' || c = '-'

/-- One segment of a key: a short text or bare characters. -/
def keySegment : List Char → Option (String × List Char)
  | '"' :: cs => (basic cs).map fun (name, rest) => (String.ofList name, rest)
  | '\'' :: cs => (literal cs).map fun (name, rest) => (String.ofList name, rest)
  | cs =>
      let name := cs.takeWhile isBare
      if name.isEmpty then none else some (String.ofList name, cs.dropWhile isBare)

/-- A key of at most `count` segments with points between them, and what is left behind it
and the blanks that follow. -/
def keyPath : Nat → List Char → Option (List String × List Char)
  | 0, _ => none
  | count + 1, cs =>
      (keySegment (skipBlanks cs)).bind fun (name, rest) =>
        match skipBlanks rest with
        | '.' :: rest => (keyPath count rest).map fun (names, rest) => (name :: names, rest)
        | rest => some ([name], rest)

end ConfigGraph.Document.Toml
