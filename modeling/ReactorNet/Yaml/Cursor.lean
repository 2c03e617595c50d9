/-!
# `ReactorNet.Yaml.Cursor` · a place in a YAML text

The character classes of YAML, the causes for which a text is refused, and the cursor that walks
over a text: what is left of it, and the index, line and column reached. Line breaks are LF, CR, CR
LF and the three Unicode breaks; in the text of a scalar the first four are read as a line feed and
the two Unicode separators stand for themselves.
-/

namespace ReactorNet.Yaml

/-- Why a YAML text is refused. -/
inductive Fault where
  /-- A control character that may not occur in a text. -/
  | forbiddenCharacter
  /-- A character that starts no token. -/
  | unexpectedCharacter
  /-- A block entry where no entry may stand. -/
  | misplacedEntry
  /-- A mapping key or value where none may stand. -/
  | misplacedKey
  /-- A key that is not followed by its colon on the same line. -/
  | missingColon
  /-- A tab among indentation. -/
  | tabInIndentation
  /-- An anchor or alias without a name, or one that runs into other text. -/
  | malformedAnchor
  /-- An alias of an anchor that was not met before. -/
  | unknownAnchor
  /-- A tag that is not well formed, or whose handle was not declared. -/
  | malformedTag
  /-- A directive that is not well formed, unknown, or repeated. -/
  | malformedDirective
  /-- A quoted scalar that does not end. -/
  | unclosedQuote
  /-- An unknown or malformed escape in a quoted scalar. -/
  | malformedEscape
  /-- A header of a block scalar with anything but its indicators. -/
  | malformedBlockHeader
  /-- A colon directly before an indicator inside a flow collection. -/
  | misplacedColon
  /-- A node, or a part of a collection, that is missing. -/
  | incompleteNode
  /-- A text without a document. -/
  | noDocument
  /-- Anything behind the first document. -/
  | severalDocuments
deriving Repr, DecidableEq

/-! ## Character classes -/

/-- A line break character. -/
def isBreak (c : Char) : Bool :=
  c == '\n' || c == '\r' || c == '\u0085' || c == '\u2028' || c == '\u2029'

/-- A space or a tab. -/
def isSpace (c : Char) : Bool := c == ' ' || c == '\t'

/-- A letter, digit, underscore or hyphen, as anchors and tag handles are made of. -/
def isWordChar (c : Char) : Bool := c.isAlphanum || c == '_' || c == '-'

/-- The byte order mark. -/
def byteOrderMark : Char := '\ufeff'

/-- Whether a character may occur in a YAML text at all. -/
def isAllowed (c : Char) : Bool :=
  let n := c.toNat
  n == 9 || n == 10 || n == 13 || (0x20 ≤ n && n ≤ 0x7E) || n == 0x85 ||
    (0xA0 ≤ n && n ≤ 0xD7FF) || (0xE000 ≤ n && n ≤ 0xFFFD) || 0x10000 ≤ n

/-- Whether a text is at its end or before a line break. -/
def atBreakOrEnd : List Char → Bool
  | [] => true
  | c :: _ => isBreak c

/-- Whether a text is at its end or before white space or a line break. -/
def atGapOrEnd : List Char → Bool
  | [] => true
  | c :: _ => isBreak c || isSpace c

/-- Whether a text opens with a marker of a document, `---` or `...`, that stands alone. -/
def atDocumentMarker : List Char → Bool
  | '-' :: '-' :: '-' :: cs => atGapOrEnd cs
  | '.' :: '.' :: '.' :: cs => atGapOrEnd cs
  | _ => false

/-! ## The cursor -/

/-- What is left of a text, and the place reached in it. -/
structure Cursor where
  /-- The text that is still to be read. -/
  rest : List Char
  /-- The number of characters read. -/
  index : Nat := 0
  /-- The number of line breaks read. -/
  line : Nat := 0
  /-- The number of characters read since the last line break. -/
  column : Nat := 0

namespace Cursor

/-- Move over the next `n` characters, none of them a line break. -/
def skip (c : Cursor) (n : Nat) : Cursor :=
  { c with rest := c.rest.drop n, index := c.index + n, column := c.column + n }

/-- Move over the characters of a class without line breaks. -/
def skipWhile (c : Cursor) (p : Char → Bool) : Cursor := c.skip (c.rest.takeWhile p).length

/-- Move over one line break, and say how it is read inside a scalar. -/
def takeBreak (c : Cursor) : String × Cursor :=
  match c.rest with
  | '\r' :: '\n' :: r =>
    ("\n", { rest := r, index := c.index + 2, line := c.line + 1, column := 0 })
  | b :: r =>
    if isBreak b then
      (if b == '\u2028' || b == '\u2029' then String.singleton b else "\n",
        { rest := r, index := c.index + 1, line := c.line + 1, column := 0 })
    else ("", c)
  | [] => ("", c)

/-- Move over a comment up to the end of its line. -/
def skipComment (c : Cursor) : Cursor :=
  match c.rest with
  | '#' :: _ => c.skipWhile (fun d => !isBreak d)
  | _ => c

/-- Whether the cursor stands at a document marker at the start of a line. -/
def atMarker (c : Cursor) : Bool := c.column == 0 && atDocumentMarker c.rest

end Cursor

end ReactorNet.Yaml
