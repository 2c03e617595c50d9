import ReactorNet.Yaml.ScalarText

/-!
# `ReactorNet.Yaml.Token` · the tokens of a YAML text

The tokens a YAML text consists of, and the reader that finds them. Block structure is carried by
indentation alone, so the reader keeps the stack of open indentations and emits a token for every
block that opens or closes.

**Keys are recognised late.** A mapping key is an ordinary node followed by a colon on the same
line and within 1024 characters. At every place where a key may start, the reader notes a
*candidate*; when the colon comes, the key token, and the token that opens the mapping if it is
new, are put in front of what has been read since. One candidate is kept for each flow level.
-/

namespace ReactorNet.Yaml

/-- How a scalar is spelled. -/
inductive ScalarStyle where
  /-- Without any quotes. -/
  | plain
  /-- Between single quotes. -/
  | singleQuoted
  /-- Between double quotes. -/
  | doubleQuoted
  /-- As a literal block. -/
  | literal
  /-- As a folded block. -/
  | folded
deriving Repr, DecidableEq

/-- A token of a YAML text. -/
inductive Token where
  /-- A version directive. -/
  | version (major minor : Nat)
  /-- A tag directive. -/
  | handle (name expansion : String)
  /-- The marker `---`. -/
  | documentStart
  /-- The marker `...`. -/
  | documentEnd
  /-- The first entry of a block sequence follows. -/
  | blockSequence
  /-- The first key of a block mapping follows. -/
  | blockMapping
  /-- A block collection ends. -/
  | blockEnd
  /-- An opening bracket. -/
  | flowSequence
  /-- A closing bracket. -/
  | flowSequenceEnd
  /-- An opening brace. -/
  | flowMapping
  /-- A closing brace. -/
  | flowMappingEnd
  /-- A hyphen before an entry. -/
  | entry
  /-- A comma between entries. -/
  | comma
  /-- A mapping key follows. -/
  | key
  /-- A mapping value follows. -/
  | value
  /-- A reference to an anchor. -/
  | alias (name : String)
  /-- An anchor of the node that follows. -/
  | anchor (name : String)
  /-- A tag of the node that follows. -/
  | tag (handle suffix : String)
  /-- A scalar. -/
  | scalar (style : ScalarStyle) (text : String)
deriving Repr, DecidableEq

/-- A place at which a mapping key may have started. -/
structure KeyCandidate where
  /-- Whether nothing but a key may stand there. -/
  required : Bool
  /-- The number of tokens before it. -/
  tokens : Nat
  /-- Its index in the text. -/
  index : Nat
  /-- Its line. -/
  line : Nat
  /-- Its column. -/
  column : Nat

/-- The state of the token reader. -/
structure Lexer where
  /-- The place in the text. -/
  cursor : Cursor
  /-- The indentation of the innermost open block, −1 outside of all. -/
  indent : Int := -1
  /-- The indentations of the blocks around it. -/
  outer : List Int := []
  /-- The candidate on the current flow level. -/
  candidate : Option KeyCandidate := none
  /-- The candidates on the enclosing flow levels. -/
  enclosing : List (Option KeyCandidate) := []
  /-- Whether a key may start at the next token. -/
  keyAllowed : Bool := true
  /-- The tokens read so far. -/
  tokens : Array Token := #[]

namespace Lexer

/-- Whether the reader is inside a flow collection. -/
def inFlow (s : Lexer) : Bool := !s.enclosing.isEmpty

/-- Add a token at the end. -/
def emit (s : Lexer) (t : Token) : Lexer := { s with tokens := s.tokens.push t }

/-- Put a token behind the first `n` tokens. -/
def insert (s : Lexer) (n : Nat) (t : Token) : Lexer :=
  { s with tokens := (s.tokens.extract 0 n).push t ++ s.tokens.extract n s.tokens.size }

/-! ## Key candidates -/

/-- Give up the candidate of the current level; a required one may not be given up. -/
def dropCandidate (s : Lexer) : Except Fault Lexer :=
  match s.candidate with
  | some k => if k.required then .error .missingColon else .ok { s with candidate := none }
  | none => .ok s

/-- Note the current place as a candidate if a key may start here. -/
def noteCandidate (s : Lexer) : Except Fault Lexer :=
  if s.keyAllowed then do
    let required := !s.inFlow && s.indent == (s.cursor.column : Int)
    let s ← s.dropCandidate
    .ok { s with
      candidate := some
        ⟨required, s.tokens.size, s.cursor.index, s.cursor.line, s.cursor.column⟩ }
  else .ok s

/-- Whether a candidate can no longer become a key: its line has ended, or it is too far back. -/
def isStale (s : Lexer) (k : KeyCandidate) : Bool :=
  k.line < s.cursor.line || k.index + 1024 < s.cursor.index

/-- Forget a stale candidate. -/
def refresh (s : Lexer) : Option KeyCandidate → Except Fault (Option KeyCandidate)
  | some k =>
    if s.isStale k then (if k.required then .error .missingColon else .ok none) else .ok (some k)
  | none => .ok none

/-- Forget the stale candidates of all levels. -/
def dropStale (s : Lexer) : Except Fault Lexer := do
  let enclosing ← s.enclosing.mapM s.refresh
  let candidate ← s.refresh s.candidate
  .ok { s with enclosing, candidate }

/-! ## Indentation -/

/-- Open a block in the given column, unless one is open there; `at?` is the number of tokens to put
the opening token behind, the end if absent. -/
def openBlock (s : Lexer) (column : Nat) (at? : Option Nat) (t : Token) : Lexer :=
  if s.inFlow || (column : Int) ≤ s.indent then s
  else
    let s := { s with outer := s.indent :: s.outer, indent := column }
    match at? with
    | some n => s.insert n t
    | none => s.emit t

/-- Close the blocks that are indented further than `column`, given the enclosing indentations. -/
def closeFrom (column : Int) : List Int → Lexer → Lexer
  | [], s => s
  | o :: os, s =>
    if column < s.indent then closeFrom column os ({ s with indent := o, outer := os }.emit .blockEnd)
    else s

/-- Close the blocks that are indented further than `column`. -/
def closeBlocks (s : Lexer) (column : Int) : Lexer :=
  if s.inFlow then s else closeFrom column s.outer s

/-! ## White space between tokens -/

/-- Move to the next token: over white space, comments and line breaks. Tabs count as white space
only where no key may start. A line break outside flow collections lets a key start. -/
def toNextToken : Nat → Lexer → Lexer
  | 0, s => s
  | fuel + 1, s =>
    let c := s.cursor
    let c := if c.column == 0 && c.rest.head? == some byteOrderMark then c.skip 1 else c
    let tabs := s.inFlow || !s.keyAllowed
    let c := (c.skipWhile fun d => d == ' ' || (tabs && d == '\t')).skipComment
    if c.rest.head?.any isBreak then
      toNextToken fuel
        { s with cursor := c.takeBreak.2, keyAllowed := s.keyAllowed || !s.inFlow }
    else { s with cursor := c }

/-! ## Directives, anchors and tags -/

/-- Read a version number of up to nine digits. -/
def versionNumber (c : Cursor) : Except Fault (Nat × Cursor) :=
  let digits := c.rest.takeWhile isDigit
  match Text.numeral? 10 digits with
  | some n => if digits.length ≤ 9 then .ok (n, c.skip digits.length) else .error .malformedDirective
  | none => .error .malformedDirective
where
  /-- A decimal digit. -/
  isDigit (d : Char) : Bool := Text.isDigit d

/-- Read a tag handle: an exclamation mark, then letters and a closing mark if there is one. In a
directive, only the handle `!` may do without the closing mark. -/
def tagHandle (directive : Bool) (c : Cursor) : Except Fault (String × Cursor) :=
  match c.rest with
  | '!' :: r =>
    let word := r.takeWhile isWordChar
    let name := "!" ++ String.ofList word
    let c := c.skip (1 + word.length)
    match c.rest with
    | '!' :: _ => .ok (name.push '!', c.skip 1)
    | _ => if directive && name != "!" then .error .malformedDirective else .ok (name, c)
  | _ => .error .malformedTag

/-- A character of a tag; commas and brackets only between angle brackets or in directives. -/
def isTagChar (wide : Bool) (c : Char) : Bool :=
  isWordChar c || ";/?:@&=+$.%!~*'()".toList.contains c || (wide && (c == ',' || c == '[' || c == ']'))

/-- The bytes of a run of escapes `%xx`, and what follows them. -/
def escapedBytes : List Char → Option (List UInt8 × List Char)
  | '%' :: a :: b :: cs =>
    match Text.numeral? 16 [a, b] with
    | some n => (escapedBytes cs).map fun (bytes, rest) => (n.toUInt8 :: bytes, rest)
    | none => none
  | '%' :: _ => none
  | cs => some ([], cs)

/-- The text of a tag with its escapes resolved; escapes must spell characters. -/
def unescapeTag : Nat → List Char → Option String
  | 0, _ => some ""
  | _ + 1, [] => some ""
  | fuel + 1, c :: cs =>
    if c == '%' then
      match escapedBytes (c :: cs) with
      | some (bytes, rest) =>
        match String.fromUTF8? ⟨bytes.toArray⟩ with
        | some text => (unescapeTag fuel rest).map (text ++ ·)
        | none => none
      | none => none
    else (unescapeTag fuel cs).map (String.singleton c ++ ·)

/-- Read the characters of a tag behind `start`, the part of it that is read already. -/
def tagText (wide : Bool) (start : String) (c : Cursor) : Except Fault (String × Cursor) :=
  let run := c.rest.takeWhile (isTagChar wide)
  if run.isEmpty && start.isEmpty then .error .malformedTag
  else
    match unescapeTag (run.length + 1) run with
    | some text => .ok (String.ofList (start.toList.drop 1) ++ text, c.skip run.length)
    | none => .error .malformedTag

/-- Read a tag: between angle brackets, with a handle, or with the handle `!`. The tag `!` alone has
an empty handle. -/
def readTag (inFlow : Bool) (c : Cursor) : Except Fault (Token × Cursor) := do
  let (token, c) ← match c.rest with
    | '!' :: '<' :: _ => do
      let (suffix, c) ← tagText true "" (c.skip 2)
      if c.rest.head? == some '>' then .ok (Token.tag "" suffix, c.skip 1) else .error .malformedTag
    | _ => do
      let (handle, c) ← tagHandle false c
      if handle.length ≥ 2 && handle.toList.getLast? == some '!' then
        let (suffix, c) ← tagText false "" c
        .ok (Token.tag handle suffix, c)
      else
        let (suffix, c) ← tagText false handle c
        .ok (if suffix.isEmpty then Token.tag "" "!" else Token.tag "!" suffix, c)
  if atGapOrEnd c.rest || (inFlow && c.rest.head? == some ',') then .ok (token, c)
  else .error .malformedTag

/-- Read the name of an anchor or alias behind its indicator. -/
def anchorName (c : Cursor) : Except Fault (String × Cursor) :=
  let name := c.rest.tail.takeWhile isWordChar
  let c := c.skip (1 + name.length)
  let ended := atGapOrEnd c.rest || c.rest.head?.any fun d => "?:,]\x7d%@`".toList.contains d
  if name.isEmpty || !ended then .error .malformedAnchor else .ok (String.ofList name, c)

/-- Read a directive up to the end of its line. -/
def readDirective (c : Cursor) : Except Fault (Token × Cursor) := do
  let name := c.rest.tail.takeWhile isWordChar
  let c := c.skip (1 + name.length)
  if name.isEmpty || !atGapOrEnd c.rest then .error .malformedDirective
  else
    let c := c.skipWhile isSpace
    let (token, c) ←
      if name == "YAML".toList then do
        let (major, c) ← versionNumber c
        if c.rest.head? == some '.' then
          let (minor, c) ← versionNumber (c.skip 1)
          .ok (Token.version major minor, c)
        else .error .malformedDirective
      else if name == "TAG".toList then do
        let (handle, c) ← tagHandle true c
        if c.rest.head?.any isSpace then
          let (expansion, c) ← tagText true "" (c.skipWhile isSpace)
          if atGapOrEnd c.rest then .ok (Token.handle handle expansion, c)
          else .error .malformedDirective
        else .error .malformedDirective
      else .error .malformedDirective
    let c := (c.skipWhile isSpace).skipComment
    if atBreakOrEnd c.rest then .ok (token, c.takeBreak.2) else .error .malformedDirective

/-! ## The tokens -/

/-- Read a marker or directive, which closes every block. -/
def closeDocument (s : Lexer) : Except Fault Lexer := do
  let s ← (s.closeBlocks (-1)).dropCandidate
  .ok { s with keyAllowed := false }

/-- Read an opening bracket or brace. -/
def openFlow (s : Lexer) (t : Token) : Except Fault Lexer := do
  let s ← s.noteCandidate
  .ok ({ s with
    enclosing := s.candidate :: s.enclosing, candidate := none, keyAllowed := true,
    cursor := s.cursor.skip 1 }.emit t)

/-- Read a closing bracket or brace. -/
def closeFlow (s : Lexer) (t : Token) : Except Fault Lexer := do
  let s ← s.dropCandidate
  let s := match s.enclosing with
    | k :: ks => { s with candidate := k, enclosing := ks }
    | [] => s
  .ok ({ s with keyAllowed := false, cursor := s.cursor.skip 1 }.emit t)

/-- Read a comma. -/
def readComma (s : Lexer) : Except Fault Lexer := do
  let s ← s.dropCandidate
  .ok ({ s with keyAllowed := true, cursor := s.cursor.skip 1 }.emit .comma)

/-- Read the hyphen of a block entry. -/
def readEntry (s : Lexer) : Except Fault Lexer := do
  if !s.inFlow && !s.keyAllowed then .error .misplacedEntry
  else
    let s ← (s.openBlock s.cursor.column none .blockSequence).dropCandidate
    .ok ({ s with keyAllowed := true, cursor := s.cursor.skip 1 }.emit .entry)

/-- Read the question mark of an explicit key. -/
def readKey (s : Lexer) : Except Fault Lexer := do
  if !s.inFlow && !s.keyAllowed then .error .misplacedKey
  else
    let s ← (s.openBlock s.cursor.column none .blockMapping).dropCandidate
    .ok ({ s with keyAllowed := !s.inFlow, cursor := s.cursor.skip 1 }.emit .key)

/-- Read the colon of a value. The candidate of the level becomes a key if there is one. -/
def readValue (s : Lexer) : Except Fault Lexer :=
  match s.candidate with
  | some k =>
    let s := (s.insert k.tokens .key).openBlock k.column (some k.tokens) .blockMapping
    .ok ({ s with candidate := none, keyAllowed := false, cursor := s.cursor.skip 1 }.emit .value)
  | none =>
    if !s.inFlow && !s.keyAllowed then .error .misplacedKey
    else
      let s := s.openBlock s.cursor.column none .blockMapping
      .ok ({ s with keyAllowed := !s.inFlow, cursor := s.cursor.skip 1 }.emit .value)

/-- Read a quoted scalar. -/
def readQuoted (s : Lexer) (quote : Char) (style : ScalarStyle) : Except Fault Lexer := do
  let s ← s.noteCandidate
  let (text, cursor) ← quotedScalar quote s.cursor
  .ok ({ s with keyAllowed := false, cursor }.emit (.scalar style text))

/-- Read a block scalar. -/
def readBlock (s : Lexer) (style : ScalarStyle) : Except Fault Lexer := do
  let s ← s.dropCandidate
  let (text, cursor) ← blockScalar (style == .literal) s.indent s.cursor
  .ok ({ s with keyAllowed := true, cursor }.emit (.scalar style text))

/-- Read a plain scalar. -/
def readPlain (s : Lexer) : Except Fault Lexer := do
  let s ← s.noteCandidate
  let (text, broken, cursor) ← plainScalar s.inFlow (s.indent + 1).toNat s.cursor
  .ok ({ s with keyAllowed := broken, cursor }.emit (.scalar .plain text))

/-- Whether a plain scalar may start with `c` before `cs`. -/
def startsPlain (inFlow : Bool) (c : Char) (cs : List Char) : Bool :=
  if c == '-' then !(cs.head?.any isSpace)
  else if c == '?' || c == ':' then !inFlow && !atGapOrEnd cs
  else !(isSpace c || isBreak c || ",[]\x7b\x7d#&*!|>'\"%@`".toList.contains c)

/-- Read the token at the cursor, which stands at neither white space nor the end of the text. -/
def readToken (s : Lexer) : Except Fault Lexer :=
  match s.cursor.rest with
  | [] => .ok s
  | c :: cs =>
    if s.cursor.column == 0 && c == '%' then do
      let s ← s.closeDocument
      let (token, cursor) ← readDirective s.cursor
      .ok ({ s with cursor }.emit token)
    else if s.cursor.atMarker then do
      let s ← s.closeDocument
      .ok ({ s with cursor := s.cursor.skip 3 }.emit
        (if c == '-' then .documentStart else .documentEnd))
    else if c == '[' then s.openFlow .flowSequence
    else if c == '\x7b' then s.openFlow .flowMapping
    else if c == ']' then s.closeFlow .flowSequenceEnd
    else if c == '\x7d' then s.closeFlow .flowMappingEnd
    else if c == ',' then s.readComma
    else if c == '-' && atGapOrEnd cs then s.readEntry
    else if c == '?' && (s.inFlow || atGapOrEnd cs) then s.readKey
    else if c == ':' && (s.inFlow || atGapOrEnd cs) then s.readValue
    else if c == '*' then do
      let s ← s.noteCandidate
      let (name, cursor) ← anchorName s.cursor
      .ok ({ s with keyAllowed := false, cursor }.emit (.alias name))
    else if c == '&' then do
      let s ← s.noteCandidate
      let (name, cursor) ← anchorName s.cursor
      .ok ({ s with keyAllowed := false, cursor }.emit (.anchor name))
    else if c == '!' then do
      let s ← s.noteCandidate
      let (token, cursor) ← readTag s.inFlow s.cursor
      .ok ({ s with keyAllowed := false, cursor }.emit token)
    else if c == '|' && !s.inFlow then s.readBlock .literal
    else if c == '>' && !s.inFlow then s.readBlock .folded
    else if c == '\'' then s.readQuoted '\'' .singleQuoted
    else if c == '"' then s.readQuoted '"' .doubleQuoted
    else if startsPlain s.inFlow c cs then s.readPlain
    else .error .unexpectedCharacter

/-- Read tokens up to the end of the text; every token takes up a character at least. -/
def run : Nat → Lexer → Except Fault Lexer
  | 0, s => .ok s
  | fuel + 1, s => do
    let s ← (s.toNextToken (s.cursor.rest.length + 1)).dropStale
    let s := s.closeBlocks s.cursor.column
    if s.cursor.rest.isEmpty then (s.closeBlocks (-1)).dropCandidate
    else do
      let s ← s.readToken
      run fuel s

end Lexer

/-- The tokens of a whole text. A byte order mark at its start is no part of it. -/
def Token.ofText? (text : String) : Except Fault (List Token) := do
  let cs := match text.toList with
    | c :: r => if c == byteOrderMark then r else c :: r
    | [] => []
  if cs.all isAllowed then
    let s ← Lexer.run (cs.length + 1) { cursor := { rest := cs } }
    .ok s.tokens.toList
  else .error .forbiddenCharacter

end ReactorNet.Yaml
