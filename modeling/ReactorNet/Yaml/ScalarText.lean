import ReactorNet.Yaml.Cursor
import ReactorNet.Text.Numeral

/-!
# `ReactorNet.Yaml.ScalarText` · the text of a scalar

The readers of the five spellings of a scalar: single and double quoted, plain, and the literal and
folded blocks. Each takes a cursor at the scalar and returns the text it stands for and the cursor
behind it. Between the words of a flow scalar white space is a *gap*: within a line it is kept, and
over line breaks it is folded, one break to a space and further ones to themselves.
-/

namespace ReactorNet.Yaml

open ReactorNet.Text

/-! ## Gaps -/

/-- White space and line breaks between two parts of a flow scalar. -/
structure Gap where
  /-- The white space before the first line break. -/
  spaces : String := ""
  /-- The first line break, as it is read. -/
  firstBreak : String := ""
  /-- The further line breaks, as they are read. -/
  moreBreaks : String := ""
  /-- Whether a line has ended in the gap, by a break or by an escaped one. -/
  broken : Bool := false

/-- What a gap stands for in the text of the scalar. -/
def Gap.fold (g : Gap) : String :=
  if g.broken then
    if g.firstBreak == "\n" then (if g.moreBreaks.isEmpty then " " else g.moreBreaks)
    else g.firstBreak ++ g.moreBreaks
  else g.spaces

/-- Read a gap. A tab left of column `indent` on a continuation line is refused. -/
def takeGap (indent : Nat) : Nat → Gap → Cursor → Except Fault (Gap × Cursor)
  | 0, g, c => .ok (g, c)
  | fuel + 1, g, c =>
    match c.rest with
    | [] => .ok (g, c)
    | d :: _ =>
      if isSpace d then
        if g.broken then
          if d == '\t' && c.column < indent then .error .tabInIndentation
          else takeGap indent fuel g (c.skip 1)
        else takeGap indent fuel { g with spaces := g.spaces.push d } (c.skip 1)
      else if isBreak d then
        let (text, c) := c.takeBreak
        if g.broken then takeGap indent fuel { g with moreBreaks := g.moreBreaks ++ text } c
        else takeGap indent fuel { g with spaces := "", firstBreak := text, broken := true } c
      else .ok (g, c)

/-! ## Quoted scalars -/

/-- A part of a quoted scalar without white space. -/
structure QuotedRun where
  /-- What the part stands for. -/
  text : String
  /-- The number of characters it takes up. -/
  length : Nat
  /-- Whether it ended at a backslash before a line break. -/
  escapedBreak : Bool := false

/-- Read on in a single quoted scalar up to white space or the closing quote. -/
def singleRun : QuotedRun → List Char → QuotedRun
  | run, [] => run
  | run, '\'' :: '\'' :: cs =>
    singleRun { run with text := run.text.push '\'', length := run.length + 2 } cs
  | run, c :: cs =>
    if c == '\'' || isSpace c || isBreak c then run
    else singleRun { run with text := run.text.push c, length := run.length + 1 } cs

/-- The character an escape of a single letter stands for. -/
def simpleEscape? (c : Char) : Option Char :=
  match c with
  | '0' => some '\x00'
  | 'a' => some '\x07'
  | 'b' => some '\x08'
  | 't' | '\t' => some '\t'
  | 'n' => some '\n'
  | 'v' => some '\x0b'
  | 'f' => some '\x0c'
  | 'r' => some '\r'
  | 'e' => some '\x1b'
  | ' ' => some ' '
  | '"' => some '"'
  | '/' => some '/'
  | '\\' => some '\\'
  | 'N' => some '\u0085'
  | '_' => some '\u00a0'
  | 'L' => some '\u2028'
  | 'P' => some '\u2029'
  | _ => none

/-- The character with the code point written by the given hexadecimal digits. -/
def codePoint? (digits : List Char) : Option Char :=
  match numeral? 16 digits with
  | some n => character? n
  | none => none

/-- Read on in a double quoted scalar up to white space, the closing quote or an escaped break. -/
def doubleRun : QuotedRun → List Char → Except Fault QuotedRun
  | run, [] => .ok run
  | run, '\\' :: 'x' :: a :: b :: cs =>
    match codePoint? [a, b] with
    | some ch => doubleRun { run with text := run.text.push ch, length := run.length + 4 } cs
    | none => .error .malformedEscape
  | run, '\\' :: 'u' :: a :: b :: c :: d :: cs =>
    match codePoint? [a, b, c, d] with
    | some ch => doubleRun { run with text := run.text.push ch, length := run.length + 6 } cs
    | none => .error .malformedEscape
  | run, '\\' :: 'U' :: a :: b :: c :: d :: e :: f :: g :: h :: cs =>
    match codePoint? [a, b, c, d, e, f, g, h] with
    | some ch => doubleRun { run with text := run.text.push ch, length := run.length + 10 } cs
    | none => .error .malformedEscape
  | run, '\\' :: c :: cs =>
    if isBreak c then .ok { run with length := run.length + 1, escapedBreak := true }
    else
      match simpleEscape? c with
      | some ch => doubleRun { run with text := run.text.push ch, length := run.length + 2 } cs
      | none => .error .malformedEscape
  | run, c :: cs =>
    if c == '\\' then .error .malformedEscape
    else if c == '"' || isSpace c || isBreak c then .ok run
    else doubleRun { run with text := run.text.push c, length := run.length + 1 } cs

/-- Read the inside of a quoted scalar, part by part, and its closing quote. -/
def quotedParts (quote : Char) : Nat → String → Cursor → Except Fault (String × Cursor)
  | 0, _, _ => .error .unclosedQuote
  | fuel + 1, text, c =>
    if c.atMarker || c.rest.isEmpty then .error .unclosedQuote
    else do
      let run ←
        if quote == '\'' then .ok (singleRun ⟨text, 0, false⟩ c.rest)
        else doubleRun ⟨text, 0, false⟩ c.rest
      let c := c.skip run.length
      let c := if run.escapedBreak then c.takeBreak.2 else c
      if c.rest.head? == some quote then .ok (run.text, c.skip 1)
      else
        let (gap, c) ← takeGap 0 (c.rest.length + 1) { broken := run.escapedBreak } c
        quotedParts quote fuel (run.text ++ gap.fold) c

/-- Read a quoted scalar whose opening quote is at the cursor. -/
def quotedScalar (quote : Char) (c : Cursor) : Except Fault (String × Cursor) :=
  quotedParts quote (c.rest.length + 1) "" (c.skip 1)

/-! ## Plain scalars -/

/-- An indicator that ends a plain scalar inside a flow collection. -/
def isFlowIndicator (c : Char) : Bool :=
  c == ',' || c == '[' || c == ']' || c == '\x7b' || c == '\x7d'

/-- The characters of a plain scalar up to white space or the end of the scalar. -/
def plainRun (inFlow : Bool) : List Char → Except Fault (List Char)
  | [] => .ok []
  | c :: cs =>
    if isSpace c || isBreak c then .ok []
    else if c == ':' && inFlow && (cs.head?.any fun d => isFlowIndicator d || d == '?') then
      .error .misplacedColon
    else if (c == ':' && atGapOrEnd cs) || (inFlow && isFlowIndicator c) then .ok []
    else (plainRun inFlow cs).map (c :: ·)

/-- Read on in a plain scalar behind the gap `gap`. The result tells whether the scalar was followed
by a gap that ended a line. -/
def plainParts (inFlow : Bool) (indent : Nat) :
    Nat → String → Gap → Cursor → Except Fault (String × Bool × Cursor)
  | 0, text, gap, c => .ok (text, gap.broken, c)
  | fuel + 1, text, gap, c =>
    if c.atMarker || c.rest.head? == some '#' then .ok (text, gap.broken, c)
    else do
      let run ← plainRun inFlow c.rest
      let (text, gap) :=
        if run.isEmpty then (text, gap) else (text ++ gap.fold ++ String.ofList run, {})
      let c := c.skip run.length
      match c.rest with
      | [] => .ok (text, gap.broken, c)
      | d :: _ =>
        if isSpace d || isBreak d then
          let (gap, c) ← takeGap indent (c.rest.length + 1) gap c
          if !inFlow && c.column < indent then .ok (text, gap.broken, c)
          else plainParts inFlow indent fuel text gap c
        else .ok (text, gap.broken, c)

/-- Read a plain scalar whose continuation lines are indented by at least `indent`. -/
def plainScalar (inFlow : Bool) (indent : Nat) (c : Cursor) :
    Except Fault (String × Bool × Cursor) :=
  plainParts inFlow indent (c.rest.length + 1) "" {} c

/-! ## Block scalars -/

/-- What becomes of the line breaks at the end of a block scalar. -/
inductive Chomping where
  /-- All are dropped. -/
  | strip
  /-- One is kept. -/
  | clip
  /-- All are kept. -/
  | keep
deriving DecidableEq

/-- Read the chomping and indentation indicators of a block scalar, in either order. -/
def blockIndicators (c : Cursor) : Except Fault (Chomping × Option Nat × Cursor) :=
  let chomping? : Char → Option Chomping := fun d =>
    if d == '+' then some .keep else if d == '-' then some .strip else none
  let digit? : Char → Option Nat := fun d => digitValue? 10 d
  match c.rest with
  | d :: r =>
    match chomping? d with
    | some chomping =>
      match r.head?.bind digit? with
      | some 0 => .error .malformedBlockHeader
      | some n => .ok (chomping, some n, c.skip 2)
      | none => .ok (chomping, none, c.skip 1)
    | none =>
      match digit? d with
      | some 0 => .error .malformedBlockHeader
      | some n =>
        match r.head?.bind chomping? with
        | some chomping => .ok (chomping, some n, c.skip 2)
        | none => .ok (.clip, some n, c.skip 1)
      | none => .ok (.clip, none, c)
  | [] => .ok (.clip, none, c)

/-- Read the line breaks and the indentation before a line of a block scalar. The result holds the
breaks and the largest column reached; `indent` is 0 as long as the indentation is not known. -/
def blockBreaks (indent : Nat) :
    Nat → String → Nat → Cursor → Except Fault (String × Nat × Cursor)
  | 0, breaks, widest, c => .ok (breaks, widest, c)
  | fuel + 1, breaks, widest, c =>
    let spaces := (c.rest.takeWhile (· == ' ')).length
    let c := c.skip (if indent == 0 then spaces else min spaces (indent - c.column))
    let widest := max widest c.column
    match c.rest with
    | [] => .ok (breaks, widest, c)
    | d :: _ =>
      if (indent == 0 || c.column < indent) && d == '\t' then .error .tabInIndentation
      else if isBreak d then
        let (text, c) := c.takeBreak
        blockBreaks indent fuel (breaks ++ text) widest c
      else .ok (breaks, widest, c)

/-- The state between two lines of a block scalar. -/
structure BlockText where
  /-- The text read so far. -/
  text : String := ""
  /-- The line break that ended the last line. -/
  lastBreak : String := ""
  /-- The empty lines behind it. -/
  moreBreaks : String := ""
  /-- Whether the last line began with white space. -/
  wasIndented : Bool := false

/-- Take up the breaks that stand before a line, folding them if the style asks for it. -/
def BlockText.joinBreaks (literal indented : Bool) (b : BlockText) : String :=
  if !literal && b.lastBreak == "\n" && !b.wasIndented && !indented then
    b.text ++ (if b.moreBreaks.isEmpty then " " else "") ++ b.moreBreaks
  else b.text ++ b.lastBreak ++ b.moreBreaks

/-- Read the lines of a block scalar that start in column `indent`. -/
def blockLines (literal : Bool) (indent : Nat) :
    Nat → BlockText → Cursor → Except Fault (BlockText × Cursor)
  | 0, b, c => .ok (b, c)
  | fuel + 1, b, c =>
    if c.column == indent && !c.rest.isEmpty then do
      let indented := c.rest.head?.any isSpace
      let line := c.rest.takeWhile fun d => !isBreak d
      let text := b.joinBreaks literal indented ++ String.ofList line
      let (lastBreak, c) := (c.skip line.length).takeBreak
      let (moreBreaks, _, c) ← blockBreaks indent (c.rest.length + 1) "" 0 c
      blockLines literal indent fuel ⟨text, lastBreak, moreBreaks, indented⟩ c
    else .ok (b, c)

/-- Read a block scalar whose indicator is at the cursor, inside a collection indented by `parent`
(−1 at the top). -/
def blockScalar (literal : Bool) (parent : Int) (c : Cursor) : Except Fault (String × Cursor) := do
  let (chomping, increment, c) ← blockIndicators (c.skip 1)
  let c := (c.skipWhile isSpace).skipComment
  if !atBreakOrEnd c.rest then .error .malformedBlockHeader
  else
    let c := c.takeBreak.2
    let declared := match increment with
      | some n => (if 0 ≤ parent then parent.toNat else 0) + n
      | none => 0
    let (breaks, widest, c) ← blockBreaks declared (c.rest.length + 1) "" 0 c
    let indent := if declared == 0 then max (max widest (parent + 1).toNat) 1 else declared
    let (b, c) ← blockLines literal indent (c.rest.length + 1) { moreBreaks := breaks } c
    let tail := match chomping with
      | .strip => ""
      | .clip => b.lastBreak
      | .keep => b.lastBreak ++ b.moreBreaks
    .ok (b.text ++ tail, c)

end ReactorNet.Yaml
