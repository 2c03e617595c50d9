import ReactorNet.Toml.Scalar
import ReactorNet.Toml.Table

/-!
# `ReactorNet.Toml.Document` · reading a TOML text

Keys, values and the lines of a text: `Toml.read?` reads a text into one typed value, its outermost
table. Arrays go over several lines and may end in a comma; braces stay on one line and may not.

**Limits.** Values nest, and dotted keys reach, less than eighty levels deep.
-/

namespace ReactorNet.Toml

open ReactorNet.Text ReactorNet.Schema

/-- The first depth that is too deep. -/
def maxDepth : Nat := 80

/-- A character of a key without quotation marks. -/
def isKeyChar (c : Char) : Bool := c.isAlphanum || c == '-' || c == '_'

/-- Read one part of a key. -/
def simpleKey? : List Char → Option (String × List Char)
  | '"' :: cs => basicString "" cs
  | '\'' :: cs => literalString "" cs
  | cs =>
    let key := cs.takeWhile isKeyChar
    if key.isEmpty then none else some (String.ofList key, cs.dropWhile isKeyChar)

/-- Read a dotted key of at most as many parts as the bound says, and the blanks around it. -/
def dottedKey : Nat → List Char → Option (List String × List Char)
  | 0, _ => none
  | bound + 1, cs => do
    let (part, cs) ← simpleKey? (skipSpace cs)
    match skipSpace cs with
    | '.' :: cs =>
      let (parts, cs) ← dottedKey bound cs
      return (part :: parts, cs)
    | cs => return ([part], cs)

/-- Read a dotted key. -/
def key? (cs : List Char) : Option (List String × List Char) := dottedKey (maxDepth - 1) cs

/-- Drop blanks, line breaks and comments; the flag says that a comment is being read. -/
def skipGap : Bool → List Char → List Char
  | _, [] => []
  | _, '\n' :: cs => skipGap false cs
  | _, '\r' :: '\n' :: cs => skipGap false cs
  | true, c :: cs => if isText c then skipGap true cs else c :: cs
  | false, '#' :: cs => skipGap true cs
  | false, c :: cs => if isSpace c then skipGap false cs else c :: cs

mutual

/-- Read a value that stands inside `depth` others. -/
def value : (fuel depth : Nat) → List Char → Option (Datum × List Char)
  | 0, _, _ => none
  | fuel + 1, depth, cs =>
    match cs with
    | '"' :: _ => (string? cs).map fun (s, cs) => (.text s, cs)
    | '\'' :: _ => (string? cs).map fun (s, cs) => (.text s, cs)
    | '[' :: cs => do
      if maxDepth ≤ depth + 1 then none
      let (items, cs) ← arrayItems fuel (depth + 1) cs
      return (.list items, cs)
    | '\x7b' :: cs => do
      if maxDepth ≤ depth + 1 then none
      match skipSpace cs with
      | '\x7d' :: cs => return (.map [], cs)
      | cs =>
        let (entries, cs) ← braceEntries fuel (depth + 1) [] cs
        return (entries.toDatum, cs)
    | 't' :: 'r' :: 'u' :: 'e' :: cs => some (.bool true, cs)
    | 'f' :: 'a' :: 'l' :: 's' :: 'e' :: cs => some (.bool false, cs)
    | 'i' :: _ => number? cs
    | 'n' :: _ => number? cs
    | cs => numeric? cs

/-- Read the items of an array up to its end. -/
def arrayItems : (fuel depth : Nat) → List Char → Option (List Datum × List Char)
  | 0, _, _ => none
  | fuel + 1, depth, cs =>
    match skipGap false cs with
    | ']' :: cs => some ([], cs)
    | cs => do
      let (v, cs) ← value fuel depth cs
      match skipGap false cs with
      | ',' :: cs =>
        let (vs, cs) ← arrayItems fuel depth cs
        return (v :: vs, cs)
      | ']' :: cs => return ([v], cs)
      | _ => none

/-- Read the entries between braces, of which there is at least one more, up to their end. -/
def braceEntries : (fuel depth : Nat) → Entries → List Char → Option (Entries × List Char)
  | 0, _, _, _ => none
  | fuel + 1, depth, es, cs => do
    let (path, cs) ← key? cs
    let cs ← expect '=' cs
    let (v, cs) ← value fuel depth (skipSpace cs)
    let es ← es.insert v path
    match skipSpace cs with
    | ',' :: cs => braceEntries fuel depth es cs
    | '\x7d' :: cs => return (es, cs)
    | _ => none

end

/-- The characters behind the end of a line, where a comment may stand before it. -/
def lineEnd? (cs : List Char) : Option (List Char) :=
  let cs := match skipSpace cs with
    | '#' :: cs => cs.dropWhile isText
    | cs => cs
  if cs.isEmpty then some [] else lineBreak? cs

/-- Read the lines of a text. The header that the lines stand under, and the tree so far, are
handed on from line to line. -/
def lines : (fuel : Nat) → (header : List String) → Entries → List Char → Option Entries
  | 0, _, _, _ => none
  | fuel + 1, header, root, cs =>
    match skipSpace cs with
    | [] => some root
    | '[' :: '[' :: cs => do
      let (path, cs) ← key? cs
      let cs ← lineEnd? (← expect ']' (← expect ']' cs))
      lines fuel path (← root.openItem path) cs
    | '[' :: cs => do
      let (path, cs) ← key? cs
      let cs ← lineEnd? (← expect ']' cs)
      lines fuel path (← root.openTable path) cs
    | c :: cs =>
      if c == '#' || (lineBreak? (c :: cs)).isSome then do
        lines fuel header root (← lineEnd? (c :: cs))
      else do
        let (path, cs) ← key? (c :: cs)
        let cs ← expect '=' cs
        let (v, cs) ← value (2 * cs.length + 8) 0 (skipSpace cs)
        lines fuel header (← root.descend (·.insert v path) header) (← lineEnd? cs)

/-- Read a text into its outermost table. -/
def read? (text : String) : Option Datum :=
  let cs := match text.toList with
    | '\ufeff' :: cs => cs
    | cs => cs
  (lines (cs.length + 1) [] [] cs).map Entries.toDatum

end ReactorNet.Toml
