import ReactorNet.Decimal.Layout
import ReactorNet.Json.Value
import ReactorNet.Yaml.Source

/-!
# `ReactorNet.Yaml.Printer` · JSON values as a YAML text

The block style in which reports are printed: an entry to a line, items of a sequence at the column
of the key they belong to, nested mappings two columns further in.

**Texts.** A text is written plainly if it then reads back as that text. One that would be taken for
a number, a truth value or nothing, or for a truth value by readers of older YAML, is quoted; one of
several lines becomes a literal block; and where white space or characters would get lost, escapes
are needed and with them the double quotation marks.
-/

namespace ReactorNet.Yaml

open ReactorNet.Decimal

/-- Positive exponents carry no sign, and values that are not finite have their YAML spelling. -/
def floatStyle : FloatStyle where
  plusExponent := false
  infinity := ".inf"
  negInfinity := "-.inf"
  notANumber := ".nan"

/-! ## What a text admits -/

/-- A character that is written as it stands. -/
def isPrintable (c : Char) : Bool :=
  let n := c.toNat
  n == 10 || (0x20 ≤ n && n ≤ 0x7E) || (0xA0 ≤ n && n ≤ 0xD7FF) ||
    (0xE000 ≤ n && n ≤ 0xFFFD && c != byteOrderMark) || 0x10000 ≤ n

/-- A character behind which a colon, hyphen or number sign is an indicator. -/
def isGap (c : Char) : Bool := isSpace c || isBreak c || c == '\x00'

/-- Whether a gap or the end stands here. -/
def atGap : List Char → Bool
  | [] => true
  | c :: _ => isGap c

/-- Whether an indicator stands behind the first character. -/
def hasInnerIndicator : (before : Char) → List Char → Bool
  | _, [] => false
  | before, c :: cs =>
    (c == ':' && atGap cs) || (c == '#' && isGap before) || hasInnerIndicator c cs

/-- Whether a text starts like a marker of a document. -/
def startsLikeMarker : List Char → Bool
  | '-' :: '-' :: '-' :: _ => true
  | '.' :: '.' :: '.' :: _ => true
  | _ => false

/-- The characters that no plain text starts with. -/
def openingIndicators : List Char :=
  ['#', ',', '[', ']', '\x7b', '\x7d', '&', '*', '!', '|', '>', '\'', '"', '%', '@', '\x60']

/-- Whether a text would be taken for something else than a text where it stands plainly. -/
def hasIndicator : List Char → Bool
  | [] => false
  | c :: cs =>
    startsLikeMarker (c :: cs) || openingIndicators.contains c ||
      ((c == '?' || c == ':' || c == '-') && atGap cs) || hasInnerIndicator c cs

/-- Whether a character of the first kind stands directly before one of the second kind. -/
def hasAdjacent (p q : Char → Bool) : List Char → Bool
  | c :: d :: cs => (p c && q d) || hasAdjacent p q (d :: cs)
  | _ => false

/-- The blank. -/
def isBlank (c : Char) : Bool := c == ' '

/-- Whether only escapes keep a text as it is. -/
def needsEscapes (cs : List Char) : Bool :=
  cs.any (!isPrintable ·) || hasAdjacent isBlank isBreak cs

/-- Whether a text may stand plainly. -/
def admitsPlain (cs : List Char) : Bool :=
  !(needsEscapes cs || hasIndicator cs || cs.any isBreak || cs.head?.any isBlank ||
    cs.getLast?.any isBlank)

/-- Whether a text may stand in single quotation marks. -/
def admitsSingle (cs : List Char) : Bool := !(needsEscapes cs || hasAdjacent isBreak isBlank cs)

/-- Whether a text may stand as a literal block. -/
def admitsBlock (cs : List Char) : Bool := !(needsEscapes cs || cs.getLast?.any isBlank)

/-- The spellings that readers of older YAML take for truth values. -/
def olderTruths : List String :=
  ["y", "Y", "yes", "Yes", "YES", "n", "N", "no", "No", "NO", "true", "True", "TRUE", "false",
    "False", "FALSE", "on", "On", "ON", "off", "Off", "OFF"]

/-- Whether a text would be read as something else if it stood plainly, or looks like a number. -/
def isAmbiguous (s : String) : Bool :=
  olderTruths.contains s || s.isEmpty || isNull s || (truth? s).isSome ||
    ((integer? s).filter Source.fitsWide).isSome || (untypedDouble? s).isSome ||
    isPaddedNumber s.toList

/-! ## Writing texts -/

/-- The given number of blanks. -/
def blanks (n : Nat) : String := String.ofList (List.replicate n ' ')

/-- The characters between single quotation marks. After a break, further text is set in. -/
def singleBody (indent : Nat) : (broken : Bool) → List Char → String
  | broken, [] => if broken then blanks indent else ""
  | broken, c :: cs =>
    if isBreak c then c.toString ++ singleBody indent true cs
    else
      (if broken && !isBlank c then blanks indent else "") ++
        (if c == '\'' then "''" else c.toString) ++ singleBody indent (broken && isBlank c) cs

/-- The lowest `count` hexadecimal digits of a number, in capitals. -/
def hexDigits : (count : Nat) → Nat → List Char
  | 0, _ => []
  | count + 1, n => hexDigits count (n / 16) ++ [(Nat.digitChar (n % 16)).toUpper]

/-- A character between double quotation marks. -/
def escaped (c : Char) : String :=
  let n := c.toNat
  match c with
  | '\x00' => "\\0"
  | '\x07' => "\\a"
  | '\x08' => "\\b"
  | '\t' => "\\t"
  | '\n' => "\\n"
  | '\x0b' => "\\v"
  | '\x0c' => "\\f"
  | '\r' => "\\r"
  | '\x1b' => "\\e"
  | '"' => "\\\""
  | '\\' => "\\\\"
  | '\u0085' => "\\N"
  | '\u2028' => "\\L"
  | '\u2029' => "\\P"
  | c =>
    if isPrintable c then c.toString
    else if n ≤ 0xFF then "\\x" ++ String.ofList (hexDigits 2 n)
    else if n ≤ 0xFFFF then "\\u" ++ String.ofList (hexDigits 4 n)
    else "\\U" ++ String.ofList (hexDigits 8 n)

/-- A text between double quotation marks. -/
def doubleQuoted (cs : List Char) : String := "\"" ++ String.join (cs.map escaped) ++ "\""

/-- A text between single quotation marks. -/
def singleQuoted (indent : Nat) (cs : List Char) : String := "'" ++ singleBody indent false cs ++ "'"

/-- What stands behind the bar of a literal block: the indentation if the text starts with a blank
or a break, and how its last breaks are to be taken. -/
def blockHints (cs : List Char) : String :=
  (if cs.head?.any fun c => isBlank c || isBreak c then "2" else "") ++
    match cs.reverse with
    | c :: d :: _ => if !isBreak c then "-" else if isBreak d then "+" else ""
    | [c] => if isBreak c then "+" else "-"
    | [] => "-"

/-- The lines of a literal block. -/
def literalLines (s : String) : List String :=
  let lines := s.splitOn "\n"
  let lines := if lines.getLast? == some "" then lines.dropLast else lines
  lines.map fun line => if line.isEmpty then line else "  " ++ line

/-- The lines of a text, the first of which goes on where a key or an item mark stands. -/
def textLines (indent : Nat) (s : String) : List String :=
  let cs := s.toList
  if !olderTruths.contains s && cs.contains '\n' then
    if admitsBlock cs then ("|" ++ blockHints cs) :: literalLines s else [doubleQuoted cs]
  else if !isAmbiguous s && admitsPlain cs then [s]
  else if admitsSingle cs then [singleQuoted (indent + 2) cs]
  else [doubleQuoted cs]

/-! ## Writing values -/

/-- The lines of a value that is no collection; empty collections are written so too. -/
def scalarLines (indent : Nat) : Json → List String
  | .null => ["null"]
  | .bool true => ["true"]
  | .bool false => ["false"]
  | .int n => [toString n]
  | .float x => [floatStyle.text x]
  | .str s => textLines indent s
  | .arr _ => ["[]"]
  | .obj _ => ["\x7b\x7d"]

/-- Set lines in by two columns. -/
def setIn (lines : List String) : List String :=
  lines.map fun line => if line.isEmpty then line else "  " ++ line

/-- Put something in front of the first of several lines. -/
def openWith (opening : String) : List String → List String
  | [] => [opening]
  | line :: lines => (opening ++ line) :: lines

/-- Put an item mark in front of lines and set the others in. -/
def itemLines : List String → List String
  | [] => ["-"]
  | line :: lines => ("- " ++ line) :: setIn lines

mutual

/-- The lines of a value that stands at the given column. -/
def valueLines (indent : Nat) : Json → List String
  | .arr (x :: xs) => itemLines (valueLines (indent + 2) x) ++ moreItems indent xs
  | .obj ((k, v) :: ms) => entryLines indent k v ++ moreEntries indent ms
  | v => scalarLines indent v

/-- The lines of an entry of a mapping. -/
def entryLines (indent : Nat) (key : String) : Json → List String
  | .arr (x :: xs) => (key ++ ":") :: (itemLines (valueLines (indent + 2) x) ++ moreItems indent xs)
  | .obj ((k, v) :: ms) =>
    (key ++ ":") :: setIn (entryLines (indent + 2) k v ++ moreEntries (indent + 2) ms)
  | v => openWith (key ++ ": ") (scalarLines indent v)

/-- The lines of the further items of a sequence. -/
def moreItems (indent : Nat) : List Json → List String
  | [] => []
  | x :: xs => itemLines (valueLines (indent + 2) x) ++ moreItems indent xs

/-- The lines of the further entries of a mapping. -/
def moreEntries (indent : Nat) : List (String × Json) → List String
  | [] => []
  | (k, v) :: ms => entryLines indent k v ++ moreEntries indent ms

end

/-- The YAML text of a value. -/
def render (v : Json) : String := String.join ((valueLines 0 v).map (· ++ "\n"))

end ReactorNet.Yaml
