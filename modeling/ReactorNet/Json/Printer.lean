import ReactorNet.Json.Value
import ReactorNet.Decimal.Layout

/-!
# `ReactorNet.Json.Printer` · JSON as text

The two written forms of a JSON value: on one line without any white space, and indented by two
spaces a level, as reports are printed. Only the quotation mark, the backslash and the control
characters below the space are escaped; every other character stands for itself.
-/

namespace ReactorNet.Json

open ReactorNet.Decimal

/-- Positive exponents carry their sign, and a value that is not finite is written `null`. -/
def floatStyle : FloatStyle where
  plusExponent := true
  infinity := "null"
  negInfinity := "null"
  notANumber := "null"

/-- One lower-case hexadecimal digit. -/
def hexDigit (n : Nat) : Char := Nat.digitChar (n % 16)

/-- The text of one character inside a string. -/
def escape (c : Char) : String :=
  match c with
  | '"' => "\\\""
  | '\\' => "\\\\"
  | '\n' => "\\n"
  | '\r' => "\\r"
  | '\t' => "\\t"
  | '\x08' => "\\b"
  | '\x0c' => "\\f"
  | c =>
    if c.toNat < 0x20 then
      "\\u00" ++ String.singleton (hexDigit (c.toNat / 16)) ++ String.singleton (hexDigit c.toNat)
    else String.singleton c

/-- A string between quotation marks. -/
def quote (s : String) : String :=
  (s.toList.foldl (fun acc c => acc ++ escape c) "\"").push '"'

/-- The text of a value that holds no other value. -/
def scalarText : Json → String
  | .null => "null"
  | .bool true => "true"
  | .bool false => "false"
  | .int n => toString n
  | .float x => floatStyle.text x
  | .str s => quote s
  | .arr _ => "[]"
  | .obj _ => "\x7b\x7d"

mutual

/-- Write a value without white space behind `acc`. -/
def writeCompact : Json → String → String
  | .arr [], acc => acc ++ "[]"
  | .arr (x :: xs), acc => writeItems xs (writeCompact x (acc.push '[')) |>.push ']'
  | .obj [], acc => acc ++ "\x7b\x7d"
  | .obj ((k, v) :: ms), acc =>
    writeMembers ms (writeCompact v ((acc.push '\x7b') ++ quote k |>.push ':')) |>.push '\x7d'
  | other, acc => acc ++ scalarText other

/-- Write the items after the first one of an array. -/
def writeItems : List Json → String → String
  | [], acc => acc
  | x :: xs, acc => writeItems xs (writeCompact x (acc.push ','))

/-- Write the members after the first one of an object. -/
def writeMembers : List (String × Json) → String → String
  | [], acc => acc
  | (k, v) :: ms, acc => writeMembers ms (writeCompact v ((acc.push ',') ++ quote k |>.push ':'))

end

/-- The one-line text of a value. -/
def compact (v : Json) : String := writeCompact v ""

/-- A line break and the indentation of the given level. -/
def newline (level : Nat) : String := "\n" ++ String.ofList (List.replicate (2 * level) ' ')

mutual

/-- Write a value indented, its closing bracket on the given level, behind `acc`. -/
def writePretty : Nat → Json → String → String
  | _, .arr [], acc => acc ++ "[]"
  | level, .arr (x :: xs), acc =>
    writePrettyItems (level + 1) xs
      (writePretty (level + 1) x ((acc.push '[') ++ newline (level + 1))) ++ newline level ++ "]"
  | _, .obj [], acc => acc ++ "\x7b\x7d"
  | level, .obj ((k, v) :: ms), acc =>
    writePrettyMembers (level + 1) ms
      (writePretty (level + 1) v ((acc.push '\x7b') ++ newline (level + 1) ++ quote k ++ ": ")) ++
      newline level ++ "\x7d"
  | _, other, acc => acc ++ scalarText other

/-- Write the items after the first one of an indented array. -/
def writePrettyItems : Nat → List Json → String → String
  | _, [], acc => acc
  | level, x :: xs, acc =>
    writePrettyItems level xs (writePretty level x ((acc.push ',') ++ newline level))

/-- Write the members after the first one of an indented object. -/
def writePrettyMembers : Nat → List (String × Json) → String → String
  | _, [], acc => acc
  | level, (k, v) :: ms, acc =>
    writePrettyMembers level ms
      (writePretty level v ((acc.push ',') ++ newline level ++ quote k ++ ": "))

end

/-- The indented text of a value. -/
def pretty (v : Json) : String := writePretty 0 v ""

end ReactorNet.Json
