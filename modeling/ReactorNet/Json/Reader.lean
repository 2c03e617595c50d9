import ReactorNet.Json.Value
import ReactorNet.Text.Numeral

/-!
# `ReactorNet.Json.Reader` · reading JSON text

The reader of one JSON value from a whole text. A number is a whole number when it is written
without point and exponent and fits 64 bits (signed when negative, unsigned otherwise), and a double
in every other case, `-0` included. The members of an object are kept in the order of their names,
and of several members of one name the last counts.

**How doubles are read.** The leading digits that fit an unsigned 64-bit word are scaled by a power
of ten in double arithmetic; digits beyond them only shift the exponent. A number beyond the range
of doubles makes the text unreadable.
-/

namespace ReactorNet.Json

open ReactorNet.Text

/-- White space between the tokens of a JSON text. -/
def isSpace (c : Char) : Bool := c == ' ' || c == '\n' || c == '\t' || c == '\r'

/-- Drop leading white space. -/
def skip (cs : List Char) : List Char := cs.dropWhile isSpace

/-! ## Strings -/

/-- The number written by four hexadecimal digits. -/
def hex4? (a b c d : Char) : Option Nat := numeral? 16 [a, b, c, d]

/-- Read the rest of a string behind its opening quotation mark. -/
def readString : String → List Char → Option (String × List Char)
  | _, [] => none
  | acc, '"' :: cs => some (acc, cs)
  | acc, '\\' :: '"' :: cs => readString (acc.push '"') cs
  | acc, '\\' :: '\\' :: cs => readString (acc.push '\\') cs
  | acc, '\\' :: '/' :: cs => readString (acc.push '/') cs
  | acc, '\\' :: 'b' :: cs => readString (acc.push '\x08') cs
  | acc, '\\' :: 'f' :: cs => readString (acc.push '\x0c') cs
  | acc, '\\' :: 'n' :: cs => readString (acc.push '\n') cs
  | acc, '\\' :: 'r' :: cs => readString (acc.push '\r') cs
  | acc, '\\' :: 't' :: cs => readString (acc.push '\t') cs
  | acc, '\\' :: 'u' :: a :: b :: c :: d :: cs =>
    match hex4? a b c d with
    | none => none
    | some n =>
      if 0xD800 ≤ n && n ≤ 0xDBFF then
        match cs with
        | '\\' :: 'u' :: e :: f :: g :: h :: cs =>
          match hex4? e f g h with
          | none => none
          | some low =>
            if 0xDC00 ≤ low && low ≤ 0xDFFF then
              match character? (0x10000 + (n - 0xD800) * 0x400 + (low - 0xDC00)) with
              | some ch => readString (acc.push ch) cs
              | none => none
            else none
        | _ => none
      else
        match character? n with
        | some ch => readString (acc.push ch) cs
        | none => none
  | _, '\\' :: _ => none
  | acc, c :: cs => if c.toNat < 0x20 then none else readString (acc.push c) cs

/-! ## Numbers -/

/-- Largest unsigned 64-bit word. -/
def maxWord : Nat := Nat.pow 2 64 - 1

/-- The leading digits of a number that fit a word, and the power of ten they are scaled by. -/
structure Scaled where
  /-- The digits that fit. -/
  significand : Nat
  /-- The power of ten. -/
  exponent : Int

/-- Take up the digits before the point: those beyond the word count as zeros. -/
def takeWhole : Scaled → List Char → Scaled
  | s, [] => s
  | s, c :: cs =>
    let next := s.significand * 10 + (digitValue? 10 c).getD 0
    if next ≤ maxWord then takeWhole ⟨next, s.exponent⟩ cs
    else ⟨s.significand, s.exponent + (cs.length + 1)⟩

/-- Take up the digits behind the point: those beyond the word are dropped. -/
def takeFraction : Scaled → List Char → Scaled
  | s, [] => s
  | s, c :: cs =>
    let next := s.significand * 10 + (digitValue? 10 c).getD 0
    if next ≤ maxWord then takeFraction ⟨next, s.exponent - 1⟩ cs else s

/-- The power `10 ^ n` as a double, for `n` up to 308. -/
def powerOfTen (n : Nat) : Float := Float.ofScientific 1 false n

/-- The double of scaled digits; `none` beyond the range of doubles. -/
def Scaled.toFloat? (s : Scaled) : Option Float :=
  let f := s.significand.toUInt64.toFloat
  if s.significand == 0 then some 0.0
  else if 308 < s.exponent then none
  else if 0 ≤ s.exponent then
    let x := f * powerOfTen s.exponent.toNat
    if x.isInf then none else some x
  else if -308 ≤ s.exponent then some (f / powerOfTen s.exponent.natAbs)
  else if -616 ≤ s.exponent then some (f / powerOfTen 308 / powerOfTen (s.exponent.natAbs - 308))
  else some 0.0

/-- The digits before the point: a single zero, or digits that do not open with one. -/
def readWhole : List Char → Option (List Char × List Char)
  | '0' :: cs =>
    match cs with
    | c :: _ => if isDigit c then none else some (['0'], cs)
    | [] => some (['0'], [])
  | c :: cs => if isDigit c then some (c :: cs.takeWhile isDigit, cs.dropWhile isDigit) else none
  | [] => none

/-- The digits behind the point, if there is one. -/
def readFraction : List Char → Option (Option (List Char) × List Char)
  | '.' :: cs =>
    let ds := cs.takeWhile isDigit
    if ds.isEmpty then none else some (some ds, cs.dropWhile isDigit)
  | cs => some (none, cs)

/-- The exponent, if there is one. -/
def readExponent : List Char → Option (Option Int × List Char)
  | [] => some (none, [])
  | c :: cs =>
    if c == 'e' || c == 'E' then
      let (sign, cs) : Int × List Char := match cs with
        | '-' :: r => (-1, r)
        | '+' :: r => (1, r)
        | r => (1, r)
      let ds := cs.takeWhile isDigit
      (numeral? 10 ds).map fun n => (some (sign * n), cs.dropWhile isDigit)
    else some (none, c :: cs)

/-- Read a number. -/
def readNumber (cs : List Char) : Option (Json × List Char) := do
  let (negative, cs) := match cs with
    | '-' :: r => (true, r)
    | r => (false, r)
  let (whole, cs) ← readWhole cs
  let (fraction, cs) ← readFraction cs
  let (exponent, cs) ← readExponent cs
  let n := (numeral? 10 whole).getD 0
  let fits := if negative then 0 < n && n ≤ Nat.pow 2 63 else n ≤ maxWord
  if fraction.isNone && exponent.isNone && fits then
    some (.int (if negative then -(n : Int) else n), cs)
  else
    let scaled := takeFraction (takeWhole ⟨0, 0⟩ whole) (fraction.getD [])
    let x ← Scaled.toFloat? ⟨scaled.significand, scaled.exponent + exponent.getD 0⟩
    some (.float (if negative then -x else x), cs)

/-! ## Values -/

/-- Put a member into its place among members ordered by name, replacing one of the same name. -/
def insertMember (name : String) (value : Json) : List (String × Json) → List (String × Json)
  | [] => [(name, value)]
  | (k, v) :: ms =>
    if name == k then (name, value) :: ms
    else if name < k then (name, value) :: (k, v) :: ms
    else (k, v) :: insertMember name value ms

mutual

/-- Read one value at the head of the text; `fuel` bounds the nesting and the items still read. -/
def readValue : Nat → List Char → Option (Json × List Char)
  | 0, _ => none
  | fuel + 1, cs =>
    match skip cs with
    | 'n' :: 'u' :: 'l' :: 'l' :: r => some (.null, r)
    | 't' :: 'r' :: 'u' :: 'e' :: r => some (.bool true, r)
    | 'f' :: 'a' :: 'l' :: 's' :: 'e' :: r => some (.bool false, r)
    | '"' :: r => (readString "" r).map fun (s, r) => (.str s, r)
    | '[' :: r =>
      match skip r with
      | ']' :: r => some (.arr [], r)
      | r => (readItems fuel r).map fun (xs, r) => (.arr xs, r)
    | '\x7b' :: r =>
      match skip r with
      | '\x7d' :: r => some (.obj [], r)
      | r => (readMembers fuel [] r).map fun (ms, r) => (.obj ms, r)
    | r => readNumber r

/-- Read the items of an array up to its closing bracket. -/
def readItems : Nat → List Char → Option (List Json × List Char)
  | 0, _ => none
  | fuel + 1, cs =>
    match readValue fuel cs with
    | none => none
    | some (x, r) =>
      match skip r with
      | ',' :: r => (readItems fuel r).map fun (xs, r) => (x :: xs, r)
      | ']' :: r => some ([x], r)
      | _ => none

/-- Read the members of an object up to its closing brace into the members read so far. -/
def readMembers :
    Nat → List (String × Json) → List Char → Option (List (String × Json) × List Char)
  | 0, _, _ => none
  | fuel + 1, acc, cs =>
    match skip cs with
    | '"' :: r =>
      match readString "" r with
      | none => none
      | some (name, r) =>
        match skip r with
        | ':' :: r =>
          match readValue fuel r with
          | none => none
          | some (value, r) =>
            let acc := insertMember name value acc
            match skip r with
            | ',' :: r => readMembers fuel acc r
            | '\x7d' :: r => some (acc, r)
            | _ => none
        | _ => none
    | _ => none

end

/-- Read the one value of a text. -/
def read? (text : String) : Option Json :=
  let cs := text.toList
  match readValue (cs.length + 1) cs with
  | some (v, r) => if (skip r).isEmpty then some v else none
  | none => none

end ReactorNet.Json
