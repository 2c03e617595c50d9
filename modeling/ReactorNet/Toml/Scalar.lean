import ReactorNet.Schema.Datum
import ReactorNet.Decimal.Literal

/-!
# `ReactorNet.Toml.Scalar` · the scalars of a TOML text

Strings in their four forms, whole numbers in four radices, doubles, and dates with times. Each
reader takes the characters from where the scalar starts and returns its value and the characters
behind it, or nothing if the scalar is malformed.

**Dates.** Nothing in a description is a date, so a date is checked and then kept as a map that no
schema has a field for.
-/

namespace ReactorNet.Toml

open ReactorNet.Text ReactorNet.Decimal ReactorNet.Schema

/-- A blank or a tabulator. -/
def isSpace (c : Char) : Bool := c == ' ' || c == '\t'

/-- A character that may stand in a comment or a string: everything but control characters. -/
def isText (c : Char) : Bool := c == '\t' || (' ' ≤ c && c != '\x7f')

/-- Drop blanks and tabulators. -/
def skipSpace (cs : List Char) : List Char := cs.dropWhile isSpace

/-- The characters behind a line break, if one stands here. -/
def lineBreak? : List Char → Option (List Char)
  | '\n' :: cs => some cs
  | '\r' :: '\n' :: cs => some cs
  | _ => none

/-! ## Strings -/

/-- The character that a short escape stands for. -/
def escaped? : Char → Option Char
  | 'b' => some '\x08'
  | 't' => some '\t'
  | 'n' => some '\n'
  | 'f' => some '\x0c'
  | 'r' => some '\r'
  | '"' => some '"'
  | '\\' => some '\\'
  | _ => none

/-- The character whose code point the given digits write. -/
def unicode? (digits : List Char) : Option Char := (numeral? 16 digits).bind character?

/-- Read the rest of a basic string of one line, behind its quotation mark. -/
def basicString : String → List Char → Option (String × List Char)
  | _, [] => none
  | acc, '"' :: cs => some (acc, cs)
  | acc, '\\' :: 'u' :: a :: b :: c :: d :: cs =>
    match unicode? [a, b, c, d] with
    | some x => basicString (acc.push x) cs
    | none => none
  | acc, '\\' :: 'U' :: a :: b :: c :: d :: e :: f :: g :: h :: cs =>
    match unicode? [a, b, c, d, e, f, g, h] with
    | some x => basicString (acc.push x) cs
    | none => none
  | acc, '\\' :: c :: cs =>
    match escaped? c with
    | some x => basicString (acc.push x) cs
    | none => none
  | acc, c :: cs => if isText c && c != '\\' then basicString (acc.push c) cs else none

/-- Read the rest of a literal string of one line, behind its apostrophe. -/
def literalString : String → List Char → Option (String × List Char)
  | _, [] => none
  | acc, '\'' :: cs => some (acc, cs)
  | acc, c :: cs => if isText c then literalString (acc.push c) cs else none

/-- Close a string of several lines behind its three marks: up to two marks more belong to it. -/
def closeLines (mark : Char) (acc : String) (cs : List Char) : String × List Char :=
  let extra := min 2 (cs.takeWhile (· == mark)).length
  (acc ++ String.ofList (List.replicate extra mark), cs.drop extra)

/-- Whether only blanks stand between here and the end of the line. -/
def endsLine (cs : List Char) : Bool := (lineBreak? (skipSpace cs)).isSome

/-- Read the rest of a basic string of several lines. Behind a backslash that ends its line, the
string goes on with the next character that is neither blank nor line break; the flag says that
this character is being looked for. -/
def basicLines : Bool → String → List Char → Option (String × List Char)
  | _, _, [] => none
  | _, acc, '"' :: '"' :: '"' :: cs => some (closeLines '"' acc cs)
  | seeking, acc, '\r' :: '\n' :: cs =>
    basicLines seeking (if seeking then acc else acc.push '\n') cs
  | seeking, acc, '\n' :: cs => basicLines seeking (if seeking then acc else acc.push '\n') cs
  | _, acc, '\\' :: 'u' :: a :: b :: c :: d :: cs =>
    match unicode? [a, b, c, d] with
    | some x => basicLines false (acc.push x) cs
    | none => none
  | _, acc, '\\' :: 'U' :: a :: b :: c :: d :: e :: f :: g :: h :: cs =>
    match unicode? [a, b, c, d, e, f, g, h] with
    | some x => basicLines false (acc.push x) cs
    | none => none
  | _, acc, '\\' :: c :: cs =>
    if endsLine (c :: cs) then basicLines true acc (c :: cs)
    else
      match escaped? c with
      | some x => basicLines false (acc.push x) cs
      | none => none
  | seeking, acc, c :: cs =>
    if seeking && isSpace c then basicLines true acc cs
    else if isText c && c != '\\' then basicLines false (acc.push c) cs
    else none

/-- Read the rest of a literal string of several lines. -/
def literalLines : String → List Char → Option (String × List Char)
  | _, [] => none
  | acc, '\'' :: '\'' :: '\'' :: cs => some (closeLines '\'' acc cs)
  | acc, '\r' :: '\n' :: cs => literalLines (acc.push '\n') cs
  | acc, c :: cs => if isText c || c == '\n' then literalLines (acc.push c) cs else none

/-- Drop the line break that may follow the opening marks of a string of several lines. -/
def dropLineBreak (cs : List Char) : List Char := (lineBreak? cs).getD cs

/-- Read a string of any form. -/
def string? : List Char → Option (String × List Char)
  | '"' :: '"' :: '"' :: cs => basicLines false "" (dropLineBreak cs)
  | '"' :: cs => basicString "" cs
  | '\'' :: '\'' :: '\'' :: cs => literalLines "" (dropLineBreak cs)
  | '\'' :: cs => literalString "" cs
  | _ => none

/-! ## Numbers -/

/-- Continue a run of digits; between two digits an underscore may stand. -/
def moreDigits (radix : Nat) : List Char → List Char → Option (List Char × List Char)
  | acc, [] => some (acc.reverse, [])
  | acc, '_' :: c :: cs =>
    if (digitValue? radix c).isSome then moreDigits radix (c :: acc) cs else none
  | _, ['_'] => none
  | acc, c :: cs =>
    if (digitValue? radix c).isSome then moreDigits radix (c :: acc) cs
    else some (acc.reverse, c :: cs)

/-- Read one or more digits and drop the underscores between them. -/
def digits? (radix : Nat) : List Char → Option (List Char × List Char)
  | c :: cs => if (digitValue? radix c).isSome then moreDigits radix [c] cs else none
  | [] => none

/-- Read the digits before the point of a decimal, which do not open with a superfluous zero. -/
def wholeDigits? : List Char → Option (List Char × List Char)
  | '0' :: cs => some (['0'], cs)
  | cs => digits? 10 cs

/-- Read the point and the digits of a fraction; both may be missing. -/
def fraction? : List Char → Option (List Char × List Char)
  | '.' :: cs => (digits? 10 cs).map fun (ds, cs) => ('.' :: ds, cs)
  | cs => some ([], cs)

/-- Read the exponent of a double; it may be missing. -/
def exponentPart? : List Char → Option (List Char × List Char)
  | c :: cs =>
    if c == 'e' || c == 'E' then
      let (sign, rest) := match cs with
        | '+' :: r => (['+'], r)
        | '-' :: r => (['-'], r)
        | r => ([], r)
      (digits? 10 rest).map fun (ds, cs) => ('e' :: (sign ++ ds), cs)
    else some ([], c :: cs)
  | [] => some ([], [])

/-- A whole number, if it fits a signed word of 64 bits. -/
def integer? (n : Int) : Option Datum :=
  if -(Nat.pow 2 63 : Int) ≤ n && n < (Nat.pow 2 63 : Int) then some (.int n) else none

/-- A double, unless it is beyond the largest one. -/
def double? (negative : Bool) (literal : List Char) : Option Datum := do
  let x := (← Literal.read? literal).toFloat
  if negative then some (.float (-x)) else if x.isFinite then some (.float x) else none

/-- Read a number whose sign was read before. -/
def unsigned? (negative : Bool) (cs : List Char) : Option (Datum × List Char) :=
  match cs with
  | 'i' :: 'n' :: 'f' :: cs =>
    let infinity := 1.0 / 0.0
    some (.float (if negative then -infinity else infinity), cs)
  | 'n' :: 'a' :: 'n' :: cs => some (.float (0.0 / 0.0), cs)
  | cs => do
    let (whole, cs) ← wholeDigits? cs
    let (fraction, cs) ← fraction? cs
    let (exponent, cs) ← exponentPart? cs
    if fraction.isEmpty && exponent.isEmpty then
      let n : Int := (← numeral? 10 whole)
      return (← integer? (if negative then -n else n), cs)
    else return (← double? negative (whole ++ fraction ++ exponent), cs)

/-- Read a number. Only decimals take a sign. -/
def number? : List Char → Option (Datum × List Char)
  | '0' :: 'x' :: cs => radixed 16 cs
  | '0' :: 'o' :: cs => radixed 8 cs
  | '0' :: 'b' :: cs => radixed 2 cs
  | '+' :: cs => unsigned? false cs
  | '-' :: cs => unsigned? true cs
  | cs => unsigned? false cs
where
  /-- Read the digits behind a radix mark. -/
  radixed (radix : Nat) (cs : List Char) : Option (Datum × List Char) := do
    let (ds, cs) ← digits? radix cs
    let n : Int := (← numeral? radix ds)
    return (← integer? n, cs)

/-! ## Dates and times -/

/-- Read two digits whose value lies in a range. -/
def twoDigits? (low high : Nat) : List Char → Option (Nat × List Char)
  | a :: b :: cs => do
    let n ← if isDigit a && isDigit b then numeral? 10 [a, b] else none
    if low ≤ n && n ≤ high then some (n, cs) else none
  | _ => none

/-- The characters behind the one that has to stand here. -/
def expect (c : Char) : List Char → Option (List Char)
  | x :: cs => if x == c then some cs else none
  | [] => none

/-- The number of days of a month. -/
def daysIn (year month : Nat) : Nat :=
  if month == 2 then
    if year % 4 == 0 && (year % 100 != 0 || year % 400 == 0) then 29 else 28
  else if month == 4 || month == 6 || month == 9 || month == 11 then 30
  else 31

/-- Read the month and the day behind a year and its hyphen. -/
def monthAndDay? (year : Nat) (cs : List Char) : Option (List Char) := do
  let (month, cs) ← twoDigits? 1 12 cs
  let cs ← expect '-' cs
  let (_, cs) ← twoDigits? 1 (daysIn year month) cs
  return cs

/-- Read the minute, the second and the fraction behind an hour and its colon. -/
def minuteAndSecond? (cs : List Char) : Option (List Char) := do
  let (_, cs) ← twoDigits? 0 59 cs
  let cs ← expect ':' cs
  let (_, cs) ← twoDigits? 0 60 cs
  match cs with
  | '.' :: c :: rest => if isDigit c then some (rest.dropWhile isDigit) else some cs
  | _ => some cs

/-- The characters behind an hour and its colon, if a time starts here. -/
def timeStart? (cs : List Char) : Option (List Char) := do
  let (_, cs) ← twoDigits? 0 23 cs
  expect ':' cs

/-- Read the distance from universal time; it may be missing. -/
def offset? : List Char → Option (List Char)
  | 'Z' :: cs => some cs
  | 'z' :: cs => some cs
  | '+' :: cs => hoursAndMinutes cs
  | '-' :: cs => hoursAndMinutes cs
  | cs => some cs
where
  /-- Read the hours and minutes of a distance. -/
  hoursAndMinutes (cs : List Char) : Option (List Char) := do
    let cs ← timeStart? cs
    let (_, cs) ← twoDigits? 0 59 cs
    return cs

/-- The year of a date that starts here, and the characters behind its hyphen. -/
def dateStart? : List Char → Option (Nat × List Char)
  | a :: b :: c :: d :: '-' :: cs =>
    if [a, b, c, d].all isDigit then (numeral? 10 [a, b, c, d]).map (·, cs) else none
  | _ => none

/-- Read the time that may follow a date. -/
def timeAfterDate? : List Char → Option (List Char)
  | c :: cs =>
    if c == 'T' || c == 't' || c == ' ' then
      match timeStart? cs with
      | some rest => (minuteAndSecond? rest).bind offset?
      | none => some (c :: cs)
    else some (c :: cs)
  | [] => some []

/-- What stands for a date: no record has a field of this name. -/
def date : Datum := .map [(.text "date-time", .text "")]

/-- Read a date, a time or a number. -/
def numeric? (cs : List Char) : Option (Datum × List Char) :=
  match dateStart? cs with
  | some (year, rest) => ((monthAndDay? year rest).bind timeAfterDate?).map (date, ·)
  | none =>
    match timeStart? cs with
    | some rest => (minuteAndSecond? rest).map (date, ·)
    | none => number? cs

end ReactorNet.Toml
