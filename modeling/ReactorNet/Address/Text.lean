import ReactorNet.Address.Basic
import ReactorNet.Text.Blank
import ReactorNet.Text.Numeral

/-!
# `ReactorNet.Address.Text` · how addresses are written and read

The standard text of an address, and the reader of address literals. Version 4 is written as four
decimal octets. Version 6 is written in lower-case hexadecimal segments with the longest run of zero
segments left out, the first of several longest ones; an address that maps one of version 4 ends in
that one.

**What the reader admits.** More than is written: capital digits, superfluous zeros in segments
(not in octets), any run of zeros left out, an embedded version 4 address at the end, and white
space around the literal. A literal with a colon is of version 6.
-/

namespace ReactorNet.Address

open ReactorNet.Text

/-! ## Writing -/

/-- The text of four octets. -/
def octetText (a b c d : UInt8) : String :=
  ".".intercalate ([a, b, c, d].map fun x => toString x.toNat)

/-- The text of a segment. -/
def segmentText (s : UInt16) : String := String.ofList (Nat.toDigits 16 s.toNat)

/-- The text of consecutive segments. -/
def segmentsText (ss : List UInt16) : String := ":".intercalate (ss.map segmentText)

/-- Where the longest run of zeros in a list starts, and its length; of several longest runs, the
first. The run at hand and the longest one so far are handed on. -/
def longestZeros : (position : Nat) → (run best : Nat × Nat) → List UInt16 → Nat × Nat
  | _, _, best, [] => best
  | i, run, best, s :: ss =>
    if s == 0 then
      let run := if run.2 == 0 then (i, 1) else (run.1, run.2 + 1)
      longestZeros (i + 1) run (if best.2 < run.2 then run else best) ss
    else longestZeros (i + 1) (0, 0) best ss

/-- The text of eight segments with the longest run of two or more zeros left out. -/
def compressed (ss : List UInt16) : String :=
  let (start, length) := longestZeros 0 (0, 0) (0, 0) ss
  if 1 < length then segmentsText (ss.take start) ++ "::" ++ segmentsText (ss.drop (start + length))
  else segmentsText ss

/-- The high and the low octet of a segment. -/
def octetsOf (s : UInt16) : UInt8 × UInt8 := ((s >>> 8).toUInt8, s.toUInt8)

/-- The text of an address. -/
def text : Address → String
  | .v4 a b c d => octetText a b c d
  | .v6 a b c d e f g h =>
    if [a, b, c, d, e] == [0, 0, 0, 0, 0] && f == 0xFFFF then
      let (g, g') := octetsOf g
      let (h, h') := octetsOf h
      "::ffff:" ++ octetText g g' h h'
    else compressed [a, b, c, d, e, f, g, h]

/-! ## Reading -/

/-- Read an octet: up to three digits without a superfluous zero. -/
def octet? (cs : List Char) : Option (UInt8 × List Char) :=
  let ds := cs.takeWhile isDigit
  if 3 < ds.length || (ds.head? == some '0' && 1 < ds.length) then none
  else
    match numeral? 10 ds with
    | some n => if n < 256 then some (.ofNat n, cs.dropWhile isDigit) else none
    | none => none

/-- Read an octet behind a dot. -/
def dotOctet? : List Char → Option (UInt8 × List Char)
  | '.' :: cs => octet? cs
  | _ => none

/-- Read four octets. -/
def octets? (cs : List Char) : Option ((UInt8 × UInt8 × UInt8 × UInt8) × List Char) := do
  let (a, cs) ← octet? cs
  let (b, cs) ← dotOctet? cs
  let (c, cs) ← dotOctet? cs
  let (d, cs) ← dotOctet? cs
  return ((a, b, c, d), cs)

/-- A hexadecimal digit of either case. -/
def isHexDigit (c : Char) : Bool := (digitValue? 16 c).isSome

/-- Read a segment: up to four hexadecimal digits. -/
def segment? (cs : List Char) : Option (UInt16 × List Char) :=
  let ds := cs.takeWhile isHexDigit
  if 4 < ds.length then none
  else (numeral? 16 ds).map fun n => (.ofNat n, cs.dropWhile isHexDigit)

/-- The characters from which a further segment is read: behind a colon, unless it is the first. -/
def behindColon? (first : Bool) (cs : List Char) : Option (List Char) :=
  match first, cs with
  | true, cs => some cs
  | false, ':' :: cs => some cs
  | false, _ => none

/-- Segments that stand side by side in a literal. -/
structure Segments where
  /-- The segments. -/
  values : List UInt16
  /-- Whether the last two were written as four octets. -/
  endsInOctets : Bool
  /-- The characters behind them. -/
  rest : List Char

/-- The segment that two octets make up. -/
def segmentOf (high low : UInt8) : UInt16 := high.toUInt16 <<< 8 ||| low.toUInt16

/-- Read as many segments as there are, but not more than there is room for. Four octets count as
two segments and end the run. -/
def segments : (room : Nat) → (first : Bool) → List Char → Segments
  | 0, _, cs => ⟨[], false, cs⟩
  | room + 1, first, cs =>
    match behindColon? first cs with
    | none => ⟨[], false, cs⟩
    | some inner =>
      match if room == 0 then none else octets? inner with
      | some ((a, b, c, d), rest) => ⟨[segmentOf a b, segmentOf c d], true, rest⟩
      | none =>
        match segment? inner with
        | some (s, rest) =>
          let more := segments room false rest
          ⟨s :: more.values, more.endsInOctets, more.rest⟩
        | none => ⟨[], false, cs⟩

/-- The address of eight segments. -/
def ofSegments? : List UInt16 → Option Address
  | [a, b, c, d, e, f, g, h] => some (.v6 a b c d e f g h)
  | _ => none

/-- Read a version 6 address. Where `::` stands, at least one segment is left out. -/
def readV6? (cs : List Char) : Option Address :=
  let head := segments 8 true cs
  if head.values.length == 8 then if head.rest.isEmpty then ofSegments? head.values else none
  else if head.endsInOctets then none
  else
    match head.rest with
    | ':' :: ':' :: cs =>
      let tail := segments (7 - head.values.length) true cs
      let gap := 8 - head.values.length - tail.values.length
      if tail.rest.isEmpty then ofSegments? (head.values ++ List.replicate gap 0 ++ tail.values)
      else none
    | _ => none

/-- Read a version 4 address. -/
def readV4? (cs : List Char) : Option Address :=
  match octets? cs with
  | some ((a, b, c, d), []) => some (.v4 a b c d)
  | _ => none

/-- The family that an address literal is written in. -/
def literalFamily (literal : String) : AddressFamily :=
  if literal.toList.contains ':' then .v6 else .v4

/-- Read an address literal. -/
def read? (literal : String) : Option Address :=
  let cs := trim literal.toList
  match literalFamily literal with
  | .v6 => readV6? cs
  | .v4 => readV4? cs

end ReactorNet.Address
