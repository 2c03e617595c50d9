/-!
# `ReactorNet.Text.Numeral` · whole numbers written in a radix

The value of one digit, and the value of a text that consists of digits only. Signs, radix prefixes
and separators belong to the formats that use them and are not read here. Escapes write characters
by their code points; which numbers are code points is settled here too.
-/

namespace ReactorNet.Text

/-- The value of a digit in the given radix, letters of either case standing for ten and above. -/
def digitValue? (radix : Nat) (c : Char) : Option Nat :=
  let n := c.toNat
  let value :=
    if 48 ≤ n && n ≤ 57 then some (n - 48)
    else if 97 ≤ n && n ≤ 122 then some (n - 87)
    else if 65 ≤ n && n ≤ 90 then some (n - 55)
    else none
  value.filter (· < radix)

/-- The value of a run of digits continued from `acc`; `none` at the first other character. -/
def numeralFrom (radix : Nat) : Nat → List Char → Option Nat
  | acc, [] => some acc
  | acc, c :: cs =>
    match digitValue? radix c with
    | some d => numeralFrom radix (acc * radix + d) cs
    | none => none

/-- The value of a text of one or more digits. -/
def numeral? (radix : Nat) : List Char → Option Nat
  | [] => none
  | c :: cs => numeralFrom radix 0 (c :: cs)

/-- The character with the given code point, unless it is a surrogate or too large. -/
def character? (code : Nat) : Option Char :=
  if h : code.isValidChar then some (Char.ofNatAux code h) else none

/-- An ASCII decimal digit. -/
def isDigit (c : Char) : Bool := c.isDigit

end ReactorNet.Text
