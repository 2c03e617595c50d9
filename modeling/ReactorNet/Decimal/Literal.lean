import ReactorNet.Text.Numeral

/-!
# `ReactorNet.Decimal.Literal` · reading a decimal

The unsigned decimal grammar shared by the description formats — digits, an optional point with
digits, an optional exponent, at least one digit before the exponent — and the double nearest to the
decimal that was read. Which of the optional parts a format admits, and which signs, is decided by
the format.
-/

namespace ReactorNet.Decimal

open ReactorNet.Text

/-- The decimal `significand · 10 ^ exponent` of a literal. -/
structure Literal where
  /-- All digits of the literal as one number. -/
  significand : Nat
  /-- The power of ten they are scaled by. -/
  exponent : Int

/-- The value of digits that are known to be digits. -/
def digitsValue (cs : List Char) : Nat := (numeralFrom 10 0 cs).getD 0

/-- The exponent part of a literal: nothing, or `e` or `E`, a sign and digits. -/
def exponent? : List Char → Option Int
  | [] => some 0
  | c :: cs =>
    if c == 'e' || c == 'E' then
      match cs with
      | '-' :: ds => (numeral? 10 ds).map fun n => -(n : Int)
      | '+' :: ds => (numeral? 10 ds).map fun n => (n : Int)
      | ds => (numeral? 10 ds).map fun n => (n : Int)
    else none

/-- Read an unsigned decimal literal from the whole text. -/
def Literal.read? (cs : List Char) : Option Literal :=
  let whole := cs.takeWhile isDigit
  let rest := cs.dropWhile isDigit
  let (fraction, rest) := match rest with
    | '.' :: more => (more.takeWhile isDigit, more.dropWhile isDigit)
    | other => ([], other)
  if whole.isEmpty && fraction.isEmpty then none
  else
    (exponent? rest).map fun e => ⟨digitsValue (whole ++ fraction), e - fraction.length⟩

/-- The double nearest to `significand · 10 ^ exponent`. Literals far outside the range of doubles
are settled by their size alone. -/
def Literal.toFloat (l : Literal) : Float :=
  let size : Int := (toString l.significand).length + l.exponent
  if l.significand == 0 || size < -400 then 0.0
  else if 400 < size then 1.0 / 0.0
  else Float.ofScientific l.significand (l.exponent < 0) l.exponent.natAbs

end ReactorNet.Decimal
