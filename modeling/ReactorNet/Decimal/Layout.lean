import ReactorNet.Decimal.Shortest

/-!
# `ReactorNet.Decimal.Layout` · writing a double

How the digits of a double are laid out. Both report formats write the shortest digits that read
back, positionally when the leading digit stands for a power of ten between `10 ^ -5` and `10 ^ 15`
and with an exponent otherwise, and always so that the text is visibly not an integer. They differ
in the sign of a positive exponent and in what they write for values that are not finite; that is
what a `FloatStyle` records.
-/

namespace ReactorNet.Decimal

/-- What a format decides about the text of a double. -/
structure FloatStyle where
  /-- Whether a positive exponent carries a plus sign. -/
  plusExponent : Bool
  /-- The text of positive infinity. -/
  infinity : String
  /-- The text of negative infinity. -/
  negInfinity : String
  /-- The text of a value that is no number. -/
  notANumber : String

/-- The digits of a decimal with its point placed: all zeros needed to reach the point are
written, and an integral value ends in `.0`. -/
def layDigits (digits : String) (exp : Int) : String :=
  let point : Int := digits.length + exp
  if 0 ≤ exp then digits ++ String.ofList (List.replicate exp.toNat '0') ++ ".0"
  else if 0 < point then
    String.ofList (digits.toList.take point.toNat) ++ "." ++
      String.ofList (digits.toList.drop point.toNat)
  else "0." ++ String.ofList (List.replicate (-point).toNat '0') ++ digits

/-- The text of a decimal in a style: positional between `10 ^ -5` and `10 ^ 15`. -/
def Dec.layout (style : FloatStyle) (d : Dec) : String :=
  let digits := toString d.digits
  let leading : Int := digits.length + d.exp - 1
  if d.digits == 0 then "0.0"
  else if -5 ≤ leading && leading ≤ 15 then layDigits digits d.exp
  else
    let fraction := digits.toList.drop 1
    String.ofList (digits.toList.take 1) ++
      (if fraction.isEmpty then "" else "." ++ String.ofList fraction) ++ "e" ++
      (if leading < 0 then "-" else if style.plusExponent then "+" else "") ++
      toString leading.natAbs

/-- The text of a double in a style. -/
def FloatStyle.text (style : FloatStyle) (x : Float) : String :=
  if x.isNaN then style.notANumber
  else
    let bits := x.toBits
    let negative := bits >>> 63 == 1
    if x.isInf then (if negative then style.negInfinity else style.infinity)
    else (if negative then "-" else "") ++ (Binary.ofBits bits).shortest.layout style

end ReactorNet.Decimal
