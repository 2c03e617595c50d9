import ReactorNet.Yaml.Node
import ReactorNet.Decimal.Literal

/-!
# `ReactorNet.Yaml.Resolution` · what an unquoted scalar may stand for

The spellings of truth values, of nothing, of whole numbers and of doubles. They are those of the
YAML core schema with binary numbers added. A number never has more than one sign, digits that open
with a superfluous zero are no number, and a decimal beyond the range of doubles is none either.
-/

namespace ReactorNet.Yaml

open ReactorNet.Text ReactorNet.Decimal

/-- The truth value a text stands for. -/
def truth? (text : String) : Option Bool :=
  if text == "true" || text == "True" || text == "TRUE" then some true
  else if text == "false" || text == "False" || text == "FALSE" then some false
  else none

/-- Whether a text stands for nothing. -/
def isNull (text : String) : Bool :=
  text == "null" || text == "Null" || text == "NULL" || text == "~"

/-- Whether a text is digits that open with a superfluous zero, signed or not. -/
def isPaddedNumber (cs : List Char) : Bool :=
  let digits := match cs with
    | '-' :: r => r
    | '+' :: r => r
    | r => r
  match digits with
  | '0' :: c :: r => (c :: r).all isDigit
  | _ => false

/-- The value of a number in one of the three prefixed radices, without a sign. -/
def prefixed? : List Char → Option Nat
  | '0' :: 'x' :: ds => numeral? 16 ds
  | '0' :: 'o' :: ds => numeral? 8 ds
  | '0' :: 'b' :: ds => numeral? 2 ds
  | _ => none

/-- The value of an unsigned number, with or without a prefix. -/
def unsigned? (cs : List Char) : Option Nat :=
  match prefixed? cs with
  | some n => some n
  | none => if isPaddedNumber cs then none else numeral? 10 cs

/-- The natural number a text stands for; a plus sign may stand before it. -/
def natural? (text : String) : Option Nat :=
  match text.toList with
  | '+' :: cs => unsigned? cs
  | cs => unsigned? cs

/-- The negative number, or the negated zero, a text stands for. -/
def negative? (text : String) : Option Int :=
  match text.toList with
  | '-' :: cs => (unsigned? cs).map fun n => -(n : Int)
  | _ => none

/-- The whole number a text stands for. -/
def integer? (text : String) : Option Int :=
  match natural? text with
  | some n => some n
  | none => negative? text

/-- The finite double an unsigned decimal stands for. -/
def finite? (cs : List Char) : Option Float :=
  match Literal.read? cs with
  | some l => if l.toFloat.isFinite then some l.toFloat else none
  | none => none

/-- The double a text stands for. -/
def double? (text : String) : Option Float :=
  let infinity := 1.0 / 0.0
  let isInfinity (cs : List Char) : Bool :=
    cs == ".inf".toList || cs == ".Inf".toList || cs == ".INF".toList
  match text.toList with
  | '+' :: cs => if isInfinity cs then some infinity else finite? cs
  | '-' :: cs => if isInfinity cs then some (-infinity) else (finite? cs).map (-·)
  | cs =>
    if isInfinity cs then some infinity
    else if text == ".nan" || text == ".NaN" || text == ".NAN" then some (0.0 / 0.0)
    else finite? cs

/-- The double a text stands for when nothing says that it is a number. -/
def untypedDouble? (text : String) : Option Float :=
  if isPaddedNumber text.toList then none else double? text

/-- The tag of the core schema with the given name. -/
def coreTag (name : String) : String := "tag:yaml.org,2002:" ++ name

/-- The name of a local tag, one that opens with an exclamation mark. -/
def localTag? (mark : Mark) : Option String :=
  match mark.tag.map String.toList with
  | some ('!' :: name) => some (String.ofList name)
  | _ => none

end ReactorNet.Yaml
