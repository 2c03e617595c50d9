import ReactorNet.Schema.Format

/-!
# `ReactorNet.Schema.Settled` · formats whose values are typed from the start

Three formats over `Datum`. `Format.json` reads JSON values. `Format.toml` reads the values of a
TOML text, in which nothing is ever absent. `Format.content` reads what stands besides the tag of a
tagged union; it was collected before anyone knew which variant it belongs to.
-/

namespace ReactorNet.Schema

namespace Datum

/-- The truth value of a typed value. -/
def bool? : Datum → Option Bool
  | bool b => some b
  | _ => none

/-- The whole number of a typed value. -/
def int? : Datum → Option Int
  | int n => some n
  | _ => none

/-- The natural number of a typed value. -/
def nat? : Datum → Option Nat
  | int n => if 0 ≤ n then some n.toNat else none
  | _ => none

/-- The double of a typed value. Whole numbers are doubles too, rounded to the nearest one. -/
def float? : Datum → Option Float
  | float x => some x
  | int n => some (if n < 0 then -(Float.ofNat n.natAbs) else Float.ofNat n.toNat)
  | _ => none

/-- The text of a typed value. -/
def text? : Datum → Option String
  | text s => some s
  | _ => none

/-- The items of a typed value. -/
def list? : Datum → Option (List Datum)
  | list items => some items
  | _ => none

/-- An optional part that is absent when the value is null. -/
def nullable? : Datum → Option (Option Datum)
  | null => some none
  | v => some (some v)

/-- The key of a field that is named by a text only. -/
def textKey? : Datum → Option Key
  | text s => some (.name s)
  | _ => none

/-- The key of a field that is named by a text or a number. -/
def anyKey? : Datum → Option Key
  | text s => some (.name s)
  | int n => if 0 ≤ n then some (.ordinal n.toNat) else none
  | _ => none

/-- The fields of a record: a map whose keys are admitted, or a list in the order of declaration. -/
def record? (key? : Datum → Option Key) (exact : Bool) : Datum → Option (Fields Datum)
  | map entries => (entries.mapM fun e => (key? e.1).map (·, e.2)).map .named
  | list values => some (.listed exact values)
  | _ => none

/-- The variant a value names: a text, or a map from one admitted key to a value without content. -/
def variant? (key? : Datum → Option Key) (isBare : Datum → Bool) : Datum → Option Key
  | text s => some (.name s)
  | map [(k, v)] => if isBare v then key? k else none
  | _ => none

/-- Whether a value is null. -/
def isNull : Datum → Bool
  | null => true
  | _ => false

/-- Whether a value is an empty map. -/
def isEmptyMap : Datum → Bool
  | map [] => true
  | _ => false

/-- Whether a value is an empty list. -/
def isEmptyList : Datum → Bool
  | list [] => true
  | _ => false

/-- The tag and the content of a tagged union. Exactly one entry of a map is the tag; in a list the
tag comes first. -/
def tagged? (tag : String) : Datum → Option (String × Datum)
  | map entries =>
    let isTag (k : Datum) : Bool := k.text? == some tag
    match entries.filter fun e => isTag e.1 with
    | [(_, text variant)] => some (variant, map (entries.filter fun e => !isTag e.1))
    | _ => none
  | list (text variant :: content) => some (variant, list content)
  | _ => none

end Datum

namespace Format

open Datum

/-- The format of JSON values. -/
def json : Format Datum where
  bool? := Datum.bool?
  nat? := Datum.nat?
  int? := Datum.int?
  float? := Datum.float?
  text? := Datum.text?
  optional? := Datum.nullable?
  list? := Datum.list?
  record? := Datum.record? textKey? true
  variant? := Datum.variant? textKey? isNull
  tagged? := Datum.tagged?

/-- The format of the values of a TOML text. -/
def toml : Format Datum where
  bool? := Datum.bool?
  nat? := Datum.nat?
  int? := Datum.int?
  float? := Datum.float?
  text? := Datum.text?
  optional? v := some (some v)
  list? := Datum.list?
  record? := Datum.record? textKey? false
  variant? := Datum.variant? textKey? fun v => v.isEmptyMap || v.isEmptyList
  tagged? := Datum.tagged?

/-- The format of what stands besides the tag of a tagged union. -/
def content : Format Datum where
  bool? := Datum.bool?
  nat? := Datum.nat?
  int? := Datum.int?
  float? := Datum.float?
  text? := Datum.text?
  optional? := Datum.nullable?
  list? := Datum.list?
  record? := Datum.record? anyKey? true
  variant? := Datum.variant? anyKey? fun v => v.isNull || v.isEmptyMap
  tagged? := Datum.tagged?

end Format

end ReactorNet.Schema
