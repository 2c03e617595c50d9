/-!
# `ReactorNet.Json.Value` · JSON values

The values that descriptions and reports are exchanged in. Whole numbers and doubles are kept apart,
because a description distinguishes `8` from `8.0`, and the members of an object are a list, because
a report writes them in a fixed order.
-/

namespace ReactorNet

/-- A JSON value. -/
inductive Json where
  /-- The value `null`. -/
  | null
  /-- A truth value. -/
  | bool (b : Bool)
  /-- A number written without point and exponent. -/
  | int (n : Int)
  /-- Any other number. -/
  | float (x : Float)
  /-- A string. -/
  | str (s : String)
  /-- An array. -/
  | arr (items : List Json)
  /-- An object, its members in the order in which they are written. -/
  | obj (members : List (String × Json))

instance : Inhabited Json := ⟨.null⟩

namespace Json

/-- A natural number as JSON. -/
def nat (n : Nat) : Json := .int n

/-- An optional value as JSON, `null` when absent. -/
def ofOption {α : Type} (write : α → Json) : Option α → Json
  | some a => write a
  | none => .null

/-- A list as a JSON array. -/
def ofList {α : Type} (write : α → Json) (xs : List α) : Json := .arr (xs.map write)

/-- The member of an object with the given name. -/
def get? (name : String) : Json → Option Json
  | .obj members => (members.find? fun m => m.1 == name).map (·.2)
  | _ => none

/-- Whether the value is `null`. -/
def isNull : Json → Bool
  | .null => true
  | _ => false

/-- The string a value holds. -/
def str? : Json → Option String
  | .str s => some s
  | _ => none

/-- The truth value a value holds. -/
def bool? : Json → Option Bool
  | .bool b => some b
  | _ => none

/-- The whole number a value holds. -/
def int? : Json → Option Int
  | .int n => some n
  | _ => none

/-- The natural number a value holds. -/
def nat? : Json → Option Nat
  | .int n => if 0 ≤ n then some n.toNat else none
  | _ => none

/-- The items of an array. -/
def arr? : Json → Option (List Json)
  | .arr xs => some xs
  | _ => none

/-- The members of an object, with further ones put behind them. -/
def extend (more : List (String × Json)) : Json → Json
  | .obj members => .obj (members ++ more)
  | other => other

end Json

end ReactorNet
