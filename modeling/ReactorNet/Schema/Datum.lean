import ReactorNet.Json.Value

/-!
# `ReactorNet.Schema.Datum` · values whose types are settled

The values that a description consists of once every scalar has a type. JSON and TOML texts consist
of such values from the start; a YAML scalar becomes one only where nothing says what it should be.
Keys are values too, because YAML admits keys of every type.
-/

namespace ReactorNet.Schema

/-- A typed value. -/
inductive Datum where
  /-- Nothing. -/
  | null
  /-- A truth value. -/
  | bool (b : Bool)
  /-- A whole number. -/
  | int (n : Int)
  /-- A double. -/
  | float (x : Float)
  /-- A text. -/
  | text (s : String)
  /-- A list. -/
  | list (items : List Datum)
  /-- Entries of keys and values, in order. -/
  | map (entries : List (Datum × Datum))

instance : Inhabited Datum := ⟨.null⟩

mutual

/-- A JSON value as a typed value. -/
def Datum.ofJson : Json → Datum
  | .null => .null
  | .bool b => .bool b
  | .int n => .int n
  | .float x => .float x
  | .str s => .text s
  | .arr items => .list (Datum.ofItems items)
  | .obj members => .map (Datum.ofMembers members)

/-- The items of a JSON array as typed values. -/
def Datum.ofItems : List Json → List Datum
  | [] => []
  | x :: xs => Datum.ofJson x :: Datum.ofItems xs

/-- The members of a JSON object as entries. -/
def Datum.ofMembers : List (String × Json) → List (Datum × Datum)
  | [] => []
  | (k, v) :: ms => (.text k, Datum.ofJson v) :: Datum.ofMembers ms

end

end ReactorNet.Schema
