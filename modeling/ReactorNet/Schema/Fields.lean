/-!
# `ReactorNet.Schema.Fields` · the fields of a record

A record of a description names its fields, or lists their values in the order of their declaration.
Reading a record reads every declared field; a field that is absent takes its default, a field that
was given twice is at fault, and whatever else was given is left aside.

The entries of a record are read in their order, so of several faults the one in the earliest entry
is the fault of the record. A field that is missing is found last of all.
-/

namespace ReactorNet.Schema

/-- Why a value does not fit the schema, apart from the reasons `ε` of the conversions. -/
inductive Misfit (ε : Type) where
  /-- The value has another shape than the schema asks for. -/
  | shape
  /-- A conversion refused the value. -/
  | refused (reason : ε)
deriving Repr, DecidableEq

/-- What names a field or a variant: its name, or its number in the order of declaration. -/
inductive Key where
  /-- The name. -/
  | name (s : String)
  /-- The number. -/
  | ordinal (n : Nat)
deriving Repr, DecidableEq

/-- Whether a key names the field or variant with the given number and name. -/
def Key.names (key : Key) (number : Nat) (name : String) : Bool :=
  match key with
  | .name s => s == name
  | .ordinal n => n == number

/-- The fields of a record as they were given. -/
inductive Fields (σ : Type) where
  /-- Keys and values, in the order of the entries. -/
  | named (entries : List (Key × σ))
  /-- Values in the order of declaration; `exact` if there may not be more values than fields. -/
  | listed (exact : Bool) (values : List σ)

/-- A value read from some entries of a record, or the earliest fault and the entry it is in. -/
structure Parsed (ε α : Type) where
  /-- The value or the fault. -/
  outcome : Except (Nat × Misfit ε) α

namespace Parsed

/-- A fault in the entry with the given number. -/
def fault {ε α : Type} (entry : Nat) (m : Misfit ε) : Parsed ε α := ⟨.error (entry, m)⟩

/-- Apply what was read from some entries to what was read from others. -/
def apply {ε α β : Type} (f : Parsed ε (α → β)) (a : Parsed ε α) : Parsed ε β :=
  match f.outcome, a.outcome with
  | .ok f, .ok a => ⟨.ok (f a)⟩
  | .error e, .ok _ => ⟨.error e⟩
  | .ok _, .error e => ⟨.error e⟩
  | .error e, .error e' => ⟨.error (if e'.1 < e.1 then e' else e)⟩

instance {ε : Type} : Applicative (Parsed ε) where
  pure a := ⟨.ok a⟩
  seq f a := f.apply (a ())

/-- What was read, without the place of the fault. -/
def result {ε α : Type} (p : Parsed ε α) : Except (Misfit ε) α := p.outcome.mapError (·.2)

end Parsed

namespace Fields

variable {σ ε α : Type}

/-- The number of entries. -/
def size : Fields σ → Nat
  | named entries => entries.length
  | listed _ values => values.length

/-- The entries that give the field with the given number and name, and where they stand. -/
def given (fs : Fields σ) (number : Nat) (name : String) : List (Nat × σ) :=
  match fs with
  | named entries =>
    entries.zipIdx.filterMap fun e => if e.1.1.names number name then some (e.2, e.1.2) else none
  | listed _ values => (values[number]?.map (number, ·)).toList

/-- Read the field with the given number and name. -/
def field (fs : Fields σ) (number : Nat) (name : String) (default? : Option α)
    (read : σ → Except (Misfit ε) α) : Parsed ε α :=
  match fs.given number name with
  | [] =>
    match default? with
    | some a => ⟨.ok a⟩
    | none => .fault fs.size .shape
  | [(entry, v)] => ⟨(read v).mapError (entry, ·)⟩
  | (entry, v) :: (again, _) :: _ =>
    match read v with
    | .ok _ => .fault again .shape
    | .error m => .fault entry m

/-- Make sure that a record of `count` fields was not given more values than that. -/
def close (fs : Fields σ) (count : Nat) : Parsed ε Unit :=
  match fs with
  | named _ => ⟨.ok ()⟩
  | listed exact values =>
    if exact && count < values.length then .fault values.length .shape else ⟨.ok ()⟩

end Fields

end ReactorNet.Schema
