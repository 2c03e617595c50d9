import ReactorNet.Schema.Datum
import ReactorNet.Schema.Fields

/-!
# `ReactorNet.Schema.Format` · what a description format lets a reader ask

A schema is read the same way from every format; what differs is which values count as a truth
value, a number, a text, a list or a record. `Format` collects these answers for the values `σ` of
one format, and the readers below turn them into the parts of a schema.

Fields and their defaults belong to `Fields`, the formats to their own modules.
-/

namespace ReactorNet.Schema

/-- How the values of a format fit the parts of a schema. -/
structure Format (σ : Type) where
  /-- The truth value that a value stands for. -/
  bool? : σ → Option Bool
  /-- The natural number that a value stands for. -/
  nat? : σ → Option Nat
  /-- The whole number that a value stands for. -/
  int? : σ → Option Int
  /-- The double that a value stands for. -/
  float? : σ → Option Float
  /-- The text that a value stands for. -/
  text? : σ → Option String
  /-- What an optional part holds; `none` if the value is neither absent nor present. -/
  optional? : σ → Option (Option σ)
  /-- The items of a list. -/
  list? : σ → Option (List σ)
  /-- The fields of a record. -/
  record? : σ → Option (Fields σ)
  /-- The variant that a value names. -/
  variant? : σ → Option Key
  /-- The variant that the tag with the given name names, and the content besides the tag. -/
  tagged? : String → σ → Option (String × Datum)

/-- The largest value of an unsigned word with the given number of bits. -/
def maxWord (bits : Nat) : Nat := Nat.pow 2 bits - 1

namespace Format

variable {σ ε α : Type}

/-- A value that is there, or a misfit. -/
def demand (a? : Option α) : Except (Misfit ε) α :=
  match a? with
  | some a => .ok a
  | none => .error .shape

/-- Read a truth value. -/
def bool (f : Format σ) (v : σ) : Except (Misfit ε) Bool := demand (f.bool? v)

/-- Read an unsigned word with the given number of bits. -/
def word (f : Format σ) (bits : Nat) (v : σ) : Except (Misfit ε) Nat :=
  demand ((f.nat? v).filter (· ≤ maxWord bits))

/-- Read a signed word with the given number of bits. -/
def signed (f : Format σ) (bits : Nat) (v : σ) : Except (Misfit ε) Int :=
  demand ((f.int? v).filter fun n =>
    -(Nat.pow 2 (bits - 1) : Int) ≤ n && n < (Nat.pow 2 (bits - 1) : Int))

/-- Read a double. -/
def float (f : Format σ) (v : σ) : Except (Misfit ε) Float := demand (f.float? v)

/-- Read a text. -/
def text (f : Format σ) (v : σ) : Except (Misfit ε) String := demand (f.text? v)

/-- Read a text and convert it. -/
def converted (f : Format σ) (convert : String → Except ε α) (v : σ) : Except (Misfit ε) α :=
  match f.text? v with
  | some s => (convert s).mapError .refused
  | none => .error .shape

/-- Read an optional part. -/
def optional (f : Format σ) (read : σ → Except (Misfit ε) α) (v : σ) :
    Except (Misfit ε) (Option α) :=
  match f.optional? v with
  | none => .error .shape
  | some none => .ok none
  | some (some w) => (read w).map some

/-- Read a list. -/
def list (f : Format σ) (read : σ → Except (Misfit ε) α) (v : σ) : Except (Misfit ε) (List α) :=
  match f.list? v with
  | none => .error .shape
  | some items => items.mapM read

/-- Read the fields of a record. -/
def record (f : Format σ) (v : σ) : Except (Misfit ε) (Fields σ) := demand (f.record? v)

/-- Read a variant out of variants with the given names, in the order of declaration. -/
def variant (f : Format σ) (variants : List (String × α)) (v : σ) : Except (Misfit ε) α :=
  match f.variant? v with
  | none => .error .shape
  | some (.name s) => demand ((variants.find? fun w => w.1 == s).map (·.2))
  | some (.ordinal n) => demand (variants[n]?.map (·.2))

end Format

end ReactorNet.Schema
