/-!
# `ReactorNet.Port.Reference` · naming a port

A port belongs to an instance or to the program itself; `PortKey` names it. A connection statement
refers to a port by a `PortRef`, which says besides in which order the channels of the port are
counted. Both have a text form.
-/

namespace ReactorNet

/-- A port: the instance that contains it, if one does, and its name. -/
structure PortKey where
  /-- The containing instance; none for a port of the program itself. -/
  instanceName : Option String
  /-- The name of the port. -/
  port : String
deriving DecidableEq, Repr

/-- The path of a port: its name, behind the name of its instance and a dot. -/
def PortKey.text (k : PortKey) : String :=
  match k.instanceName with
  | some i => i ++ "." ++ k.port
  | none => k.port

/-- A reference to a port. -/
structure PortRef where
  /-- The port. -/
  key : PortKey
  /-- Whether the bank index varies fastest when the channels are counted. -/
  interleaved : Bool
deriving DecidableEq, Repr

namespace PortRef

/-- A reference to a port of an instance. -/
def ofInstance (instanceName port : String) : PortRef := ⟨⟨some instanceName, port⟩, false⟩

/-- A reference to a port of the program itself. -/
def ofProgram (port : String) : PortRef := ⟨⟨none, port⟩, false⟩

/-- The same port, counted with the bank index varying fastest. -/
def interleave (r : PortRef) : PortRef := { r with interleaved := true }

/-- What opens the text of an interleaved reference. -/
def interleavedOpening : String := "interleaved("

/-- The text of a reference. -/
def text (r : PortRef) : String :=
  if r.interleaved then interleavedOpening ++ r.key.text ++ ")" else r.key.text

end PortRef

end ReactorNet
