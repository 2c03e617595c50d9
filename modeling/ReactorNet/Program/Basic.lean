import ReactorNet.ClockSync
import ReactorNet.Interface.Declaration
import ReactorNet.Link
import ReactorNet.Port.Reference

/-!
# `ReactorNet.Program.Basic` · programs

A reactor program as far as its network goes: instances with ports and interfaces, the ports of the
program itself, and the statements that connect them. `Program.shape?` looks up how many channels a
reference stands for.
-/

namespace ReactorNet

/-- A declared port. -/
structure Port where
  /-- The name. -/
  name : String
  /-- The number of channels. -/
  width : Nat := 1
deriving DecidableEq, Repr

/-- An instance of a reactor. -/
structure Instance where
  /-- The name. -/
  name : String
  /-- The number of members, if it is a bank. -/
  bankWidth : Option Nat := none
  /-- The ports of every member. -/
  ports : List Port := []
  /-- The interfaces of every member; the first is the default one. -/
  interfaces : List InterfaceDecl := []
  /-- The clock synchronization, where it differs from the default. -/
  clockSync : Option ClockSync := none
  /-- When the members join. -/
  joiningPolicy : JoiningPolicy := .immediately

/-- The bank indices of the members; an instance that is no bank has one member without an index. -/
def Instance.members (i : Instance) : List (Option Nat) :=
  match i.bankWidth with
  | some width => (List.range width).map some
  | none => [none]

/-- A connection statement. -/
structure Statement where
  /-- The ports that the data leave. -/
  left : List PortRef
  /-- The ports that the data enter. -/
  right : List PortRef
  /-- The delay in nanoseconds. -/
  delayNs : Option Nat := none
  /-- Whether the data carry the time of their arrival instead of that of their departure. -/
  physical : Bool := false
  /-- Whether the left side is repeated until the right side is served. -/
  iterated : Bool := false
  /-- The number of pending events that the connection buffers. -/
  bufferSize : Option Nat := none
  /-- The network channel. -/
  link : Option Link := none
deriving DecidableEq, Repr

/-- The pending events of a statement: those it asks for, and one if it asks for none. -/
def Statement.pendingEvents (s : Statement) : Nat :=
  match s.bufferSize with
  | some n => max n 1
  | none => 1

/-- A program. -/
structure Program where
  /-- The name. -/
  name : String
  /-- Whether every instance is deployed on its own. -/
  federated : Bool := false
  /-- The ports of the program itself. -/
  ports : List Port := []
  /-- The instances. -/
  instances : List Instance := []
  /-- The connection statements. -/
  statements : List Statement := []

namespace Program

/-- The instance with the given name. -/
def instance? (p : Program) (name : String) : Option Instance :=
  p.instances.find? fun i => i.name == name

/-- The bank width and the port width of the port with the given key. -/
def shape? (p : Program) (key : PortKey) : Option (Nat × Nat) :=
  match key.instanceName with
  | some name => do
    let i ← p.instance? name
    let port ← i.ports.find? fun q => q.name == key.port
    return (i.bankWidth.getD 1, port.width)
  | none => do
    let port ← p.ports.find? fun q => q.name == key.port
    return (1, port.width)

end Program

end ReactorNet
