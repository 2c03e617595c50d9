import ReactorNet.Protocol
import ReactorNet.Uart

/-!
# `ReactorNet.Interface.Declaration` · interfaces as they are declared

What the description of an instance says about one of its interfaces. Addresses are literals and
devices may be left open: they are settled when a federate claims its interfaces.
-/

namespace ReactorNet

/-- What an interface is declared to be. -/
inductive Carrier where
  /-- TCP, at an address. -/
  | tcp (address : Option String)
  /-- A serial line, at a device. -/
  | uart (device : Option Nat) (line : UartLine)
  /-- CoAP, at an address. -/
  | coap (address : Option String)
  /-- An implementation of the program's own. -/
  | custom (header : String) (symbol : Option String) (args : String)
deriving DecidableEq, Repr

/-- The protocol of a declared interface. -/
def Carrier.protocol : Carrier → Protocol
  | tcp _ => .tcp
  | uart .. => .uart
  | coap _ => .coap
  | custom .. => .custom

/-- The address that a declared interface asks for. -/
def Carrier.address? : Carrier → Option String
  | tcp address => address
  | coap address => address
  | uart .. => none
  | custom .. => none

/-- A declared interface. -/
structure InterfaceDecl where
  /-- The name it is given. -/
  name : Option String
  /-- What it is. -/
  carrier : Carrier
deriving DecidableEq, Repr

/-- The name of an interface at the given position: the one it is given, or one made of its
protocol and position. -/
def InterfaceDecl.nameAt (d : InterfaceDecl) (position : Nat) : String :=
  match d.name with
  | some name => name
  | none => d.carrier.protocol.tag ++ "_" ++ toString position

end ReactorNet
