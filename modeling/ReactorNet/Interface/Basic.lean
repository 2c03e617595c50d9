import ReactorNet.Allocation.Basic
import ReactorNet.Interface.Declaration

/-!
# `ReactorNet.Interface.Basic` · the interfaces of a federate

An interface has a name, an address or device that was claimed for it (`Carrier.claim`), and the
endpoints that channels have minted on it.

All members of a bank share one declaration, so each shifts a declared address by its own index,
counted from one: the member with index 1 has the address as declared.
-/

namespace ReactorNet

/-- A channel implementation of the program's own. None of it is looked into. -/
structure CustomChannel where
  /-- The header that holds the implementation. -/
  header : String
  /-- The constructor symbol. -/
  symbol : String
  /-- The arguments of the constructor. -/
  args : String
deriving DecidableEq, Repr

/-- The constructor symbol of a custom channel that names none. -/
def CustomChannel.defaultSymbol : String := "CustomChannel_ctor"

/-- A serial device with the settings of its line. -/
structure SerialPort where
  /-- The number of the device. -/
  device : Nat
  /-- The settings. -/
  line : UartLine
deriving DecidableEq, Repr

/-- What an interface is bound to. -/
inductive Binding where
  /-- An address for TCP. -/
  | tcp (address : Address)
  /-- A serial device. -/
  | uart (port : SerialPort)
  /-- An address for CoAP. -/
  | coap (address : Address)
  /-- An implementation of the program's own. -/
  | custom (channel : CustomChannel)
deriving DecidableEq, Repr

/-- The protocol that a binding speaks. -/
def Binding.protocol : Binding → Protocol
  | tcp _ => .tcp
  | uart _ => .uart
  | coap _ => .coap
  | custom _ => .custom

/-- The address that a binding has. -/
def Binding.address? : Binding → Option Address
  | tcp a => some a
  | coap a => some a
  | uart _ => none
  | custom _ => none

/-- One end of a channel, on the interface that minted it. -/
inductive Endpoint where
  /-- An end of a TCP channel; the one that listens has a port. -/
  | tcp (address : Address) (port : Option Nat)
  /-- An end of a serial line. -/
  | uart (port : SerialPort)
  /-- An end of a CoAP channel. -/
  | coap (address : Address)
  /-- An end of a custom channel. -/
  | custom (channel : CustomChannel)
deriving DecidableEq, Repr

/-- The protocol that an endpoint speaks. -/
def Endpoint.protocol : Endpoint → Protocol
  | tcp .. => .tcp
  | uart _ => .uart
  | coap _ => .coap
  | custom _ => .custom

/-- An interface of a federate. -/
structure Interface where
  /-- The name. -/
  name : String
  /-- What it is bound to. -/
  binding : Binding
  /-- The endpoints minted so far. -/
  endpoints : List Endpoint := []
deriving DecidableEq, Repr

/-- The protocol that an interface speaks. -/
def Interface.protocol (i : Interface) : Protocol := i.binding.protocol

/-- The interface of a federate that declares none. -/
def Interface.loopback : Interface := ⟨Protocol.tcp.tag ++ "_0", .tcp .loopback, []⟩

/-- How far a member of a bank shifts an address. Indices are words of 64 bits, and the shift is the
signed word that lies one below. -/
def bankShift (index : Nat) : Int := (Int64.ofNat index - 1).toInt

/-- The address that a literal stands for in a federate. -/
def memberAddress (bank : Option Nat) (literal : String) : Except InterfaceFault Address := do
  let a ← Address.read literal
  match bank with
  | some index => a.shift (bankShift index)
  | none => .ok a

/-- Claim the address that a declared interface of a federate asks for. -/
def claimDeclaredAddress (bank : Option Nat) (declared : Option String) (s : Allocation) :
    Except InterfaceFault (Address × Allocation) :=
  match declared with
  | none => .ok (.loopback, s)
  | some literal => do
    let a ← memberAddress bank literal
    (s.claimAddress a).map (a, ·)

/-- Claim the device that a declared interface asks for. -/
def claimDeclaredDevice (declared : Option Nat) (s : Allocation) :
    Except InterfaceFault (Nat × Allocation) :=
  match declared with
  | some device => (s.reserveDevice device).map (device, ·)
  | none => s.takeDevice

/-- Claim what a declared interface of a federate needs. -/
def Carrier.claim (bank : Option Nat) (c : Carrier) (s : Allocation) :
    Except InterfaceFault (Binding × Allocation) :=
  match c with
  | .tcp declared => (claimDeclaredAddress bank declared s).map fun (a, s) => (.tcp a, s)
  | .coap declared => (claimDeclaredAddress bank declared s).map fun (a, s) => (.coap a, s)
  | .uart declared line =>
    (claimDeclaredDevice declared s).map fun (d, s) => (.uart ⟨d, line⟩, s)
  | .custom header symbol args =>
    .ok (.custom ⟨header, symbol.getD CustomChannel.defaultSymbol, args⟩, s)

end ReactorNet
