import ReactorNet.Address.Text
import ReactorNet.Protocol

/-!
# `ReactorNet.Interface.Fault` · what can go wrong with interfaces and their channels

The causes for which an interface cannot be built or a channel cannot be laid: an address, port or
device that is malformed, out of range, taken or exhausted, a name that is unknown or given twice,
and two ends that speak different protocols. All of them trace back to the program.
-/

namespace ReactorNet

/-- Who has to act on a fault. -/
inductive Blame where
  /-- The author of the program. -/
  | configuration
  /-- The author of this library: something that cannot happen happened. -/
  | internal
deriving DecidableEq, Repr

/-- The name in reports. -/
def Blame.name : Blame → String
  | configuration => "configuration"
  | internal => "internal"

/-- The title in messages. -/
def Blame.title : Blame → String
  | configuration => "configuration error"
  | internal => "internal error"

/-- What can go wrong with interfaces and their channels. -/
inductive InterfaceFault where
  /-- A literal is no address. -/
  | malformedAddress (literal : String)
  /-- An address that must not be shared was claimed before. -/
  | duplicateAddress (address : Address)
  /-- A member of a bank has no address of its own within the limits. -/
  | addressOverflow (address : Address) (offset : Int)
  /-- A port was claimed before. -/
  | portInUse (address : Address) (port : Nat)
  /-- A port may not be asked for. -/
  | portOutOfRange (port : Nat)
  /-- A device was claimed before. -/
  | deviceInUse (device : Nat)
  /-- There is no such device. -/
  | deviceOutOfRange (device : Nat)
  /-- Every port of an address is claimed. -/
  | noPortLeft (address : Address)
  /-- Every device is claimed. -/
  | noDeviceLeft
  /-- A federate has no interface of that name. -/
  | unknownInterface (name : String)
  /-- The two ends of a channel speak different protocols. -/
  | protocolMismatch (source destination : Protocol)
  /-- Two interfaces of a federate have the same name. -/
  | declaredTwice (name : String)
deriving DecidableEq, Repr

namespace InterfaceFault

/-- The word for a malformed literal of a family. -/
def syntaxComplaint : AddressFamily → String
  | .v4 => "invalid IPv4 address syntax"
  | .v6 => "invalid IPv6 address syntax"

/-- The category that a fault is reported under. -/
def category : InterfaceFault → String
  | malformedAddress _ => "invalid_address"
  | duplicateAddress _ => "duplicate_address"
  | addressOverflow .. => "address_overflow"
  | portInUse .. => "port_in_use"
  | portOutOfRange _ => "port_out_of_range"
  | deviceInUse _ => "device_in_use"
  | deviceOutOfRange _ => "device_out_of_range"
  | noPortLeft _ => "resource_exhausted"
  | noDeviceLeft => "resource_exhausted"
  | unknownInterface _ => "unknown_interface"
  | protocolMismatch .. => "channel_type_mismatch"
  | declaredTwice _ => "configuration"

/-- The message of a fault. -/
def message : InterfaceFault → String
  | malformedAddress literal =>
    "Invalid address `" ++ literal ++ "`: " ++ syntaxComplaint (Address.literalFamily literal)
  | duplicateAddress a => "Address " ++ a.text ++ " is already used by another interface"
  | addressOverflow a n => "Address " ++ a.text ++ " cannot be offset by " ++ toString n
  | portInUse a p => "Port " ++ toString p ++ " on " ++ a.text ++ " is already in use"
  | portOutOfRange p => "Port " ++ toString p ++ " is out of range"
  | deviceInUse d => "UART device " ++ toString d ++ " is already in use"
  | deviceOutOfRange d => "UART device " ++ toString d ++ " is out of range"
  | noPortLeft a => "Resource exhausted: tcp ports: no free port left on " ++ a.text
  | noDeviceLeft => "Resource exhausted: uart devices: no free UART device left"
  | unknownInterface name => "Unknown interface `" ++ name ++ "`"
  | protocolMismatch s d =>
    "Cannot connect a " ++ s.title ++ " interface to a " ++ d.title ++ " interface"
  | declaredTwice name => "Configuration error: Interface `" ++ name ++ "` is declared twice"

/-- The field that a fault is about, where one is named. -/
def field? : InterfaceFault → Option String
  | declaredTwice _ => some "interfaces.name"
  | _ => none

end InterfaceFault

/-- Read an address literal, or tell that it is none. -/
def Address.read (literal : String) : Except InterfaceFault Address :=
  match Address.read? literal with
  | some a => .ok a
  | none => .error (.malformedAddress literal)

/-- Shift an address, or tell that it leaves the limits. -/
def Address.shift (a : Address) (n : Int) : Except InterfaceFault Address :=
  match a.shift? n with
  | some b => .ok b
  | none => .error (.addressOverflow a n)

end ReactorNet
