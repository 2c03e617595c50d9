import ReactorNet.Interface.Fault
import ReactorNet.Port.Reference
import ReactorNet.Program.Loading

/-!
# `ReactorNet.Federation.Fault` · why a program has no topology

The causes for which a program cannot be resolved: statements whose sides do not fit, references to
unknown ports, faults of interfaces with the federate or the bundle they belong to, and descriptions
that cannot be loaded. A few cannot happen to a program that is checked before; they are marked as
internal.
-/

namespace ReactorNet

/-- Why a program has no topology. -/
inductive ResolutionFault where
  /-- Two ports that face each other in a statement have different numbers of channels. -/
  | widthMismatch (statement : Nat) (left right : PortRef) (leftCount rightCount : Nat)
  /-- A side of a statement has no channels to pair. -/
  | emptySide (statement : Nat)
  /-- The sides of a statement name different numbers of ports. -/
  | unpaired (statement leftCount rightCount : Nat)
  /-- More channels of a port were asked for than are left. -/
  | underflow (port : PortKey) (requested left : Nat)
  /-- A reference names no declared port. -/
  | unknownPort (ref : PortRef)
  /-- The interfaces of a federate cannot be claimed. -/
  | federate (name : String) (cause : InterfaceFault)
  /-- The channel of a bundle cannot be laid. -/
  | bundle (source destination : String) (cause : InterfaceFault)
  /-- The description cannot be loaded. -/
  | description (cause : LoadFault)
  /-- There are no two different federates with these numbers. -/
  | noSuchPair (source destination : Nat)
deriving DecidableEq, Repr

namespace ResolutionFault

/-- Who has to act. -/
def blame : ResolutionFault → Blame
  | widthMismatch .. => .configuration
  | emptySide _ => .internal
  | unpaired .. => .internal
  | underflow .. => .internal
  | unknownPort _ => .configuration
  | federate .. => .configuration
  | bundle .. => .configuration
  | description _ => .configuration
  | noSuchPair .. => .internal

/-- The category that a fault is reported under. -/
def category : ResolutionFault → String
  | widthMismatch .. => "width_mismatch"
  | emptySide _ => "malformed_connection"
  | unpaired .. => "malformed_connection"
  | underflow .. => "channel_underflow"
  | unknownPort _ => "unknown_port"
  | federate _ cause => cause.category
  | bundle _ _ cause => cause.category
  | description _ => "configuration"
  | noSuchPair .. => "internal"

/-- The message of a fault. -/
def message : ResolutionFault → String
  | widthMismatch i left right n m =>
    "Connection " ++ toString i ++ ": " ++ left.text ++ " has " ++ toString n ++ " channels but "
      ++ right.text ++ " has " ++ toString m
  | emptySide i => "Malformed connection " ++ toString i ++ ": connection has an empty side"
  | unpaired i n m =>
    "Malformed connection " ++ toString i ++ ": " ++ toString n
      ++ " port references on the left but " ++ toString m ++ " on the right"
  | underflow port n left =>
    "Channel queue of " ++ port.text ++ " asked for " ++ toString n ++ " channels, "
      ++ toString left ++ " left"
  | unknownPort ref => "Unknown port `" ++ ref.text ++ "`"
  | federate name cause => "Federate " ++ name ++ ": " ++ cause.message
  | bundle source destination cause =>
    "Bundle " ++ source ++ " -> " ++ destination ++ ": " ++ cause.message
  | description cause => cause.message
  | noSuchPair i j =>
    "Internal error: cannot bundle federates " ++ toString i ++ " and " ++ toString j

/-- The message of the fault behind a fault, where there is one. -/
def innerMessage? : ResolutionFault → Option String
  | federate _ cause => some cause.message
  | bundle _ _ cause => some cause.message
  | description (.unreadable _ cause) => some cause.message
  | _ => none

end ResolutionFault

end ReactorNet
