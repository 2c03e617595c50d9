import ReactorNet.Federate.Key
import ReactorNet.Federation.Fault
import ReactorNet.Port.Queue
import ReactorNet.Program.Basic

/-!
# `ReactorNet.Port.Expansion` · from references to channels

`Program.expand` looks a reference up in a program and lists the channels of the port, each with the
federate that owns it. A channel of an instance belongs to the instance, or, if that is a bank, to
the member with its bank index; a bank of width one is a bank.
-/

namespace ReactorNet

/-- The key of the federate that owns a bank index of an instance. -/
def Program.ownerKey (p : Program) (name : String) (bankIndex : Nat) : FederateKey :=
  let isBank := ((p.instance? name).bind (·.bankWidth)).isSome
  ⟨name, if isBank then some bankIndex else none⟩

/-- The federate that owns a bank index of a port. -/
def Program.owner? (p : Program) (owners : Owners) (port : PortKey) (bankIndex : Nat) :
    Option Nat := do
  let name ← port.instanceName
  owners.lookup (p.ownerKey name bankIndex)

/-- The channels that a reference stands for. -/
def Program.expand (p : Program) (owners : Owners) (r : PortRef) :
    Except ResolutionFault ChannelQueue :=
  match p.shape? r.key with
  | some (bankWidth, portWidth) =>
    .ok {
      port := r.key
      left := portChannels bankWidth portWidth r.interleaved (p.owner? owners r.key) }
  | none => .error (.unknownPort r)

end ReactorNet
