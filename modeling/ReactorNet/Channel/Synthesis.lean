import ReactorNet.Channel.Basic
import ReactorNet.Interface.Table

/-!
# `ReactorNet.Channel.Synthesis` · laying a channel between two federates

`synthesize` chooses the interfaces at both ends, makes sure that they speak the same protocol,
claims a port if one side has to listen, and mints an endpoint on either interface.

**All or nothing.** The outcome is either the channel with the changed tables and allocation, or a
fault; a fault changes neither.
-/

namespace ReactorNet

/-- A channel that was laid, and the interfaces it was laid between. -/
structure LaidChannel where
  /-- The channel. -/
  channel : Channel
  /-- The encryption on top. -/
  encryption : Encryption
  /-- The name of the interface of the source. -/
  sourceInterface : String
  /-- The name of the interface of the destination. -/
  destinationInterface : String
deriving DecidableEq, Repr

/-- Claim the port that a side listens on: the one asked for, or a free one. -/
def claimServerPort (asked : Option Nat) (a : Address) (s : Allocation) :
    Except InterfaceFault (Nat × Allocation) :=
  match asked with
  | some port => (s.reservePort a port).map (port, ·)
  | none => s.takePort a

/-- The channel between two bindings. -/
def Channel.lay (link : Link) (source destination : Binding) (s : Allocation) :
    Except InterfaceFault (Channel × Allocation) :=
  match source, destination with
  | .tcp a, .tcp b =>
    (claimServerPort link.serverPort (link.serverSide.choose a b) s).map fun (port, s) =>
      (.tcp a b link.serverSide port, s)
  | .uart p, .uart q => .ok (.uart p q, s)
  | .coap a, .coap b => .ok (.coap a b, s)
  | .custom c, .custom d => .ok (.custom c d, s)
  | source, destination => .error (.protocolMismatch source.protocol destination.protocol)

/-- What laying a channel leads to. -/
structure Synthesis where
  /-- The channel. -/
  laid : LaidChannel
  /-- The interfaces of the source, with the new endpoint. -/
  source : Interfaces
  /-- The interfaces of the destination, with the new endpoint. -/
  destination : Interfaces
  /-- The allocation. -/
  allocation : Allocation

/-- Lay a channel from one federate to another. -/
def synthesize (link : Option Link) (source destination : Interfaces) (s : Allocation) :
    Except InterfaceFault Synthesis := do
  let link := link.getD {}
  let i ← source.resolve link.left
  let j ← destination.resolve link.right
  let (channel, s) ← Channel.lay link i.binding j.binding s
  return {
    laid := ⟨channel, link.encryption, i.name, j.name⟩
    source := source.mint i.name (channel.endpoint .left)
    destination := destination.mint j.name (channel.endpoint .right)
    allocation := s }

end ReactorNet
