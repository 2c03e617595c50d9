import ReactorNet.Port.Reference

/-!
# `ReactorNet.Port.Queue` · the channels of a port

A port of width `W` on a bank of width `B` has `B · W` channels. `portChannels` lists them: with the
bank index outermost, or, for an interleaved reference, with the port index outermost. A
`ChannelQueue` hands them out from the front.

A queue keeps the channels that were handed out besides those that are left (`ChannelQueue.all`).
-/

namespace ReactorNet

/-- One channel of a port. -/
structure PortChannel where
  /-- The index within the port. -/
  portIndex : Nat
  /-- The index of the bank member. -/
  bankIndex : Nat
  /-- The federate that owns the member, if one does. -/
  federate : Option Nat
deriving DecidableEq, Repr

/-- The bank index as seen from inside the owner: a federate holds its own member only. -/
def PortChannel.codeBankIndex (c : PortChannel) : Nat :=
  if c.federate.isSome then 0 else c.bankIndex

/-- The channels of a port in the order in which they are counted. -/
def portChannels (bankWidth portWidth : Nat) (interleaved : Bool) (owner : Nat → Option Nat) :
    List PortChannel :=
  if interleaved then
    (List.range portWidth).flatMap fun i => (List.range bankWidth).map fun b => ⟨i, b, owner b⟩
  else
    (List.range bankWidth).flatMap fun b => (List.range portWidth).map fun i => ⟨i, b, owner b⟩

/-- The channels of a port, some of which were handed out. -/
structure ChannelQueue where
  /-- The port. -/
  port : PortKey
  /-- The channels that were handed out. -/
  taken : List PortChannel := []
  /-- The channels that are left. -/
  left : List PortChannel

namespace ChannelQueue

/-- All channels of the port. -/
def all (q : ChannelQueue) : List PortChannel := q.taken ++ q.left

/-- Hand out the next `n` channels; none if fewer are left. -/
def take? (q : ChannelQueue) (n : Nat) : Option (List PortChannel × ChannelQueue) :=
  if n ≤ q.left.length then
    some (q.left.take n, { q with taken := q.taken ++ q.left.take n, left := q.left.drop n })
  else none

/-- Hand out all channels that are left. -/
def takeAll (q : ChannelQueue) : List PortChannel × ChannelQueue :=
  (q.left, { q with taken := q.taken ++ q.left, left := [] })

end ChannelQueue

end ReactorNet
