import ReactorNet.Connection.Runs

/-!
# `ReactorNet.Port.Session` · a queue that is asked again and again

All that can be asked of a queue of channels is a `QueueRequest`, and `perform` gives the
`QueueAnswer` to it and the queue after it. A session asks one thing after the other. There are two
kinds of queues: a `ChannelQueue` has the channels that are left in a list of their own, and a
`CursorQueue` has all channels of the port in an array, with a cursor behind those that were handed
out.

**What can break off.** A `CursorQueue` counts in words. A difference below zero, a sum too large
for a word and a stretch that is not within the array do not exist, and a request that needs one of
them is not answered. A `ChannelQueue` has nothing of that kind.
-/

namespace ReactorNet

/-- What can be asked of a queue. -/
inductive QueueRequest where
  /-- To hand out the next `n` channels. -/
  | take (n : Nat)
  /-- To hand out all channels that are left. -/
  | takeAll
  /-- How many channels are left. -/
  | countLeft
  /-- Which channels the port has, handed out or not. -/
  | listAll
deriving DecidableEq, Repr

/-- What is answered to a request. -/
inductive QueueAnswer where
  /-- The channels that were handed out. -/
  | handedOut (channels : List PortChannel)
  /-- Nothing was handed out. -/
  | refused (fault : ResolutionFault)
  /-- The number of channels that are left. -/
  | counted (n : Nat)
  /-- The channels of the port. -/
  | listed (channels : List PortChannel)
deriving DecidableEq, Repr

/-- The channels that an answer hands out; channels that are merely listed are not handed out. -/
def QueueAnswer.channels : QueueAnswer → List PortChannel
  | .handedOut cs => cs
  | .refused _ => []
  | .counted _ => []
  | .listed _ => []

/-! ## Two lists -/

namespace ChannelQueue

/-- The answer to a request, and the queue after it. -/
def perform (q : ChannelQueue) : QueueRequest → QueueAnswer × ChannelQueue
  | .take n =>
    match q.take n with
    | .ok (cs, r) => (.handedOut cs, r)
    | .error fault => (.refused fault, q)
  | .takeAll => (.handedOut q.takeAll.1, q.takeAll.2)
  | .countLeft => (.counted q.left.length, q)
  | .listAll => (.listed q.all, q)

/-- The answers to a series of requests, and the queue after them. -/
def session (q : ChannelQueue) : List QueueRequest → List QueueAnswer × ChannelQueue
  | [] => ([], q)
  | request :: requests =>
    let (answer, q) := q.perform request
    let (answers, q) := session q requests
    (answer :: answers, q)

end ChannelQueue

/-! ## An array and a cursor -/

/-- How many words there are. -/
def wordCount : Nat := Nat.pow 2 64

/-- The sum of two words, if it is a word. -/
def addWords? (m n : Nat) : Option Nat := if m + n < wordCount then some (m + n) else none

/-- The difference of two words, if it is a word. -/
def subtractWords? (m n : Nat) : Option Nat := if n ≤ m then some (m - n) else none

/-- The channels of a port, some of which were handed out. -/
structure CursorQueue where
  /-- The port. -/
  port : PortKey
  /-- All channels of the port. -/
  channels : Array PortChannel
  /-- Where the next channel to be handed out stands. -/
  cursor : Nat := 0

namespace CursorQueue

/-- The queue of a port of which nothing was handed out. -/
def ofPort (port : PortKey) (bankWidth portWidth : Nat) (interleaved : Bool)
    (owner : Nat → Option Nat) : CursorQueue where
  port := port
  channels := (portChannels bankWidth portWidth interleaved owner).toArray

/-- How many channels are left. -/
def countLeft? (q : CursorQueue) : Option Nat := subtractWords? q.channels.size q.cursor

/-- The stretch of the channels between two places, if it is within the array. -/
def stretch? (q : CursorQueue) (start stop : Nat) : Option (List PortChannel) :=
  if start ≤ stop ∧ stop ≤ q.channels.size then some (q.channels.extract start stop).toList else none

/-- The answer to a request, and the queue after it. -/
def perform? (q : CursorQueue) : QueueRequest → Option (QueueAnswer × CursorQueue)
  | .take n => do
    let available ← q.countLeft?
    if available < n then return (.refused (.underflow q.port n available), q)
    let cursor ← addWords? q.cursor n
    let cs ← q.stretch? q.cursor cursor
    return (.handedOut cs, { q with cursor := cursor })
  | .takeAll => do
    let cs ← q.stretch? q.cursor q.channels.size
    return (.handedOut cs, { q with cursor := q.channels.size })
  | .countLeft => do
    let available ← q.countLeft?
    return (.counted available, q)
  | .listAll => return (.listed q.channels.toList, q)

/-- The answers to a series of requests, and the queue after them. -/
def session? (q : CursorQueue) : List QueueRequest → Option (List QueueAnswer × CursorQueue)
  | [] => some ([], q)
  | request :: requests => do
    let (answer, q) ← q.perform? request
    let (answers, q) ← session? q requests
    return (answer :: answers, q)

end CursorQueue

end ReactorNet
