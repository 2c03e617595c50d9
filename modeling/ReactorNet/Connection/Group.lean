import ReactorNet.Connection.Pairs

/-!
# `ReactorNet.Connection.Group` · pairs that travel together

Pairs that leave the same port with the same delay and physical flag form one group. Pairs that
cross from one federate to another are told apart by the two federates as well, because each
federate pair has a network channel of its own. `groupConnections` forms the groups of a program.

**Order.** Groups are numbered by their first pair, and keep their pairs in the order of the
statements. Of the statements that contribute to a group the first gives it its link, and the one
that asks for most pending events decides how many it buffers.
-/

namespace ReactorNet

/-- What the pairs of a group have in common. -/
structure GroupKey where
  /-- The port that the data leave. -/
  sourcePort : PortKey
  /-- The delay in nanoseconds. -/
  delayNs : Option Nat
  /-- Whether the connection is physical. -/
  physical : Bool
  /-- The federate that the data leave. -/
  sourceFederate : Option Nat
  /-- The federate that the data enter, if it is another one. -/
  destinationFederate : Option Nat
deriving DecidableEq, Repr

/-- The key of a pair of a statement. -/
def ChannelPair.groupKey (s : Statement) (p : ChannelPair) : GroupKey where
  sourcePort := p.sourcePort
  delayNs := s.delayNs
  physical := s.physical
  sourceFederate := p.source.federate
  destinationFederate := if p.isFederated then p.destination.federate else none

/-- A group of pairs. -/
structure Group where
  /-- The number of the group. -/
  uid : Nat
  /-- What its pairs have in common. -/
  key : GroupKey
  /-- The pairs, in the order of the statements. -/
  pairs : List ChannelPair
  /-- The pending events that are buffered. -/
  maxPending : Nat
  /-- The number of the first contributing statement. -/
  statement : Nat
  /-- The link of that statement. -/
  link : Option Link
deriving DecidableEq, Repr

namespace Group

/-- The name of a group. -/
def name (g : Group) : String :=
  "conn_" ++ g.key.sourcePort.instanceName.getD "" ++ "_" ++ g.key.sourcePort.port ++ "_"
    ++ toString g.uid

/-- Whether the data keep their logical time: neither physical nor delayed. -/
def isLogical (g : Group) : Bool := !g.key.physical && g.key.delayNs.isNone

/-- Whether the group crosses from one federate to another. -/
def isFederated (g : Group) : Bool := g.key.destinationFederate.isSome

/-- The channel that a pair leaves, as its owner sees it. -/
def sourceSlot (p : ChannelPair) : Nat × Nat := (p.source.portIndex, p.source.codeBankIndex)

/-- The greatest number of destinations that one source channel has. -/
def maxDownstreams (g : Group) : Nat :=
  let slots := g.pairs.map sourceSlot
  (slots.map fun slot => slots.count slot).foldl max 0

/-- The group that a pair of a statement opens. -/
def ofPair (uid statement : Nat) (s : Statement) (p : ChannelPair) : Group where
  uid := uid
  key := p.groupKey s
  pairs := [p]
  maxPending := s.pendingEvents
  statement := statement
  link := s.link

/-- Add a pair of a statement to a group. -/
def add (s : Statement) (p : ChannelPair) (g : Group) : Group :=
  { g with maxPending := max g.maxPending s.pendingEvents, pairs := g.pairs ++ [p] }

end Group

/-- Enter a pair of a statement into groups, the first of which has the given number. -/
def enterPair (statement : Nat) (s : Statement) (p : ChannelPair) :
    (number : Nat) → List Group → List Group
  | number, [] => [.ofPair number statement s p]
  | number, g :: gs =>
    if g.key = p.groupKey s then g.add s p :: gs
    else g :: enterPair statement s p (number + 1) gs

/-- Enter pairs of a statement into groups. -/
def enterPairs (statement : Nat) (s : Statement) (groups : List Group) (ps : List ChannelPair) :
    List Group :=
  ps.foldl (fun gs p => enterPair statement s p 0 gs) groups

/-- Enter statements into groups, the first statement having the given number. -/
def enterStatements (expand : Expansion) :
    (number : Nat) → List Statement → List Group → Except ResolutionFault (List Group)
  | _, [], groups => .ok groups
  | i, s :: ss, groups => do
    let pairs ← s.pairs expand i
    enterStatements expand (i + 1) ss (enterPairs i s groups pairs)

/-- The groups of a program. -/
def groupConnections (p : Program) (owners : Owners) : Except ResolutionFault (List Group) :=
  enterStatements (p.expand owners) 0 p.statements []

end ReactorNet
