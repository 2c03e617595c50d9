import ReactorNet.Port.Expansion

/-!
# `ReactorNet.Connection.Pairs` · from statements to pairs of channels

A connection statement wires channels of its left side to channels of its right side, in the order
in which both are counted. `Statement.pairs` lists the pairs. Without iteration the sides name the
same number of ports, and ports that face each other have the same number of channels; with
iteration the left side is replayed from its start until the right side is served.

References are looked up as they are needed, so a fault on the left side of an iterated statement
may go unnoticed.
-/

namespace ReactorNet

/-- A channel wired to another. -/
structure ChannelPair where
  /-- The port that the data leave. -/
  sourcePort : PortKey
  /-- The channel that the data leave. -/
  source : PortChannel
  /-- The port that the data enter. -/
  destinationPort : PortKey
  /-- The channel that the data enter. -/
  destination : PortChannel
deriving DecidableEq, Repr

/-- Whether the two ends belong to different federates. -/
def ChannelPair.isFederated (p : ChannelPair) : Bool :=
  match p.source.federate, p.destination.federate with
  | some s, some d => s != d
  | _, _ => false

/-- How references are expanded. -/
abbrev Expansion := PortRef → Except ResolutionFault ChannelQueue

/-- Pair the ports of two sides, port by port. -/
def pairPorts (expand : Expansion) (statement : Nat) :
    List PortRef → List PortRef → Except ResolutionFault (List ChannelPair)
  | l :: ls, r :: rs => do
    let sources := (← expand l).all
    let destinations := (← expand r).all
    if sources.length != destinations.length then
      throw (.widthMismatch statement l r sources.length destinations.length)
    let more ← pairPorts expand statement ls rs
    return List.zipWith (⟨l.key, ·, r.key, ·⟩) sources destinations ++ more
  | _, _ => return []

/-! ## Replaying the left side -/

/-- How far the left side of an iterated statement has been replayed. -/
structure Replay where
  /-- The position of the port at hand. -/
  position : Nat
  /-- The port at hand. -/
  port : PortKey
  /-- Its channels that are left. -/
  left : List PortChannel

/-- The next channel of the left side, going on to at most `attempts` further ports. -/
def Replay.next (expand : Expansion) (statement : Nat) (side : List PortRef) :
    (attempts : Nat) → Replay → Except ResolutionFault (PortKey × PortChannel × Replay)
  | attempts, ⟨position, port, c :: cs⟩ =>
    let _ := attempts
    .ok (port, c, ⟨position, port, cs⟩)
  | 0, ⟨_, _, []⟩ => .error (.emptySide statement)
  | attempts + 1, ⟨position, _, []⟩ => do
    let position := (position + 1) % side.length
    match side[position]? with
    | some r => next expand statement side attempts ⟨position, r.key, (← expand r).all⟩
    | none => throw (.emptySide statement)

/-- Pair the channels of a port on the right side. -/
def Replay.serve (expand : Expansion) (statement : Nat) (side : List PortRef) (port : PortKey) :
    List PortChannel → Replay → Except ResolutionFault (List ChannelPair × Replay)
  | [], replay => .ok ([], replay)
  | d :: ds, replay => do
    let (sourcePort, source, replay) ← replay.next expand statement side side.length
    let (pairs, replay) ← serve expand statement side port ds replay
    return (⟨sourcePort, source, port, d⟩ :: pairs, replay)

/-- Pair the ports of a right side. -/
def Replay.serveAll (expand : Expansion) (statement : Nat) (side : List PortRef) :
    List PortRef → Replay → Except ResolutionFault (List ChannelPair)
  | [], _ => .ok []
  | r :: rs, replay => do
    let (pairs, replay) ← replay.serve expand statement side r.key (← expand r).all
    let more ← serveAll expand statement side rs replay
    return pairs ++ more

/-- The pairs of a statement. -/
def Statement.pairs (expand : Expansion) (number : Nat) (s : Statement) :
    Except ResolutionFault (List ChannelPair) :=
  match s.left, s.right with
  | [], _ => .error (.emptySide number)
  | _, [] => .error (.emptySide number)
  | l :: ls, right =>
    if s.iterated then do
      let channels := (← expand l).all
      Replay.serveAll expand number (l :: ls) right ⟨0, l.key, channels⟩
    else if (l :: ls).length != right.length then
      .error (.unpaired number (l :: ls).length right.length)
    else pairPorts expand number (l :: ls) right

end ReactorNet
