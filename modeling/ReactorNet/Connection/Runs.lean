import ReactorNet.Connection.Pairs

/-!
# `ReactorNet.Connection.Runs` · pairing many channels at a time

The pairs of a statement, listed in runs: as many channels as two queues both hold are taken from
either at once, and where the left queue of an iterated statement is empty, the next port of its
side is opened. `Statement.pairsInRuns` is the list.

**Empty ports.** A port that was opened can be empty, and then a run takes nothing. No port of a
checked program is, so `pairsInRuns` allows for as many runs as there are channels to serve.
`Statement.replayWithin` takes the number of runs that are allowed for each port of the right side.

A queue that is asked for more channels than are left says so. Pairing one channel at a time has no
such fault.
-/

namespace ReactorNet

/-- Hand out the next `n` channels, or tell that fewer are left. -/
def ChannelQueue.take (q : ChannelQueue) (n : Nat) :
    Except ResolutionFault (List PortChannel × ChannelQueue) :=
  match q.take? n with
  | some taken => .ok taken
  | none => .error (.underflow q.port n q.left.length)

/-- Take `n` channels from either of two queues and pair them. -/
def pairRun (n : Nat) (left right : ChannelQueue) :
    Except ResolutionFault (List ChannelPair × ChannelQueue × ChannelQueue) := do
  let (sources, left') ← left.take n
  let (destinations, right') ← right.take n
  return (List.zipWith (⟨left.port, ·, right.port, ·⟩) sources destinations, left', right')

/-- Pair the ports of two sides, each port in one run. -/
def pairPortsInRuns (expand : Expansion) (statement : Nat) :
    List PortRef → List PortRef → Except ResolutionFault (List ChannelPair)
  | l :: ls, r :: rs => do
    let left ← expand l
    let right ← expand r
    if left.left.length != right.left.length then
      throw (.widthMismatch statement l r left.left.length right.left.length)
    let (pairs, _) ← pairRun left.left.length left right
    let more ← pairPortsInRuns expand statement ls rs
    return pairs ++ more
  | _, _ => return []

/-! ## Replaying the left side -/

/-- The left side of an iterated statement. -/
structure Reader where
  /-- The position of the port at hand. -/
  position : Nat
  /-- The queue of its channels. -/
  queue : ChannelQueue

namespace Reader

/-- Open the next port of the side if no channel of the port at hand is left. -/
def advance (expand : Expansion) (statement : Nat) (side : List PortRef) (reader : Reader) :
    Except ResolutionFault Reader :=
  if reader.queue.left.isEmpty then
    let position := (reader.position + 1) % side.length
    match side[position]? with
    | some r => (expand r).map (⟨position, ·⟩)
    | none => .error (.emptySide statement)
  else .ok reader

/-- Pair the channels of a queue on the right side, in at most `rounds` runs. -/
def serve (expand : Expansion) (statement : Nat) (side : List PortRef) :
    (rounds : Nat) → ChannelQueue → Reader → Except ResolutionFault (List ChannelPair × Reader)
  | 0, right, reader => if right.left.isEmpty then .ok ([], reader) else .error (.emptySide statement)
  | rounds + 1, right, reader =>
    if right.left.isEmpty then .ok ([], reader)
    else do
      let reader ← reader.advance expand statement side
      let n := min reader.queue.left.length right.left.length
      let (pairs, left, right) ← pairRun n reader.queue right
      let (more, reader) ← serve expand statement side rounds right ⟨reader.position, left⟩
      return (pairs ++ more, reader)

/-- Pair the ports of a right side. A run takes a channel at least, so there are no more runs than
channels. -/
def serveAll (expand : Expansion) (statement : Nat) (side : List PortRef) :
    List PortRef → Reader → Except ResolutionFault (List ChannelPair)
  | [], _ => .ok []
  | r :: rs, reader => do
    let right ← expand r
    let (pairs, reader) ← reader.serve expand statement side right.left.length right
    let more ← serveAll expand statement side rs reader
    return pairs ++ more

/-- Pair the ports of a right side, each of them in at most `rounds` runs. -/
def serveAllWithin (expand : Expansion) (statement : Nat) (side : List PortRef) (rounds : Nat) :
    List PortRef → Reader → Except ResolutionFault (List ChannelPair)
  | [], _ => .ok []
  | r :: rs, reader => do
    let right ← expand r
    let (pairs, reader) ← reader.serve expand statement side rounds right
    let more ← serveAllWithin expand statement side rounds rs reader
    return pairs ++ more

end Reader

/-- The pairs of a statement. -/
def Statement.pairsInRuns (expand : Expansion) (number : Nat) (s : Statement) :
    Except ResolutionFault (List ChannelPair) :=
  match s.left, s.right with
  | [], _ => .error (.emptySide number)
  | _, [] => .error (.emptySide number)
  | l :: ls, right =>
    if s.iterated then do
      let queue ← expand l
      Reader.serveAll expand number (l :: ls) right ⟨0, queue⟩
    else if (l :: ls).length != right.length then
      .error (.unpaired number (l :: ls).length right.length)
    else pairPortsInRuns expand number (l :: ls) right

/-- The pairs of an iterated statement, each port of its right side being served in at most `rounds`
runs. -/
def Statement.replayWithin (expand : Expansion) (number rounds : Nat) (s : Statement) :
    Except ResolutionFault (List ChannelPair) :=
  match s.left, s.right with
  | [], _ => .error (.emptySide number)
  | _, [] => .error (.emptySide number)
  | l :: ls, right => do
    let queue ← expand l
    Reader.serveAllWithin expand number (l :: ls) rounds right ⟨0, queue⟩

end ReactorNet
