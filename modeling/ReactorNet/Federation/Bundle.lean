import ReactorNet.Channel.Synthesis
import ReactorNet.Connection.Group
import ReactorNet.Federate.Basic

/-!
# `ReactorNet.Federation.Bundle` · groups that share a network channel

All groups from one federate to another form a bundle, and a bundle has one network channel.
`partition` forms the bundles of a list of groups in the order of their first groups, and
`layBundles` lays their channels one after the other. The link of a channel is that of the first
group, hence that of the first statement between the two federates.

If a channel cannot be laid, those that were laid before it stay.
-/

namespace ReactorNet

/-- A bundle whose channel was laid. -/
structure Bundle where
  /-- The number of the federate that the data leave. -/
  source : Nat
  /-- The number of the federate that the data enter. -/
  destination : Nat
  /-- The numbers of the groups. -/
  groups : List Nat
  /-- The channel. -/
  laid : LaidChannel
deriving DecidableEq, Repr

namespace Bundle

/-- Whether a federate is at either end. -/
def involves (b : Bundle) (federate : Nat) : Bool := b.source == federate || b.destination == federate

/-- The side that a federate is on. -/
def side? (b : Bundle) (federate : Nat) : Option Side :=
  if federate == b.source then some .left
  else if federate == b.destination then some .right
  else none

/-- The federate at the other end. -/
def peer? (b : Bundle) (federate : Nat) : Option Nat :=
  (b.side? federate).map fun side => side.choose b.destination b.source

/-- The number of groups that leave a federate. -/
def outputs (b : Bundle) (federate : Nat) : Nat :=
  if federate == b.source then b.groups.length else 0

/-- The number of groups that enter a federate. -/
def inputs (b : Bundle) (federate : Nat) : Nat :=
  if federate == b.destination then b.groups.length else 0

/-- What a federate constructs for the channel. -/
def descriptor? (b : Bundle) (federate : Nat) : Option Descriptor :=
  (b.side? federate).map b.laid.channel.descriptor

end Bundle

/-- A bundle before its channel is laid: the two federates, and the numbers of its groups. -/
abbrev Part := (Nat × Nat) × List Nat

/-- Put the number of a group with the part of its federates. -/
def enterGroup (federates : Nat × Nat) (index : Nat) : List Part → List Part
  | [] => [(federates, [index])]
  | part :: parts =>
    if part.1 = federates then (part.1, part.2 ++ [index]) :: parts
    else part :: enterGroup federates index parts

/-- The two federates that a group crosses between. -/
def Group.crossing? (g : Group) : Option (Nat × Nat) := do
  return (← g.key.sourceFederate, ← g.key.destinationFederate)

/-- Part the groups that cross between federates, the first group having the given number. -/
def partitionFrom : (number : Nat) → List Group → List Part → List Part
  | _, [], parts => parts
  | i, g :: gs, parts =>
    partitionFrom (i + 1) gs
      (match g.crossing? with
      | some federates => enterGroup federates i parts
      | none => parts)

/-- Part the groups that cross between federates. -/
def partition (groups : List Group) : List Part := partitionFrom 0 groups []

/-- The federates and what they have claimed. -/
structure Network where
  /-- The federates. -/
  federates : List Federate
  /-- The claims. -/
  allocation : Allocation := {}

/-- The network in which a federate has other interfaces. -/
def Network.withInterfaces (n : Network) (federate : Nat) (is : Interfaces) : Network :=
  { n with federates := n.federates.modify federate fun f => { f with interfaces := is } }

/-- Lay the channel of one bundle. -/
def layBundle (groups : List Group) (part : Part) (n : Network) :
    Except ResolutionFault (Bundle × Network) :=
  let (i, j) := part.1
  match n.federates[i]?, n.federates[j]? with
  | some source, some destination =>
    if i == j then .error (.noSuchPair i j)
    else
      let link := part.2.head?.bind fun g => groups[g]?.bind (·.link)
      match synthesize link source.interfaces destination.interfaces n.allocation with
      | .error cause => .error (.bundle source.name destination.name cause)
      | .ok s =>
        .ok (⟨i, j, part.2, s.laid⟩,
          { (n.withInterfaces i s.source).withInterfaces j s.destination with
            allocation := s.allocation })
  | _, _ => .error (.noSuchPair i j)

/-- Lay the channels of bundles one after the other. -/
def layParts (groups : List Group) :
    List Part → Network → Except ResolutionFault (List Bundle) × Network
  | [], n => (.ok [], n)
  | part :: parts, n =>
    match layBundle groups part n with
    | .error fault => (.error fault, n)
    | .ok (b, n) =>
      match layParts groups parts n with
      | (.ok bs, n) => (.ok (b :: bs), n)
      | (.error fault, n) => (.error fault, n)

/-- Lay a channel for every bundle of a list of groups. -/
def layBundles (groups : List Group) (n : Network) :
    Except ResolutionFault (List Bundle) × Network :=
  layParts groups (partition groups) n

end ReactorNet
