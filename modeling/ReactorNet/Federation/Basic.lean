import ReactorNet.Federation.Bundle
import ReactorNet.Program.Validation

/-!
# `ReactorNet.Federation.Basic` · the topology of a program

`Federation.resolve` checks a program, claims the interfaces of its federates, groups its
connections and lays the network channels, starting with nothing claimed. A program that is not
federated has groups, but neither federates nor bundles.
-/

namespace ReactorNet

/-- The topology of a program. -/
structure Federation where
  /-- The name of the program. -/
  name : String
  /-- The federates and what they have claimed. -/
  network : Network
  /-- The groups of connections. -/
  groups : List Group
  /-- The bundles. -/
  bundles : List Bundle

namespace Federation

/-- The numbers of federates by their keys. -/
def owners (fs : List Federate) : Owners := (fs.map (·.key)).zipIdx

/-- The federates of a program, with their interfaces claimed. -/
def enlist (p : Program) : Except ResolutionFault Network :=
  if p.federated then
    match claimFederates p.members {} with
    | .ok (federates, allocation) => .ok ⟨chooseGrandmaster federates, allocation⟩
    | .error (key, fault) => .error (.federate key.text fault)
  else .ok ⟨[], {}⟩

/-- The topology of a program that was checked. -/
def resolveChecked (p : Program) : Except ResolutionFault Federation := do
  let network ← enlist p
  let groups ← groupConnections p (owners network.federates)
  match layBundles groups network with
  | (.ok bundles, network) => return ⟨p.name, network, groups, bundles⟩
  | (.error fault, _) => throw fault

/-- The topology of a program. -/
def resolve (p : Program) : Except ResolutionFault Federation :=
  match p.validate with
  | .ok () => resolveChecked p
  | .error r => .error (.description (.rejected r))

/-- The federates. -/
def federates (f : Federation) : List Federate := f.network.federates

/-- Whether there are federates at all. -/
def isFederated (f : Federation) : Bool := !f.federates.isEmpty

/-- The position of the first federate with the given name. -/
def position? (f : Federation) (name : String) : Option Nat :=
  f.federates.findIdx? fun g => g.name == name

/-- The federate whose clock all others follow. -/
def grandmaster? (f : Federation) : Option Federate :=
  f.federates.find? fun g => g.clockSync.grandmaster

/-- The bundles that a federate takes part in. -/
def bundlesOf (f : Federation) (federate : Nat) : List Bundle :=
  f.bundles.filter fun b => b.involves federate

/-- The federates that a federate shares a bundle with. -/
def neighbors (f : Federation) (federate : Nat) : List Nat :=
  ((f.bundlesOf federate).filterMap fun b => b.peer? federate).eraseDups

/-- The groups that stay inside a federate. -/
def localGroups (f : Federation) (federate : Nat) : List Group :=
  f.groups.filter fun g => !g.isFederated && g.key.sourceFederate == some federate

/-- The name of a federate. -/
def federateName (f : Federation) (federate : Nat) : String :=
  match f.federates[federate]? with
  | some g => g.name
  | none => ""

/-- The groups of a bundle. -/
def groupsOf (f : Federation) (b : Bundle) : List Group := b.groups.filterMap fun i => f.groups[i]?

/-- One line about the topology. -/
def summary (f : Federation) : String :=
  f.name ++ ": " ++ toString f.federates.length ++ " federates, " ++ toString f.bundles.length
    ++ " bundles, " ++ toString f.groups.length ++ " grouped connections"

end Federation

end ReactorNet
