import ReactorNet.Federate.Key
import ReactorNet.Interface.Table
import ReactorNet.Program.Basic

/-!
# `ReactorNet.Federate.Basic` · federates

The federates of a program, with their interfaces claimed, and the choice of the one whose clock all
others follow. Federates are numbered by their position.
-/

namespace ReactorNet

/-- A federate. -/
structure Federate where
  /-- Its identity. -/
  key : FederateKey
  /-- Its interfaces. -/
  interfaces : Interfaces
  /-- Its clock synchronization. -/
  clockSync : ClockSync
  /-- When it joins. -/
  joiningPolicy : JoiningPolicy

/-- The name of a federate. -/
def Federate.name (f : Federate) : String := f.key.text

/-- The federates of a program with the instance that declares each of them: the instances in
order, and the members of a bank in the order of their indices. -/
def Program.members (p : Program) : List (FederateKey × Instance) :=
  p.instances.flatMap fun i => i.members.map fun bank => (⟨i.name, bank⟩, i)

/-- Claim the interfaces of federates that follow others. A fault comes with the key of the
federate it belongs to. -/
def claimFederates : List (FederateKey × Instance) → Allocation →
    Except (FederateKey × InterfaceFault) (List Federate × Allocation)
  | [], s => .ok ([], s)
  | (key, i) :: members, s =>
    match Interfaces.claim i.interfaces key.bankIndex s with
    | (.error fault, _) => .error (key, fault)
    | (.ok interfaces, s) => do
      let (federates, s) ← claimFederates members s
      return (⟨key, interfaces, i.clockSync.getD {}, i.joiningPolicy⟩ :: federates, s)

/-! ## The grandmaster -/

/-- A federate with the mark of the grandmaster set or cleared. -/
def Federate.mark (grandmaster : Bool) (f : Federate) : Federate :=
  { f with clockSync := { f.clockSync with grandmaster := grandmaster } }

/-- Clear the mark of every marked federate but the first. -/
def keepFirstMark : List Federate → List Federate
  | [] => []
  | f :: fs => if f.clockSync.grandmaster then f :: fs.map (·.mark false) else f :: keepFirstMark fs

/-- Choose the grandmaster: the first federate that is declared to be it, or, if none is, the first
federate of all, provided that any clock is synchronized. -/
def chooseGrandmaster (fs : List Federate) : List Federate :=
  if fs.any fun f => f.clockSync.grandmaster then keepFirstMark fs
  else if fs.any fun f => f.clockSync.enabled then
    match fs with
    | [] => []
    | f :: fs => f.mark true :: fs
  else fs

end ReactorNet
