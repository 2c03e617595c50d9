import ReactorNet.Interface.Basic

/-!
# `ReactorNet.Interface.Table` · all interfaces of a federate

The interfaces of a federate in the order of declaration. There is always one: a federate that
declares none has one on loopback. The first is the default; the others are chosen by name.

Interfaces are claimed one after the other (`claimInTurn`). Where one cannot be claimed, the claims of
those before it stay. What its own claim leaves is a parameter of the loop: nothing here, and what the
refused operation leaves where interfaces are built in place (`ReactorNet.Interface.Session`).
-/

namespace ReactorNet

/-- The interfaces of a federate. -/
structure Interfaces where
  /-- The default interface. -/
  first : Interface
  /-- The others, in the order of declaration. -/
  others : List Interface := []
deriving DecidableEq, Repr

/-- Claim declared interfaces that follow others, the latest of which stands first. One whose name
is taken changes nothing; `leave` is what one leaves that cannot be claimed. -/
def claimInTurn (leave : Carrier → Allocation → Allocation) (bank : Option Nat)
    (earlier : List Interface) :
    List InterfaceDecl → Allocation → Except InterfaceFault (List Interface) × Allocation
  | [], s => (.ok earlier.reverse, s)
  | d :: ds, s =>
    let name := d.nameAt earlier.length
    if earlier.any fun i => i.name == name then (.error (.declaredTwice name), s)
    else
      match d.carrier.claim bank s with
      | .error fault => (.error fault, leave d.carrier s)
      | .ok (binding, s) => claimInTurn leave bank (⟨name, binding, []⟩ :: earlier) ds s

/-- Claim declared interfaces, where one that cannot be claimed changes nothing. -/
def claimAll (bank : Option Nat) (earlier : List Interface) :
    List InterfaceDecl → Allocation → Except InterfaceFault (List Interface) × Allocation :=
  claimInTurn (fun _ s => s) bank earlier

namespace Interfaces

/-- All interfaces, the default one first. -/
def toList (is : Interfaces) : List Interface := is.first :: is.others

/-- The interfaces of a list; the one on loopback if it is empty. -/
def ofList : List Interface → Interfaces
  | [] => { first := .loopback }
  | i :: is => ⟨i, is⟩

/-- Claim the interfaces of a federate. -/
def claim (decls : List InterfaceDecl) (bank : Option Nat) (s : Allocation) :
    Except InterfaceFault Interfaces × Allocation :=
  match claimAll bank [] decls s with
  | (.ok is, s) => (.ok (ofList is), s)
  | (.error fault, s) => (.error fault, s)

/-- The interface with the given name. -/
def find? (is : Interfaces) (name : String) : Option Interface :=
  is.toList.find? fun i => i.name == name

/-- The interface with the given name, or the default one if no name is given. -/
def resolve (is : Interfaces) (name : Option String) : Except InterfaceFault Interface :=
  match name with
  | none => .ok is.first
  | some name =>
    match is.find? name with
    | some i => .ok i
    | none => .error (.unknownInterface name)

/-- Put an endpoint on the first interface of a list that has the given name. -/
def mintOn (name : String) (e : Endpoint) : List Interface → List Interface
  | [] => []
  | i :: is =>
    if i.name == name then { i with endpoints := i.endpoints ++ [e] } :: is
    else i :: mintOn name e is

/-- Put an endpoint on the interface with the given name. -/
def mint (is : Interfaces) (name : String) (e : Endpoint) : Interfaces :=
  ofList (mintOn name e is.toList)

/-- The flag of a federated build. -/
def federatedFlag : String := "FEDERATED"

/-- The build flags of a federate: one for each protocol it speaks, then the federated one. -/
def compileFlags (is : Interfaces) : List String :=
  (is.toList.map fun i => i.protocol.compileFlag).eraseDups ++ [federatedFlag]

end Interfaces

end ReactorNet
