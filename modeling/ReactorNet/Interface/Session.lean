import ReactorNet.Allocation.Session
import ReactorNet.Interface.Table

/-!
# `ReactorNet.Interface.Session` · interfaces built among other claims

`Interfaces.build` builds the interfaces of a federate in place: it gives back the claims as they
are then, whether all interfaces were built or not. Where they are, it is `Interfaces.claim`, by the
same loop.

A declaration is refused for its name before anything is claimed for it, for a literal before its
address is claimed, and otherwise by the claim itself. In the last case the claims are left as the
operation leaves them that was refused. Nothing that was claimed before is given back.
-/

namespace ReactorNet

/-- The operation that claims the device of a declared interface: the one asked for, or a free
one. -/
def deviceOperation (asked : Option Nat) : Operation :=
  match asked with
  | some device => .reserveDevice device
  | none => .takeDevice

/-- The claims that a declared address leaves, whether it can be claimed or not. -/
def addressAfter (bank : Option Nat) (declared : Option String) (s : Allocation) : Allocation :=
  match declared.map (memberAddress bank) with
  | some (.ok a) => (s.perform (.claimAddress a)).2
  | _ => s

/-- The claims that a declared interface leaves, whether what it needs can be claimed or not. -/
def Carrier.allocationAfter (bank : Option Nat) (c : Carrier) (s : Allocation) : Allocation :=
  match c with
  | .tcp declared => addressAfter bank declared s
  | .coap declared => addressAfter bank declared s
  | .uart declared _ => (s.perform (deviceOperation declared)).2
  | .custom .. => s

/-- Build declared interfaces that follow others, the latest of which stands first, in place. -/
def buildAll (bank : Option Nat) (earlier : List Interface) :
    List InterfaceDecl → Allocation → Except InterfaceFault (List Interface) × Allocation :=
  claimInTurn (Carrier.allocationAfter bank) bank earlier

/-- Build the interfaces of a federate in place: the interfaces or the fault, and the claims as they
are left. -/
def Interfaces.build (decls : List InterfaceDecl) (bank : Option Nat) (s : Allocation) :
    Except InterfaceFault Interfaces × Allocation :=
  ((buildAll bank [] decls s).1.map ofList, (buildAll bank [] decls s).2)

end ReactorNet
