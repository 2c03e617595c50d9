import ReactorNet.Program.Basic
import ReactorNet.Port.Reading

/-!
# `ReactorNet.Program.Validation` · checking a program

`Program.validate` finds the first reason to reject a program, going through the ports of the program
itself, then the instances one after the other, then the connection statements. What it accepts has
distinct names that are identifiers, no empty bank and no empty port, and statements that refer to
declared ports only.
-/

namespace ReactorNet

/-- Refuse a value if a condition holds. -/
def rejectIf (condition : Bool) (r : Rejection) : Except Rejection Unit :=
  if condition then .error r else .ok ()

/-- Check ports that follow others with the given names. -/
def checkPorts (place : NamePlace) : (earlier : List String) → List Port → Except Rejection Unit
  | _, [] => .ok ()
  | earlier, p :: ps => do
    checkIdentifier p.name place
    rejectIf (earlier.contains p.name) (.duplicatePort p.name place)
    rejectIf (p.width == 0) (.emptyPort p.name place)
    checkPorts place (p.name :: earlier) ps

/-- Check the given names of interfaces that follow others. -/
def checkInterfaceNames (owner : String) :
    (earlier : List String) → List String → Except Rejection Unit
  | _, [] => .ok ()
  | earlier, name :: names => do
    checkIdentifier name .ofInterface
    rejectIf (earlier.contains name) (.duplicateInterface name owner)
    checkInterfaceNames owner (name :: earlier) names

/-- Check instances that follow others with the given names. -/
def checkInstances : (earlier : List String) → List Instance → Except Rejection Unit
  | _, [] => .ok ()
  | earlier, i :: is => do
    checkIdentifier i.name .ofInstance
    rejectIf (earlier.contains i.name) (.duplicateInstance i.name)
    rejectIf (i.bankWidth == some 0) (.emptyBank i.name)
    checkPorts .instancePort [] i.ports
    checkInterfaceNames i.name [] (i.interfaces.filterMap (·.name))
    checkInstances (i.name :: earlier) is

namespace Program

/-- Check that references name declared ports. -/
def checkRefs (p : Program) (statement : Nat) : List PortRef → Except Rejection Unit
  | [] => .ok ()
  | r :: rs => do
    rejectIf (p.shape? r.key).isNone (.unknownPort statement r)
    checkRefs p statement rs

/-- Check statements, the first of which has the given number. -/
def checkStatements (p : Program) : (number : Nat) → List Statement → Except Rejection Unit
  | _, [] => .ok ()
  | i, s :: ss => do
    rejectIf (s.left.isEmpty || s.right.isEmpty) (.emptySide i)
    p.checkRefs i (s.left ++ s.right)
    rejectIf (s.link.bind (·.serverPort) == some 0) (.serverPortZero i)
    checkStatements p (i + 1) ss

/-- Find the first reason to reject a program. -/
def validate (p : Program) : Except Rejection Unit := do
  checkPorts .programPort [] p.ports
  checkInstances [] p.instances
  p.checkStatements 0 p.statements

end Program

end ReactorNet
