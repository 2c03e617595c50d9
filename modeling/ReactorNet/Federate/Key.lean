/-!
# `ReactorNet.Federate.Key` · the identity of a federate

A federate is an instance of a program, or one member of a bank. Its key says which, and its name is
written from the key.
-/

namespace ReactorNet

/-- The identity of a federate. -/
structure FederateKey where
  /-- The name of the instance. -/
  instanceName : String
  /-- The bank index, if the instance is a bank. -/
  bankIndex : Option Nat
deriving DecidableEq, Repr

/-- The name of a federate: that of its instance, with the bank index behind it. -/
def FederateKey.text (k : FederateKey) : String :=
  match k.bankIndex with
  | some i => k.instanceName ++ "_" ++ toString i
  | none => k.instanceName

/-- Which number the federate with a given key has; of several entries the first counts. -/
abbrev Owners := List (FederateKey × Nat)

end ReactorNet
