import ReactorNet.Program.Rejection
import ReactorNet.Text.Blank
import ReactorNet.Text.Identifier

/-!
# `ReactorNet.Port.Reading` · reading a reference to a port

`PortRef.read?` reads `port`, `instance.port`, or either of them between `interleaved(` and `)`. White
space around the whole and inside the brackets is dropped; the path itself is one identifier, or two
with a single dot between them.
-/

namespace ReactorNet

open ReactorNet.Text

/-- Make sure that a name is an identifier. -/
def checkIdentifier (name : String) (place : NamePlace) : Except Rejection Unit :=
  if isIdentifier name.toList then .ok () else .error (.notIdentifier name place)

namespace PortRef

/-- What stands between the brackets of an interleaved reference, if the text is one. -/
def bracketed? (cs : List Char) : Option (List Char) :=
  let opening := interleavedOpening.toList
  if opening.isPrefixOf cs then
    let inner := cs.drop opening.length
    if inner.getLast? == some ')' then some inner.dropLast else none
  else none

/-- The port that a path names: what stands before the first dot is the instance. -/
def readPath (cs : List Char) : Except Rejection PortKey := do
  let first := cs.takeWhile (· != '.')
  match cs.dropWhile (· != '.') with
  | [] =>
    checkIdentifier (.ofList cs) .portReference
    return ⟨none, .ofList cs⟩
  | _ :: port =>
    checkIdentifier (.ofList first) .portReference
    checkIdentifier (.ofList port) .portReference
    return ⟨some (.ofList first), .ofList port⟩

/-- Read a reference. -/
def read? (s : String) : Except Rejection PortRef :=
  let cs := trim s.toList
  match bracketed? cs with
  | some inner => (readPath (trim inner)).map (⟨·, true⟩)
  | none => (readPath cs).map (⟨·, false⟩)

end PortRef

end ReactorNet
