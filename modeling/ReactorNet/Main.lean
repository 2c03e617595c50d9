import ReactorNet.Command.Run

/-!
# `ReactorNet.Main` · the command line

The outer layer of the program: it hands the arguments and a way to read files to `Command.run` and
prints the answer.
-/

namespace ReactorNet.Command

/-- Why a file could not be read. -/
def readFault : IO.Error → ReadFault
  | .noFileOrDirectory .. => .missing
  | .noSuchThing .. => .missing
  | .inappropriateType .. => .isDirectory
  | _ => .notDirectory

/-- What is found at a path. -/
def readText (path : String) : IO (Except ReadFault String) := do
  try
    let bytes ← IO.FS.readBinFile path
    match String.fromUTF8? bytes with
    | some text => return .ok text
    | none => return .error .notText
  catch e => return .error (readFault e)

/-- The file that the arguments name, if they name one. -/
def namedFile? (args : List String) : Option String :=
  match Request.read? args with
  | some (.resolve path _) => some path
  | some (.check path) => some path
  | _ => none

end ReactorNet.Command

open ReactorNet.Command in
/-- Run the command line. -/
def main (args : List String) : IO UInt32 := do
  let found ← match namedFile? args with
    | some path => readText path
    | none => pure (.error .missing)
  let answer := run (fun _ => found) args
  IO.print answer.output
  IO.eprint answer.errors
  return answer.status.toUInt32
