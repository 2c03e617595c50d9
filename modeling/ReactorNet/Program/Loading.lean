import ReactorNet.Program.Decoding
import ReactorNet.Program.Validation
import ReactorNet.Yaml.Source
import ReactorNet.Toml.Document

/-!
# `ReactorNet.Program.Loading` · programs from texts and files

Reading a program from a YAML or a TOML text and checking it, and choosing between the two by the
name of a file. What a file holds is an argument here; reading it is left to whoever calls.

A file is read before its name is looked at, and a text is decoded as a whole before it is checked.
-/

namespace ReactorNet

/-- Why a file cannot be read as text. -/
inductive ReadFault where
  /-- There is no such file. -/
  | missing
  /-- The path leads through something that is no directory. -/
  | notDirectory
  /-- The path is that of a directory. -/
  | isDirectory
  /-- A part of the path is too long to be a name. -/
  | nameTooLong
  /-- The content is no text. -/
  | notText
deriving DecidableEq, Repr

/-- The message of a fault in reading. -/
def ReadFault.message : ReadFault → String
  | missing => "No such file or directory (os error 2)"
  | notDirectory => "Not a directory (os error 20)"
  | isDirectory => "Is a directory (os error 21)"
  | nameTooLong => "File name too long (os error 36)"
  | notText => "stream did not contain valid UTF-8"

/-- Why a program cannot be loaded. -/
inductive LoadFault where
  /-- The text is no YAML text of the schema. -/
  | yaml
  /-- The text is no TOML text of the schema. -/
  | toml
  /-- The file cannot be read. -/
  | unreadable (path : String) (cause : ReadFault)
  /-- The name of the file belongs to no format. -/
  | unsupportedFormat (path : String)
  /-- The program is rejected. -/
  | rejected (r : Rejection)
deriving DecidableEq, Repr

namespace LoadFault

/-- The message of a fault. What is wrong with a text is not told in detail. -/
def message : LoadFault → String
  | yaml => "YAML configuration error"
  | toml => "TOML configuration error"
  | unreadable path cause => "Failed to read " ++ path ++ ": " ++ cause.message
  | unsupportedFormat path => "Unsupported configuration format: " ++ path
  | rejected r => r.message

/-- The field that a fault is about. -/
def field? : LoadFault → Option String
  | rejected r => some r.field
  | _ => none

end LoadFault

/-- A text format. -/
inductive TextFormat where
  /-- YAML. -/
  | yaml
  /-- TOML. -/
  | toml
deriving DecidableEq, Repr

/-- The last part of a path. -/
def fileName (path : String) : String :=
  ((path.splitOn "/").filter fun part => part != "" && part != ".").getLast?.getD ""

/-- What stands behind the last dot of a file name, unless that is its first character. -/
def fileExtension? (name : String) : Option String :=
  if name == ".." then none
  else
    let cs := name.toList.reverse
    match cs.dropWhile (· != '.') with
    | _ :: _ :: _ => some (.ofList (cs.takeWhile (· != '.')).reverse)
    | _ => none

/-- The format that the name of a file belongs to. -/
def TextFormat.ofPath? (path : String) : Option TextFormat :=
  match fileExtension? (fileName path) with
  | some "yaml" => some .yaml
  | some "yml" => some .yaml
  | some "toml" => some .toml
  | _ => none

namespace Program

/-- Decode a program from a text, without checking it. -/
def decodeText (format : TextFormat) (text : String) : Except LoadFault Program :=
  match format with
  | .yaml =>
    match Yaml.Document.read? text with
    | .ok d => (Program.decode Yaml.format (.ofDocument d)).mapError fun _ => .yaml
    | .error _ => .error .yaml
  | .toml =>
    match Toml.read? text with
    | some v => (Program.decode .toml v).mapError fun _ => .toml
    | none => .error .toml

/-- Read a program from a text and check it. -/
def ofText (format : TextFormat) (text : String) : Except LoadFault Program := do
  let p ← decodeText format text
  (p.validate).mapError .rejected
  return p

/-- Read a program from what was found at a path. -/
def ofFile (path : String) (found : Except ReadFault String) : Except LoadFault Program :=
  match found with
  | .error cause => .error (.unreadable path cause)
  | .ok text =>
    match TextFormat.ofPath? path with
    | some format => ofText format text
    | none => .error (.unsupportedFormat path)

end Program

end ReactorNet
