import ReactorNet.Command.Arguments
import ReactorNet.Federation.Report
import ReactorNet.Json.Printer
import ReactorNet.Yaml.Printer

/-!
# `ReactorNet.Command.Run` · what the command line answers

The answer to the arguments of the command line: an exit status and the texts for standard output
and standard error. Reading files is left to the caller, who says what is found at a path;
everything else happens here.
-/

namespace ReactorNet.Command

/-- The name and version that are printed. -/
def versionText : String := "lfuc-fed 0.1.0"

/-- What the command line answers. -/
structure Answer where
  /-- The exit status: 0 for success, 1 for a fault, 2 for arguments that do not fit. -/
  status : Nat
  /-- The text for standard output. -/
  output : String := ""
  /-- The text for standard error. -/
  errors : String := ""
deriving Repr, DecidableEq

/-- The message of a fault with what it was about in front, and the fault behind it repeated. -/
def faultText (about : String) (fault : ResolutionFault) : String :=
  "error (" ++ fault.blame.title ++ "): " ++ about ++ ": " ++ fault.message ++
    match fault.innerMessage? with
    | some inner => ": " ++ inner
    | none => ""

/-- The topology of the program in a file, or the text of a fault. -/
def topology (read : String → Except ReadFault String) (path : String) :
    Except String Federation :=
  match Program.ofFile path (read path) with
  | .error fault => .error (faultText ("Failed to load " ++ path) (.description fault))
  | .ok p => (Federation.resolve p).mapError (faultText ("Failed to resolve " ++ p.name))

/-- A topology as the text of a report. -/
def render (format : ReportFormat) (f : Federation) : String :=
  match format with
  | .json => f.report.pretty
  | .yaml => Yaml.render f.report

/-- What is printed for a request. -/
def printed (read : String → Except ReadFault String) : Request → Except String String
  | .resolve path format => (topology read path).map (render format)
  | .check path => (topology read path).map fun f => "✅ " ++ f.summary
  | .version => .ok versionText

/-- The answer to arguments. -/
def run (read : String → Except ReadFault String) (args : List String) : Answer :=
  match Request.read? args with
  | none => { status := 2 }
  | some request =>
    match printed read request with
    | .ok text => { status := 0, output := text ++ "\n" }
    | .error text => { status := 1, errors := text ++ "\n" }

/-- The first line of the standard error that reports an error. -/
def Answer.errorLine? (a : Answer) : Option String :=
  (a.errors.splitOn "\n").find? fun line => "error".toList.isPrefixOf line.toList

end ReactorNet.Command
