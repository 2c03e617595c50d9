/-!
# `ReactorNet.Command.Arguments` · the arguments of the command line

What the command line asks for, read from its arguments: a subcommand with the file it works on, or
the version. Options may stand before and behind the file; behind `--` there are files only.
`Request.read?` gives nothing for arguments that do not fit.
-/

namespace ReactorNet.Command

/-- The format of a printed report. -/
inductive ReportFormat where
  /-- JSON. -/
  | json
  /-- YAML. -/
  | yaml
deriving DecidableEq, Repr

/-- The format that an argument names. -/
def ReportFormat.ofName? : String → Option ReportFormat
  | "json" => some json
  | "yaml" => some yaml
  | _ => none

/-- What the command line asks for. -/
inductive Request where
  /-- Print the report about the program in a file. -/
  | resolve (path : String) (format : ReportFormat)
  /-- Print one line about the program in a file. -/
  | check (path : String)
  /-- Print the version. -/
  | version
deriving DecidableEq, Repr

/-- The subcommands. -/
inductive Subcommand where
  /-- Print a report. -/
  | resolve
  /-- Print one line. -/
  | check
deriving DecidableEq, Repr

/-- The subcommand that an argument names. -/
def Subcommand.ofName? : String → Option Subcommand
  | "resolve" => some resolve
  | "check" => some check
  | _ => none

/-- What was read of the arguments of a subcommand. -/
structure Gathered where
  /-- The file. -/
  path : Option String := none
  /-- The format. -/
  format : Option ReportFormat := none

/-- Take a file, unless there is one already. A file has a name. -/
def Gathered.takePath (p : Gathered) (path : String) : Option Gathered :=
  if p.path.isSome || path.isEmpty then none else some { p with path := path }

/-- Take the name of a format, unless there is one already. Only reports have a format. -/
def Gathered.takeFormat (p : Gathered) (sub : Subcommand) (name : List Char) : Option Gathered :=
  if sub == .check || p.format.isSome then none
  else (ReportFormat.ofName? (.ofList name)).map fun f => { p with format := some f }

/-- What the letters behind a single hyphen mean. -/
inductive Letters where
  /-- The verbosity is raised; nothing else. -/
  | verbose
  /-- The version is asked for. -/
  | version
  /-- A format follows: the characters behind the letter, or the next argument. -/
  | format (name : Option (List Char))
deriving DecidableEq, Repr

/-- Read the letters behind a single hyphen. -/
def Letters.read? : List Char → Option Letters
  | [] => none
  | ['v'] => some .verbose
  | 'v' :: cs => read? cs
  | 'V' :: _ => some .version
  | ['f'] => some (.format none)
  | 'f' :: '=' :: cs => some (.format (some cs))
  | 'f' :: cs => some (.format (some cs))
  | _ => none

/-- The name behind `--format=`. -/
def formatOption? (arg : List Char) : Option (List Char) :=
  let opening := "--format=".toList
  if opening.isPrefixOf arg then some (arg.drop opening.length) else none

/-- Whether an argument is an option: a hyphen with something behind it. -/
def isOption : List Char → Bool
  | '-' :: _ :: _ => true
  | _ => false

/-- Read arguments that are files only. -/
def readPaths : List String → Gathered → Option Gathered
  | [], p => some p
  | arg :: args, p => (p.takePath arg).bind (readPaths args)

/-- Read the arguments behind a subcommand. -/
def readRest (sub : Subcommand) : List String → Gathered → Option Gathered
  | [], p => some p
  | "--" :: args, p => readPaths args p
  | "--verbose" :: args, p => readRest sub args p
  | "--format" :: name :: args, p =>
    if isOption name.toList then none
    else (p.takeFormat sub name.toList).bind (readRest sub args)
  | arg :: args, p =>
    match formatOption? arg.toList with
    | some name => (p.takeFormat sub name).bind (readRest sub args)
    | none =>
      match arg.toList with
      | '-' :: '-' :: _ => none
      | '-' :: c :: cs =>
        match Letters.read? (c :: cs), args with
        | some .verbose, args => readRest sub args p
        | some (.format (some name)), args => (p.takeFormat sub name).bind (readRest sub args)
        | some (.format none), name :: args =>
          if isOption name.toList then none
          else (p.takeFormat sub name.toList).bind (readRest sub args)
        | _, _ => none
      | _ => (p.takePath arg).bind (readRest sub args)

/-- The request that a subcommand and its arguments make up. -/
def request? (sub : Subcommand) (p : Gathered) : Option Request := do
  let path ← p.path
  match sub with
  | .resolve => return .resolve path (p.format.getD .json)
  | .check => return .check path

/-- Read the arguments of the command line. -/
def Request.read? : List String → Option Request
  | [] => none
  | "--version" :: _ => some .version
  | "--verbose" :: args => read? args
  | arg :: args =>
    match arg.toList with
    | '-' :: '-' :: _ => none
    | '-' :: c :: cs =>
      match Letters.read? (c :: cs) with
      | some .verbose => read? args
      | some .version => some .version
      | _ => none
    | _ => do
      let sub ← Subcommand.ofName? arg
      request? sub (← readRest sub args {})

end ReactorNet.Command
