import ReactorNet.Program.Loading

/-!
# `ReactorNet.Command.Directory` · files by name

A directory that holds files and nothing else, and what is found at a path that starts from it. It
stands in for a file system where the content of all files is given.
-/

namespace ReactorNet.Command

/-- A directory: the names and contents of its files. -/
abbrev Directory := List (String × Except ReadFault String)

namespace Directory

/-- The longest name of a file, in bytes. -/
def maxNameLength : Nat := 255

/-- Follow the parts of a path; the flag says that a slash stands at its end. -/
def follow (d : Directory) (slash : Bool) : List String → Except ReadFault String
  | [] => .error .isDirectory
  | "." :: parts => follow d slash parts
  | ".." :: parts => .error (if parts.isEmpty then .isDirectory else .missing)
  | name :: parts =>
    if maxNameLength < name.utf8ByteSize then .error .nameTooLong
    else
      match d.lookup name with
      | none => .error .missing
      | some content => if slash || !parts.isEmpty then .error .notDirectory else content

/-- What is found at a path. -/
def read (d : Directory) (path : String) : Except ReadFault String :=
  let parts := (path.splitOn "/").filter (!·.isEmpty)
  let startsElsewhere := path.isEmpty || (path.toList.head? == some '/' && !parts.isEmpty)
  if startsElsewhere then .error .missing
  else d.follow (path.toList.getLast? == some '/') parts

end Directory

end ReactorNet.Command
