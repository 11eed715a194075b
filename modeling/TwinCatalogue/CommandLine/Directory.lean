import TwinCatalogue.CommandLine.Run

/-!
A working directory that holds files and no other directories. Reading and writing fail as they do
on a disk, and names outside the directory lead nowhere.
-/

namespace TwinCatalogue.CommandLine

structure Directory where
  files : List (String × String)
  deriving DecidableEq, Repr

namespace Directory

def missing : String := "No such file or directory (os error 2)"

def notDirectory : String := "Not a directory (os error 20)"

def isDirectory : String := "Is a directory (os error 21)"

inductive Place where
  | directory
  | file (name : String)
  | below (name : String)
  | outside
  deriving DecidableEq, Repr

def place (path : String) : Place :=
  let parts := path.toList.splitOn '/'
  let names := (parts.filter fun part => !part.isEmpty && part != ['.']).map String.ofList
  if Text.startsWith path "/" || path = "" || names.contains ".." then .outside
  else
    match names with
    | [] => .directory
    | [name] => if parts.getLast? = some name.toList then .file name else .below name
    | name :: _ => .below name

def failureBelow (d : Directory) (name : String) : String :=
  if (d.files.lookup name).isSome then notDirectory else missing

def read (d : Directory) (path : String) : Except String String :=
  match place path with
  | .outside => .error missing
  | .directory => .error isDirectory
  | .below name => .error (d.failureBelow name)
  | .file name =>
    match d.files.lookup name with
    | some text => .ok text
    | none => .error missing

def write (d : Directory) (path text : String) : Except String Directory :=
  match place path with
  | .outside => .error missing
  | .directory => .error isDirectory
  | .below name => .error (d.failureBelow name)
  | .file name => .ok ⟨(name, text) :: d.files⟩

def conclude (d : Directory) (c : Conclusion) : Report × Directory :=
  match c.metrics with
  | none => (c.report (.ok ()), d)
  | some (path, text) =>
    match d.write path text with
    | .ok d' => (c.report (.ok ()), d')
    | .error reason => (c.report (.error reason), d)

end Directory

end TwinCatalogue.CommandLine
