import ApiGateway.Proxy.Backend

/-
The files that a gateway works with, as far as it sees them.

* `FileError` - why a file cannot be had.
* `Program` - what an executable file does once it is started.
* `Files` - the answers of a file system: contents, directories, programs.
-/

namespace ApiGateway

inductive FileError where
  | notFound
  | permissionDenied
  | notDirectory
  | isDirectory
  /-- Symbolic links lead in a circle. -/
  | linkLoop
  | nameTooLong
  /-- A path with a zero character. -/
  | zeroInPath
  | other (reason : String)
deriving DecidableEq

namespace FileError

def message : FileError → String
  | .notFound => "No such file or directory (os error 2)"
  | .permissionDenied => "Permission denied (os error 13)"
  | .notDirectory => "Not a directory (os error 20)"
  | .isDirectory => "Is a directory (os error 21)"
  | .linkLoop => "Too many levels of symbolic links (os error 40)"
  | .nameTooLong => "File name too long (os error 36)"
  | .zeroInPath => "file name contained an unexpected NUL byte"
  | .other reason => reason

end FileError

/-- A backend: once started it announces its services and answers calls of them. -/
structure Program where
  services : List String
  handler : ServiceHandler

/-- An entry of a directory. -/
structure DirectoryEntry where
  name : String
  /-- A regular file, no link to one, that may be executed. -/
  isExecutable : Bool
deriving DecidableEq

structure Files where
  read : String → Except FileError Bytes
  list : String → Except FileError (List DirectoryEntry)
  /-- The program that a path names. -/
  program : String → Except FileError Program

namespace Files

/-- The text of a file. -/
def readText (fs : Files) (path : String) : Except FileError String := do
  match Text.decode? (← fs.read path) with
  | some s => return s
  | none => throw (.other "stream did not contain valid UTF-8")

end Files

end ApiGateway
