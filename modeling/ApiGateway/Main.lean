import ApiGateway.Cli.Run

/-
The program: reads the files that its arguments name, runs the command on them and prints the
outcome. It starts no backends and makes no calls over HTTP.
-/

namespace ApiGateway.Cli

/-- Why a file could not be read. -/
def fileError : IO.Error → FileError
  | .noFileOrDirectory .. => .notFound
  | .permissionDenied .. => .permissionDenied
  | .inappropriateType _ 20 _ => .notDirectory
  | .inappropriateType .. => .isDirectory
  | .invalidArgument _ 36 _ => .nameTooLong
  | .invalidArgument _ 40 _ => .linkLoop
  | e => .other (toString e)

def readFile (path : String) : IO (Except FileError Bytes) := do
  try
    return .ok (← IO.FS.readBinFile path).data.toList
  catch e => return .error (fileError e)

/-- The files that a command names. -/
def Command.paths : Command → List String
  | .validate path => [path]
  | .plan path => [path]
  | .endpoints path => [path]
  | .invoke path _ _ params g => path :: (params.toList ++ g.config.toList)
  | .call _ _ _ _ g => g.config.toList

/-- Files that were read before; there are no backends among them. -/
def filesOf (contents : List (String × Except FileError Bytes)) : Files where
  read path := (contents.lookup path).getD (.error .notFound)
  list _ := .ok []
  program _ := .error .permissionDenied

def execute (i : Invocation) : IO UInt32 := do
  let contents ← i.command.paths.mapM fun path => return (path, ← readFile path)
  let http : HttpTransport := fun _ _ _ => .error (.http "not available")
  let o := run (filesOf contents) http i
  IO.print o.stdout
  IO.eprint o.stderr
  return o.code.toNat.toUInt32

end ApiGateway.Cli

open ApiGateway.Cli in
def main (args : List String) : IO UInt32 := do
  match Invocation.parse? args with
  | some i => execute i
  | none =>
    IO.eprintln "usage: validate | plan | endpoints | invoke | call"
    return 2
