import ApiGateway.Launching.FileTree

/-
The files that are on every system.

* `FileTree.system` - the usual directories, devices and programs around an empty working directory.
-/

namespace ApiGateway.FileTree

/-- A program that is no backend: it announces nothing. -/
def idleProgram : Program := ⟨[], ServiceHandler.echo⟩

/-- The directories of every system. -/
def systemDirectories : List Place :=
  [["bin"], ["dev"], ["etc"], ["home"], ["lib"], ["opt"], ["proc"], ["root"], ["run"], ["sbin"],
    ["sys"], ["tmp"], ["usr", "bin"], ["usr", "lib"], ["usr", "local", "bin"], ["usr", "sbin"],
    ["usr", "share"], ["var"]]

/-- Devices that hold nothing to read. -/
def emptyDevices : List Place := [["dev", "null"], ["dev", "stdin"]]

/-- The names of programs of every system. -/
def systemPrograms : List String :=
  ["bash", "cat", "cp", "date", "dd", "echo", "env", "false", "grep", "head", "ls", "mv", "pwd",
    "rm", "sed", "sh", "sleep", "sort", "tail", "tee", "test", "true", "wc", "yes"]

/-- The usual directories, devices and programs around an empty working directory. -/
def system : FileTree :=
  let directory : Place := ["tmp", "gateway-7c1e04b9"]
  let t : FileTree := {
    workingDirectory := directory
    searchPath := [["usr", "local", "bin"], ["usr", "bin"], ["bin"]] }
  let t := (systemDirectories ++ [directory]).foldl (fun t p => t.addAt p .directory) t
  let t := emptyDevices.foldl (fun t p => t.addAt p (.file [])) t
  let t := t.addAt ["etc", "passwd"] (.file (Text.encode "root:x:0:0:root:/root:/bin/sh\n"))
  systemPrograms.foldl (fun t name =>
    (t.addAt ["usr", "bin", name] (.program idleProgram)).addAt ["bin", name]
      (.program idleProgram)) t

end ApiGateway.FileTree
