import ApiGateway.Launching.Files
import ApiGateway.Text.Split

/-
A tree of files held in memory.

* `FileTree` - files, programs, directories and symbolic links at their places, the directory in
  which relative paths begin, and the directories in which programs are looked for.
* `FileTree.resolve` - the place that a path leads to.
* `FileTree.files` - the tree as a gateway sees it.
-/

namespace ApiGateway

inductive FileEntry where
  | file (content : Bytes)
  /-- A regular file that may be executed. -/
  | program (p : Program)
  | directory
  | link (target : String)

/-- A place in a tree: the names on the way from its root. -/
abbrev Place := List String

structure FileTree where
  entries : List (Place × FileEntry) := []
  /-- Where relative paths begin. -/
  workingDirectory : Place := []
  /-- Where a program is looked for that is named without a slash. -/
  searchPath : List Place := []

namespace FileTree

/-- What is at a place. The root is a directory. -/
def entry? (t : FileTree) (place : Place) : Option FileEntry :=
  if place.isEmpty then some .directory else t.entries.lookup place

/-- The steps that a path takes. -/
def steps (path : String) : List String := (Text.splitAt '/' path.toList).map String.ofList

/-- The places above a place, the root apart. -/
def parents (place : Place) : List Place :=
  (List.range (place.length - 1)).map fun i => place.take (i + 1)

/-- Puts an entry at a place, with the directories above it. -/
def addAt (t : FileTree) (place : Place) (e : FileEntry) : FileTree :=
  let missing := (parents place).filter fun p => (t.entry? p).isNone
  let others := t.entries.filter (·.1 ≠ place)
  { t with entries := others ++ missing.map (·, .directory) ++ [(place, e)] }

/-- Puts an entry at a path from the working directory. -/
def add (t : FileTree) (path : String) (e : FileEntry) : FileTree :=
  t.addAt (t.workingDirectory ++ (steps path).filter (· ≠ "")) e

/-! ### Paths -/

/-- The most bytes of a name. -/
def nameLimit : Nat := 255

/-- The most bytes of a path. -/
def pathLimit : Nat := 4095

/-- The most links that are followed on the way to a place. -/
def linkLimit : Nat := 40

def isAbsolute (path : String) : Bool := path.toList.head? == some '/'

/-- The place after one step down or up; the root is above itself. -/
def step (place : Place) (name : String) : Except FileError Place :=
  if name = "" || name = "." then .ok place
  else if name = ".." then .ok place.dropLast
  else if nameLimit < name.utf8ByteSize then .error .nameTooLong
  else .ok (place ++ [name])

/-- Follows steps from a place, where a number of links may be followed on the way and at the
end. -/
def walk (t : FileTree) (links : Nat) (place : Place) (names : List String) :
    Except FileError (Place × FileEntry) :=
  match t.entry? place, names with
  | none, _ => .error .notFound
  | some (.link target), names =>
    match links with
    | 0 => .error .linkLoop
    | links + 1 =>
      walk t links (if isAbsolute target then [] else place.dropLast) (steps target ++ names)
  | some e, [] => .ok (place, e)
  | some .directory, name :: names =>
    match step place name with
    | .ok place => walk t links place names
    | .error e => .error e
  | some _, _ :: _ => .error .notDirectory
termination_by (links, names.length)

/-- The place that a path leads to. -/
def resolve (t : FileTree) (path : String) : Except FileError (Place × FileEntry) :=
  if path.toList.contains '\x00' then .error .zeroInPath
  else if path.isEmpty then .error .notFound
  else if pathLimit < path.utf8ByteSize then .error .nameTooLong
  else t.walk linkLimit (if isAbsolute path then [] else t.workingDirectory) (steps path)

/-! ### What a gateway sees -/

/-- The entries of a directory. -/
def children (t : FileTree) (place : Place) : List DirectoryEntry :=
  t.entries.filterMap fun (p, e) =>
    match p.getLast? with
    | some name =>
      if p.dropLast = place then
        some ⟨name, match e with | .program _ => true | _ => false⟩
      else none
    | none => none

/-- The content of a file; a program's is no text. -/
def read (t : FileTree) (path : String) : Except FileError Bytes := do
  match (← t.resolve path).2 with
  | .file content => return content
  | .program _ => return [0xFF]
  | _ => throw .isDirectory

def list (t : FileTree) (path : String) : Except FileError (List DirectoryEntry) := do
  match ← t.resolve path with
  | (place, .directory) => return t.children place
  | _ => throw .notDirectory

/-- The program where a way ended. -/
def programAt (found : Except FileError (Place × FileEntry)) : Except FileError Program := do
  match (← found).2 with
  | .program p => return p
  | _ => throw .permissionDenied

/-- The program of a name in the first directory that has one. A file of the name that cannot be
executed is reported if there is no program. -/
def search (t : FileTree) (name : String) (denied : Bool) : List Place → Except FileError Program
  | [] => .error (if denied then .permissionDenied else .notFound)
  | place :: places =>
    match programAt (t.walk linkLimit place [name]) with
    | .ok p => .ok p
    | .error .permissionDenied => search t name true places
    | .error .nameTooLong => .error .nameTooLong
    | .error _ => search t name denied places

/-- The program at a path; a name without a slash is looked for. -/
def program (t : FileTree) (path : String) : Except FileError Program :=
  if path.isEmpty then .error .notFound
  else if path.toList.contains '/' then programAt (t.resolve path)
  else t.search path false t.searchPath

def files (t : FileTree) : Files where
  read := t.read
  list := t.list
  program := t.program

end FileTree

end ApiGateway
