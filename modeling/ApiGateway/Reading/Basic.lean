import ApiGateway.Json.Basic

/-
Typed values out of text formats.

A format gives each of its trees a few views: a text, a truth value, a list, a record. A typed value
is read through the views alone, so that one reader serves every format. A view is an action that
may fail; looking at a tree may also use up what a text may ask of its reader.

* `Content` - what a tree of unknown type holds; keys of mappings may be of any kind.
* `Attempt` - actions that may fail.
* `Readable` - the views of a tree. A view fails when the tree cannot be seen so.
* `members?` - the members of a record under the names that its type declares.
-/

namespace ApiGateway.Reading

/-- What a tree of unknown type holds. -/
inductive Content where
  | null
  | bool (value : Bool)
  | natural (value : Nat)
  /-- Zero with a minus sign. -/
  | minusZero
  /-- A number that is no natural number below `2 ^ 64`. -/
  | otherNumber
  | text (value : String)
  | sequence (items : List Content)
  | mapping (entries : List (Content × Content))
deriving Inhabited

/-- How a member of a record is pointed to. -/
inductive Label where
  | name (text : String)
  | position (index : Nat)
deriving DecidableEq

/-- A record: its members under labels, or in the order of their declaration. -/
inductive Record (ν : Type) where
  | labelled (members : List (Label × ν))
  | positional (members : List ν)

/-- Actions that may fail, one after the other or in place of one another. -/
class Attempt (m : Type → Type) extends Monad m, Alternative m

instance attemptOption : Attempt Option where

instance attemptState : Attempt (StateT σ Option) where

/-- The views of a tree, as actions of a kind. -/
class Readable (ν : Type) (m : outParam (Type → Type)) where
  text? : ν → m String
  bool? : ν → m Bool
  /-- A natural number below `2 ^ 64`. -/
  natural? : ν → m Nat
  /-- The tree itself, or nothing if it stands for an absent value. -/
  optional? : ν → m (Option ν)
  /-- The name of one of several fixed alternatives. -/
  choice? : ν → m String
  items? : ν → m (List ν)
  entries? : ν → m (List (ν × ν))
  record? : ν → m (Record ν)
  json? : ν → m Json
  content? : ν → m Content

export Readable (text? bool? natural? choice? items? entries? json? content?)

variable {ν : Type} {m : Type → Type} [Attempt m] [Readable ν m] {α β : Type}

/-- A value that may be absent. -/
def optional? (read : ν → m α) (v : ν) : m (Option α) := do
  match ← Readable.optional? v with
  | none => return none
  | some v => return some (← read v)

/-- A list of values. -/
def listOf? (read : ν → m α) (v : ν) : m (List α) := do (← items? v).mapM read

/-- Puts an entry at the end of a list of entries; if its key is there already, the entry there
takes the new value. -/
def putEntry [DecidableEq α] (entries : List (α × β)) (key : α) (value : β) : List (α × β) :=
  if entries.any (·.1 = key) then entries.map fun e => if e.1 = key then (key, value) else e
  else entries ++ [(key, value)]

/-- A mapping in the order of its keys' first appearance, the last value of each key. -/
def mapOf? [DecidableEq α] (readKey : ν → m α) (read : ν → m β) (v : ν) : m (List (α × β)) := do
  let entries ← (← entries? v).mapM fun (k, v) => do return (← readKey k, ← read v)
  return entries.foldl (fun es (k, v) => putEntry es k v) []

/-- The index of the member that a label points to. -/
def memberIndex (names : List (List String)) : Label → Option Nat
  | .name s => names.findIdx? (·.contains s)
  | .position i => if i < names.length then some i else none

/-- The members of a record, each under its declared names. Other labels are passed over, a member
given twice is an error, and so are more members in order than declared. -/
def members? (names : List (List String)) (v : ν) : m (List (Option ν)) := do
  match ← Readable.record? v with
  | .positional vs =>
    if names.length < vs.length then failure
    else return (List.range names.length).map fun i => vs[i]?
  | .labelled es =>
    let found := es.filterMap fun (l, v) => (memberIndex names l).map (·, v)
    if (found.map (·.1)).Nodup then
      return (List.range names.length).map fun i => found.lookup i
    else failure

/-- The member at an index, or a default when it is missing. -/
def memberD (ms : List (Option ν)) (i : Nat) (read : ν → m α) (default : α) : m α :=
  match ms[i]? with
  | some (some v) => read v
  | _ => pure default

/-- The member at an index, which must not be missing. -/
def member? (ms : List (Option ν)) (i : Nat) (read : ν → m α) : m α :=
  match ms[i]? with
  | some (some v) => read v
  | _ => failure

/-- A member that may be absent or missing. -/
def optionalMember (ms : List (Option ν)) (i : Nat) (read : ν → m α) : m (Option α) :=
  memberD ms i (optional? read) none

end ApiGateway.Reading
