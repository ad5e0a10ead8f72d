import ApiGateway.Yaml.Token
import ApiGateway.Yaml.Tag

/-
The tree of a YAML text: what its tokens say, before aliases are followed.

* `Tree` - aliases, scalars, sequences and mappings with their anchors and tags; anchors are names
  in a text.
* `Tree.ofTokens?` - the tree of the one document of a text; a text without a document has no tree.
-/

namespace ApiGateway.Yaml

/-- The properties of a node: its anchor and its full tag. -/
structure Properties (α : Type) where
  anchor : Option α := none
  tag : Option Tag := none
deriving DecidableEq, Repr

/-- A tree with anchors of a type. -/
inductive Tree (α : Type) where
  | alias (anchor : α)
  | scalar (properties : Properties α) (text : String) (style : Style)
  | sequence (properties : Properties α) (items : List (Tree α))
  | mapping (properties : Properties α) (entries : List (Tree α × Tree α))
deriving Inhabited

namespace Tree

/-- What stands where a node is left out. -/
def empty : Tree String := .scalar {} "" .plain

/-- The handles of tags with the texts they stand for. -/
abbrev Handles := List (String × Bytes)

/-- The handles that need no directive. -/
def standardHandles : Handles := [("!", [0x21]), ("!!", Tag.standard "")]

/-! ### Properties -/

/-- The full tag of a handle and suffix. -/
def fullTag (handles : Handles) (handle : String) (suffix : Bytes) : Option Tag :=
  if handle.isEmpty then some (Tag.ofParts [] suffix)
  else (handles.lookup handle).map (Tag.ofParts · suffix)

/-- The properties before a node, an anchor and a tag at most once each, in either order. -/
def properties (handles : Handles) : List Token → Option (Properties String × List Token)
  | .anchor a :: .tag h s :: ts => do return (⟨some a, some (← fullTag handles h s)⟩, ts)
  | .anchor a :: ts => some (⟨some a, none⟩, ts)
  | .tag h s :: .anchor a :: ts => do return (⟨some a, some (← fullTag handles h s)⟩, ts)
  | .tag h s :: ts => do return (⟨none, some (← fullTag handles h s)⟩, ts)
  | ts => some ({}, ts)

/-- Properties without a node are those of an empty scalar. -/
def bare (p : Properties String) (ts : List Token) : Option (Tree String × List Token) :=
  if p.anchor.isSome || p.tag.isSome then some (.scalar p "" .plain, ts) else none

/-! ### Where a node is left out -/

/-- A token after which a block entry without a node goes on. -/
def endsEntry : List Token → Bool
  | .blockEntry :: _ => true
  | .blockEnd :: _ => true
  | _ => false

/-- A token after which a key or value without a node goes on. -/
def endsPart : List Token → Bool
  | .key :: _ => true
  | .value :: _ => true
  | .blockEnd :: _ => true
  | _ => false

/-- The same within brackets that are closed by a given token. -/
def endsFlowPart (close : Token) : List Token → Bool
  | .flowEntry :: _ => true
  | t :: _ => t == close
  | [] => false

/-- The same after the mark of a key. -/
def endsFlowKey (close : Token) : List Token → Bool
  | .value :: _ => true
  | ts => endsFlowPart close ts

/-- The tokens of the next item within brackets: all items but the first follow a comma. -/
def nextItem? (first : Bool) : List Token → Option (List Token)
  | .flowEntry :: ts => some (if first then .flowEntry :: ts else ts)
  | ts => if first then some ts else none

/-! ### Nodes -/

mutual
/-- A node. Block collections stand only outside brackets, and a sequence without indentation only
as a key or value. The fuel exceeds the number of nested calls. -/
def node (handles : Handles) (block indentless : Bool) :
    Nat → List Token → Option (Tree String × List Token)
  | 0, _ => none
  | fuel + 1, ts =>
    match ts with
    | .alias name :: ts => some (.alias name, ts)
    | ts => do
      let (p, ts) ← properties handles ts
      match ts with
      | .blockEntry :: _ =>
        if indentless then do
          let (items, ts) ← looseItems handles fuel ts
          return (.sequence p items, ts)
        else bare p ts
      | .scalar text style :: ts => return (.scalar p text style, ts)
      | .flowSequenceStart :: ts => do
        let (items, ts) ← flowItems handles true fuel ts
        return (.sequence p items, ts)
      | .flowMappingStart :: ts => do
        let (entries, ts) ← flowEntries handles true fuel ts
        return (.mapping p entries, ts)
      | .blockSequenceStart :: rest =>
        if block then do
          let (items, ts) ← blockItems handles fuel rest
          return (.sequence p items, ts)
        else bare p ts
      | .blockMappingStart :: rest =>
        if block then do
          let (entries, ts) ← blockEntries handles fuel rest
          return (.mapping p entries, ts)
        else bare p ts
      | ts => bare p ts

/-- The entries of a block sequence, up to and including its end. -/
def blockItems (handles : Handles) : Nat → List Token → Option (List (Tree String) × List Token)
  | 0, _ => none
  | fuel + 1, ts =>
    match ts with
    | .blockEnd :: ts => some ([], ts)
    | .blockEntry :: ts => do
      let (item, ts) ← if endsEntry ts then some (empty, ts) else node handles true false fuel ts
      let (items, ts) ← blockItems handles fuel ts
      return (item :: items, ts)
    | _ => none

/-- The entries of a sequence that stands at the column of its mapping. -/
def looseItems (handles : Handles) : Nat → List Token → Option (List (Tree String) × List Token)
  | 0, _ => none
  | fuel + 1, ts =>
    match ts with
    | .blockEntry :: ts => do
      let (item, ts) ← if endsEntry ts || endsPart ts then some (empty, ts)
        else node handles true false fuel ts
      let (items, ts) ← looseItems handles fuel ts
      return (item :: items, ts)
    | ts => some ([], ts)

/-- The entries of a block mapping, up to and including its end. -/
def blockEntries (handles : Handles) :
    Nat → List Token → Option (List (Tree String × Tree String) × List Token)
  | 0, _ => none
  | fuel + 1, ts =>
    match ts with
    | .blockEnd :: ts => some ([], ts)
    | .key :: ts => do
      let (key, ts) ← if endsPart ts then some (empty, ts) else node handles true true fuel ts
      let (value, ts) ← blockValue handles fuel ts
      let (entries, ts) ← blockEntries handles fuel ts
      return ((key, value) :: entries, ts)
    | _ => none

/-- The value after a key, empty where it is left out. -/
def blockValue (handles : Handles) : Nat → List Token → Option (Tree String × List Token)
  | 0, _ => none
  | fuel + 1, ts =>
    match ts with
    | .value :: ts => if endsPart ts then some (empty, ts) else node handles true true fuel ts
    | ts => some (empty, ts)

/-- The same within brackets that are closed by a given token. -/
def flowValue (handles : Handles) (close : Token) :
    Nat → List Token → Option (Tree String × List Token)
  | 0, _ => none
  | fuel + 1, ts =>
    match ts with
    | .value :: ts =>
      if endsFlowPart close ts then some (empty, ts) else node handles false false fuel ts
    | ts => some (empty, ts)

/-- The items of a bracketed sequence, up to and including its closing bracket. A key makes a
mapping of one entry; a key without a node takes the next token with it. -/
def flowItems (handles : Handles) (first : Bool) :
    Nat → List Token → Option (List (Tree String) × List Token)
  | 0, _ => none
  | fuel + 1, ts =>
    match ts with
    | .flowSequenceEnd :: ts => some ([], ts)
    | ts => do
      match ← nextItem? first ts with
      | .flowSequenceEnd :: ts => return ([], ts)
      | .key :: ts => do
        let (key, ts) ← if endsFlowKey .flowSequenceEnd ts then some (empty, ts.drop 1)
          else node handles false false fuel ts
        let (value, ts) ← flowValue handles .flowSequenceEnd fuel ts
        let (items, ts) ← flowItems handles false fuel ts
        return (.mapping {} [(key, value)] :: items, ts)
      | ts => do
        let (item, ts) ← node handles false false fuel ts
        let (items, ts) ← flowItems handles false fuel ts
        return (item :: items, ts)

/-- The entries of a bracketed mapping, up to and including its closing bracket. -/
def flowEntries (handles : Handles) (first : Bool) :
    Nat → List Token → Option (List (Tree String × Tree String) × List Token)
  | 0, _ => none
  | fuel + 1, ts =>
    match ts with
    | .flowMappingEnd :: ts => some ([], ts)
    | ts => do
      match ← nextItem? first ts with
      | .flowMappingEnd :: ts => return ([], ts)
      | .key :: ts => do
        let (key, ts) ← if endsFlowKey .flowMappingEnd ts then some (empty, ts)
          else node handles false false fuel ts
        let (value, ts) ← flowValue handles .flowMappingEnd fuel ts
        let (entries, ts) ← flowEntries handles false fuel ts
        return ((key, value) :: entries, ts)
      | ts => do
        let (key, ts) ← node handles false false fuel ts
        let (entries, ts) ← flowEntries handles false fuel ts
        return ((key, empty) :: entries, ts)
end

/-! ### Documents -/

/-- The directives of a document: at most one version, which is 1.1 or 1.2, and no handle twice. -/
def directives (versioned : Bool) (handles : Handles) : List Token → Option (Handles × List Token)
  | .versionDirective major minor :: ts =>
    if versioned || major != 1 || (minor != 1 && minor != 2) then none
    else directives true handles ts
  | .tagDirective handle uri :: ts =>
    if (handles.lookup handle).isSome then none
    else directives versioned ((handle, uri) :: handles) ts
  | ts => some (handles, ts)

/-- A document has no content before one of these. -/
def isDocumentMark : Token → Bool
  | .versionDirective _ _ => true
  | .tagDirective _ _ => true
  | .documentStart => true
  | .documentEnd => true
  | .streamEnd => true
  | _ => false

/-- The tokens open a document with directives or its mark. -/
def isExplicit : List Token → Bool
  | .versionDirective _ _ :: _ => true
  | .tagDirective _ _ :: _ => true
  | .documentStart :: _ => true
  | _ => false

/-- The first document, and the tokens after it. -/
def document (fuel : Nat) (ts : List Token) : Option (Tree String × List Token) := do
  if isExplicit ts then do
    let (handles, ts) ← directives false [] ts
    match ts with
    | .documentStart :: ts =>
      if ts.head?.any isDocumentMark then return (empty, ts)
      else node (handles ++ standardHandles) true false fuel ts
    | _ => none
  else node standardHandles true false fuel ts

/-- The tree of the only document of a text. The outer option is for errors, the inner one for a
text without a document. -/
def ofTokens? (ts : List Token) : Option (Option (Tree String)) :=
  match ts with
  | [.streamEnd] => some none
  | ts => do
    let (tree, rest) ← document (4 * ts.length + 8) ts
    if rest.dropWhile (· == .documentEnd) == [.streamEnd] then return some tree else none

end Tree

end ApiGateway.Yaml
