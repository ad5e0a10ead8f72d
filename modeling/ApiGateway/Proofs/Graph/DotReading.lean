import ApiGateway.Proofs.Attempts

/-
Reading the language of drawings.

Only as much of the language is read as drawings of graphs are written in: attributes, nodes and
arrows, and groups of them. A text is cut into tokens first. In quotes a backslash takes a quote
with it, so that it does not end them; whether it takes a backslash too is left open.

* `Dot.Mode.step` - what one more character does; `Dot.scan` - what a text does from a mode on.
* `Dot.Statement.of?`, `Dot.items` - what the tokens mean.
* `Dot.parse?` - the drawing that a text stands for.
* `Dot.Stands` - a piece of text that stands for some items, wherever it is written between others
  (`Dot.Stands.append`).
-/

namespace ApiGateway.Dot

/-- What a backslash in quotes takes with it. -/
inductive Escape where
  /-- Only a quote. -/
  | quote
  /-- A quote, or a backslash, which takes nothing itself. -/
  | pair
deriving DecidableEq

inductive Token where
  | word (s : String)
  | quoted (s : String)
  | arrow
  | mark (c : Char)
deriving DecidableEq

/-- Where the scanning of a text stands, with what it has read of the token that it is in. -/
inductive Mode where
  | between
  /-- After the first half of an arrow. -/
  | dash
  | word (read : List Char)
  | quoted (read : List Char)
  /-- In quotes, after a backslash which is not taken. -/
  | escape (read : List Char)

/-- Where a second backslash leads to: it is taken by the first one, or may take what comes next. -/
def Escape.again : Escape → List Char → Mode
  | .quote, read => .escape (read ++ ['\\'])
  | .pair, read => .quoted (read ++ ['\\', '\\'])

def isMark (c : Char) : Bool := ['\x7b', '\x7d', ';', '='].contains c

def isWordChar (c : Char) : Bool := c.isAlphanum || c == '_'

namespace Mode

/-- What a character begins. -/
def start (c : Char) : Option (Mode × List Token) :=
  if c.isWhitespace then some (between, [])
  else if c == '"' then some (quoted [], [])
  else if c == '-' then some (dash, [])
  else if isMark c then some (between, [.mark c])
  else if isWordChar c then some (word [c], [])
  else none

/-- What one more character does: the next mode, and the tokens that end with it. -/
def step (rule : Escape) : Mode → Char → Option (Mode × List Token)
  | between, c => start c
  | dash, c => if c == '>' then some (between, [.arrow]) else none
  | word read, c =>
    if isWordChar c then some (word (read ++ [c]), [])
    else (start c).map fun (m, tokens) => (m, .word (String.ofList read) :: tokens)
  | quoted read, c =>
    if c == '"' then some (between, [.quoted (String.ofList read)])
    else if c == '\\' then some (escape read, [])
    else some (quoted (read ++ [c]), [])
  | escape read, c =>
    if c == '"' then some (quoted (read ++ ['"']), [])
    else if c == '\\' then some (rule.again read, [])
    else some (quoted (read ++ ['\\', c]), [])

end Mode

/-- Where a text leads to, and the tokens that end in it. -/
def scan (rule : Escape) : Mode → List Char → Option (Mode × List Token)
  | m, [] => some (m, [])
  | m, c :: cs =>
    (m.step rule c).bind fun next =>
      (scan rule next.1 cs).map fun last => (last.1, next.2 ++ last.2)

/-- The words that are no names. -/
def keywords : List String := ["strict", "graph", "digraph", "subgraph", "node", "edge"]

def Token.name? : Token → Option String
  | .word s => if keywords.contains s then none else some s
  | .quoted s => some s
  | _ => none

inductive Statement where
  | attribute (name value : String)
  | node (name : String)
  | arrow (tail head : String)
deriving DecidableEq

/-- The statement that tokens are. -/
def Statement.of? : List Token → Option Statement
  | [name] => name.name?.map .node
  | [name, .mark '=', value] => do return .attribute (← name.name?) (← value.name?)
  | [tail, .arrow, head] => do return .arrow (← tail.name?) (← head.name?)
  | _ => none

inductive Item where
  | single (s : Statement)
  | group (ss : List Statement)
deriving DecidableEq

structure Drawing where
  name : String
  items : List Item
deriving DecidableEq

/-- The items that tokens are, up to the mark that ends the drawing, and behind it nothing. What is
read of the group that they stand in, if any, and of the statement comes first. -/
def items : Option (List Statement) → List Token → List Token → Option (List Item)
  | _, _, [] => none
  | outer, read, .mark ';' :: tokens => do
    let s ← Statement.of? read
    match outer with
    | none => (items none [] tokens).map (.single s :: ·)
    | some ss => items (some (ss ++ [s])) [] tokens
  | none, [], .mark '\x7b' :: tokens => items (some []) [] tokens
  | some ss, [], .mark '\x7d' :: tokens => (items none [] tokens).map (.group ss :: ·)
  | none, [], [.mark '\x7d'] => some []
  | outer, read, token :: tokens => items outer (read ++ [token]) tokens

/-- The drawing that a text stands for. -/
def parse? (rule : Escape) (text : String) : Option Drawing := do
  match ← scan rule .between text.toList with
  | (.between, .word "digraph" :: name :: .mark '\x7b' :: tokens) =>
    return ⟨← name.name?, ← items none [] tokens⟩
  | _ => none

variable {rule : Escape} {m m' m'' : Mode} {cs ds : List Char} {ts us : List Token}

/-! ### Scanning piece by piece -/

theorem scan_cons {c : Char} (step : m.step rule c = some (m', ts)) (cs : List Char) :
    scan rule m (c :: cs) = (scan rule m' cs).map fun last => (last.1, ts ++ last.2) := by
  rw [scan, step]
  rfl

/-- A text is scanned from where a piece before it leads to. -/
theorem scan_append (first : scan rule m cs = some (m', ts)) (ds : List Char) :
    scan rule m (cs ++ ds) = (scan rule m' ds).map fun last => (last.1, ts ++ last.2) := by
  induction cs generalizing m ts with
  | nil =>
    cases first
    simp
  | cons c cs ih =>
    cases next : m.step rule c with
    | none =>
      rw [scan, next] at first
      cases first
    | some out =>
      obtain ⟨m₁, ended⟩ := out
      rw [scan_cons next, Option.map_eq_some_iff] at first
      obtain ⟨⟨_, later⟩, rest, same⟩ := first
      cases same
      rw [List.cons_append, scan_cons next, ih rest, Option.map_map]
      simp [Function.comp_def]

theorem scan_trans (first : scan rule m cs = some (m', ts))
    (second : scan rule m' ds = some (m'', us)) :
    scan rule m (cs ++ ds) = some (m'', ts ++ us) := by
  rw [scan_append first, second]
  rfl

theorem scan_flatMap {α : Type} {f : α → List Char} {g : α → List Token} {as : List α}
    (each : ∀ a ∈ as, scan rule .between (f a) = some (.between, g a)) :
    scan rule .between (as.flatMap f) = some (.between, as.flatMap g) := by
  induction as with
  | nil => rfl
  | cons a as ih =>
    rw [List.forall_mem_cons] at each
    exact scan_trans each.1 (ih each.2)

/-- A text without quotes and backslashes means nothing but itself in quotes. -/
def Plain (s : String) : Prop := ∀ c ∈ s.toList, c ≠ '"' ∧ c ≠ '\\'

/-- A text in quotes. -/
def quotedChars (s : String) : List Char := '"' :: s.toList ++ ['"']

theorem scan_plain {read : List Char} (plain : ∀ c ∈ cs, c ≠ '"' ∧ c ≠ '\\') :
    scan rule (.quoted read) cs = some (.quoted (read ++ cs), []) := by
  induction cs generalizing read with
  | nil => simp [scan]
  | cons c cs ih =>
    obtain ⟨⟨quote, backslash⟩, plain⟩ := List.forall_mem_cons.mp plain
    have step : (Mode.quoted read).step rule c = some (.quoted (read ++ [c]), []) := by
      simp [Mode.step, quote, backslash]
    rw [scan_cons step, ih plain]
    simp

/-- A plain text in quotes is one token. -/
theorem scan_quotedChars {s : String} (plain : Plain s) :
    scan rule .between (quotedChars s) = some (.between, [.quoted s]) := by
  have opened : scan rule .between ['"'] = some (.quoted [], []) := rfl
  have closed : scan rule (.quoted s.toList) ['"'] = some (.between, [.quoted s]) := by
    simp [scan, Mode.step]
  exact scan_trans opened (scan_trans (scan_plain plain) closed)

/-! ### Reading piece by piece -/

/-- A piece of text stands for items, wherever it is written between others. -/
def Stands (rule : Escape) (cs : List Char) (is : List Item) : Prop :=
  ∃ tokens, scan rule .between cs = some (.between, tokens) ∧
    ∀ later, items none [] (tokens ++ later) = (items none [] later).map (is ++ ·)

theorem Stands.nil : Stands rule [] [] := by
  refine ⟨[], rfl, fun later => ?_⟩
  simp

theorem Stands.append {is js : List Item} (first : Stands rule cs is) (second : Stands rule ds js) :
    Stands rule (cs ++ ds) (is ++ js) := by
  obtain ⟨ts, scanned, meant⟩ := first
  obtain ⟨us, scanned', meant'⟩ := second
  refine ⟨ts ++ us, scan_trans scanned scanned', fun later => ?_⟩
  rw [List.append_assoc, meant, meant', Option.map_map]
  simp [Function.comp_def]

theorem Stands.flatMap {α : Type} {f : α → List Char} {g : α → List Item} {as : List α}
    (each : ∀ a ∈ as, Stands rule (f a) (g a)) : Stands rule (as.flatMap f) (as.flatMap g) := by
  induction as with
  | nil => exact .nil
  | cons a as ih =>
    rw [List.forall_mem_cons] at each
    exact each.1.append (ih each.2)

/-- A drawing is read from its name and a text that stands for its items. -/
theorem parse?_of_stands {text : String} {is : List Item}
    (written : text.toList = "digraph apix \x7b\n".toList ++ cs ++ "\x7d\n".toList)
    (stands : Stands rule cs is) : parse? rule text = some ⟨"apix", is⟩ := by
  obtain ⟨ts, scanned, meant⟩ := stands
  have opened : scan rule .between "digraph apix \x7b\n".toList =
      some (.between, [.word "digraph", .word "apix", .mark '\x7b']) := rfl
  have closed : scan rule .between "\x7d\n".toList = some (.between, [.mark '\x7d']) := rfl
  rw [parse?, written, scan_trans (scan_trans opened scanned) closed]
  have read : items none [] (ts ++ [.mark '\x7d']) = some is := by
    rw [meant]
    simp [items]
  simp [read, Token.name?, keywords]

/-- A text that stands for a drawing has tokens that are its items. -/
theorem exists_of_parse? {text : String} {d : Drawing} (read : parse? rule text = some d) :
    ∃ name tokens, scan rule .between text.toList =
        some (.between, .word "digraph" :: name :: .mark '\x7b' :: tokens) ∧
      items none [] tokens = some d.items := by
  rw [parse?, Option.bind_eq_bind, Option.bind_eq_some_iff] at read
  obtain ⟨out, scanned, read⟩ := read
  split at read
  next name tokens =>
    simp only [Option.bind_eq_bind, Option.bind_eq_some_iff] at read
    obtain ⟨_, -, is, meant, same⟩ := read
    cases same
    exact ⟨name, tokens, scanned, meant⟩
  next => cases read

/-- No statement has more than three tokens. -/
theorem of?_of_long {read : List Token} (long : 3 < read.length) : Statement.of? read = none := by
  unfold Statement.of?
  split
  · simp at long
  · simp at long
  · simp at long
  · rfl

theorem items_of_long {outer : Option (List Statement)} {read : List Token}
    (long : 3 < read.length) (tokens : List Token) : items outer read tokens = none := by
  induction tokens generalizing read with
  | nil => rw [items]
  | cons token tokens ih =>
    rw [items.eq_def]
    split
    next => rfl
    next => rw [of?_of_long long]; rfl
    next => simp at long
    next => simp at long
    next => simp at long
    next same =>
      cases same
      exact ih (by simp; omega)

/-- After three tokens of a statement it ends. -/
theorem end_of_items {outer : Option (List Statement)} {read tokens : List Token} {is : List Item}
    (long : read.length = 3) (meant : items outer read tokens = some is) :
    ∃ later, tokens = .mark ';' :: later := by
  rw [items.eq_def] at meant
  split at meant
  next => cases meant
  next later => exact ⟨later, rfl⟩
  next => cases long
  next => cases long
  next => cases long
  next token later _ _ _ _ =>
    rw [items_of_long (by simp [long])] at meant
    cases meant

end ApiGateway.Dot
