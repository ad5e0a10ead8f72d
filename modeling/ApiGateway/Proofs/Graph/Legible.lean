import ApiGateway.Graph.Dot
import ApiGateway.Proofs.Graph.DotReading

/-
How the text of a drawing is read.

It is read as what the graph is to show, unless the quote behind the label is lost. A quote in a label
is written with a backslash before it, and a backslash as it is: one at the end of a label takes the
quote that should end it.

* `Dot.Escape.settles` - no backslash takes what is written behind a label, or in front of a quote.
* `Dot.scan_escaped`, `Dot.scan_escaped_ne` - in quotes a label is read that settles, and no other.
* `ForwardGraph.drawing` - what a graph is to show.
* `ForwardGraph.legible_toDot` - it is read from the text just if the label settles; where only quotes
  are taken, if it does not end in a backslash.
-/

namespace ApiGateway

namespace Dot

/-- A backslash of a label that nothing has taken takes the next one, by the rule for pairs. -/
def Escape.takes (rule : Escape) (loose : Bool) : Bool := loose && rule == .pair

/-- The quotes of a label are taken and the one behind it is not, where a backslash may be loose
before it. A quote is written with a backslash before it, which a loose one may take. -/
def Escape.settles (rule : Escape) : Bool → List Char → Bool
  | loose, [] => !loose
  | loose, c :: cs =>
    !(c == '"' && rule.takes loose) && rule.settles (c == '\\' && !rule.takes loose) cs

/-- A label as it is written in quotes. -/
def escaped (cs : List Char) : List Char := Text.replaceChar '"' ['\\', '"'] cs

/-- What has been read in quotes, and whether its last backslash is loose. -/
inductive Mode.Holds : Mode → List Char → Bool → Prop where
  | quoted (read : List Char) : Holds (quoted read) read false
  | escape (read : List Char) : Holds (escape read) (read ++ ['\\']) true

variable {rule : Escape} {m m' : Mode} {cs ds read : List Char} {ts us : List Token} {loose : Bool}

@[simp] theorem takes_quote : Escape.quote.takes loose = false := by
  cases loose <;> rfl

@[simp] theorem takes_pair : Escape.pair.takes loose = loose := by
  cases loose <;> rfl

/-- Where only quotes are taken, the label must not end in a backslash. -/
theorem settles_quote : Escape.quote.settles false cs = true ↔ cs.getLast? ≠ some '\\' := by
  suffices ∀ loose, Escape.quote.settles loose cs = true ↔
      if cs = [] then loose = false else cs.getLast? ≠ some '\\' by
    rw [this false]
    split
    next empty => simp [empty]
    next => rfl
  intro loose
  induction cs generalizing loose with
  | nil => simp [Escape.settles]
  | cons c cs ih =>
    have next : Escape.quote.settles loose (c :: cs) = Escape.quote.settles (c == '\\') cs := by
      simp [Escape.settles]
    rw [next, ih]
    cases cs <;> simp

/-- What one more character does in quotes: they go on with more in them, or end. -/
theorem Mode.step_quotes {c : Char} (opened : m = .quoted read ∨ m = .escape read)
    (step : m.step rule c = some (m', ts)) :
    (ts = [] ∧ ∃ more, m' = .quoted (read ++ more) ∨ m' = .escape (read ++ more)) ∨
      ts = [.quoted (String.ofList read)] := by
  rcases opened with rfl | rfl
  · rw [Mode.step] at step
    split at step
    · cases step
      exact .inr rfl
    · split at step
      · cases step
        exact .inl ⟨rfl, [], .inr (by simp)⟩
      · cases step
        exact .inl ⟨rfl, _, .inl rfl⟩
  · rw [Mode.step] at step
    split at step
    · cases step
      exact .inl ⟨rfl, _, .inl rfl⟩
    · split at step
      · cases step
        cases rule with
        | quote => exact .inl ⟨rfl, _, .inr rfl⟩
        | pair => exact .inl ⟨rfl, _, .inl rfl⟩
      · cases step
        exact .inl ⟨rfl, _, .inl rfl⟩

/-- What begins in quotes is the next token, if they end. -/
theorem token_of_quotes (opened : m = .quoted read ∨ m = .escape read)
    (scanned : scan rule m cs = some (m', ts)) :
    ts = [] ∨ ∃ more us, ts = .quoted (String.ofList (read ++ more)) :: us := by
  induction cs generalizing m read ts with
  | nil =>
    cases scanned
    exact .inl rfl
  | cons c cs ih =>
    cases next : m.step rule c with
    | none =>
      rw [scan, next] at scanned
      cases scanned
    | some out =>
      obtain ⟨m₁, ended⟩ := out
      rw [scan_cons next, Option.map_eq_some_iff] at scanned
      obtain ⟨last, rest, same⟩ := scanned
      cases same
      obtain ⟨rfl, more, inside⟩ | rfl := Mode.step_quotes opened next
      · obtain none | ⟨more', us, same⟩ := ih inside rest
        · exact .inl none
        · exact .inr ⟨more ++ more', us, by simp [same]⟩
      · exact .inr ⟨[], last.2, by simp⟩

/-- One more character of a label is held, and its quote does not end the label unless its backslash
is taken. -/
theorem Mode.Holds.next {c : Char} (holds : m.Holds read loose)
    (own : (c == '"' && rule.takes loose) = false) :
    ∃ m', scan rule m (escaped [c]) = some (m', []) ∧
      m'.Holds (read ++ [c]) (c == '\\' && !rule.takes loose) := by
  by_cases quote : c = '"'
  · subst quote
    cases holds with
    | quoted read => exact ⟨_, rfl, .quoted _⟩
    | escape read =>
      cases rule with
      | quote => exact ⟨_, rfl, .quoted _⟩
      | pair => cases own
  have one : escaped [c] = [c] := by simp [escaped, Text.replaceChar, quote]
  rw [one]
  by_cases backslash : c = '\\'
  · subst backslash
    cases holds with
    | quoted read => exact ⟨_, rfl, .escape _⟩
    | escape read =>
      cases rule with
      | quote => exact ⟨_, rfl, .escape _⟩
      | pair =>
        refine ⟨.quoted (read ++ ['\\', '\\']), rfl, ?_⟩
        rw [List.append_assoc]
        exact .quoted _
  · have plain : (c == '\\' && !rule.takes loose) = false := by simp [backslash]
    rw [plain]
    cases holds with
    | quoted read =>
      refine ⟨.quoted (read ++ [c]), ?_, .quoted _⟩
      simp [scan, Mode.step, quote, backslash]
    | escape read =>
      refine ⟨.quoted (read ++ ['\\', c]), ?_, ?_⟩
      · simp [scan, Mode.step, quote, backslash]
      · rw [List.append_assoc]
        exact .quoted _

theorem escaped_cons (c : Char) (cs : List Char) : escaped (c :: cs) = escaped [c] ++ escaped cs := by
  simp [escaped, Text.replaceChar]

/-- A label that settles is read as it is. -/
theorem scan_escaped (holds : m.Holds read loose) (settles : rule.settles loose cs = true) :
    scan rule m (escaped cs) = some (.quoted (read ++ cs), []) := by
  induction cs generalizing m read loose with
  | nil =>
    cases holds with
    | quoted read => simp [escaped, Text.replaceChar, scan]
    | escape read => cases settles
  | cons c cs ih =>
    simp only [Escape.settles, Bool.and_eq_true, Bool.not_eq_true'] at settles
    obtain ⟨own, settles⟩ := settles
    obtain ⟨m', first, holds⟩ := holds.next own
    rw [escaped_cons, scan_trans first (ih holds settles)]
    simp

/-- Of a label that does not settle another text is read, if its quotes end at all. -/
theorem scan_escaped_ne (holds : m.Holds read loose) (open_ : rule.settles loose cs = false)
    (scanned : scan rule m (escaped cs ++ '"' :: ds) = some (m', ts)) :
    ts = [] ∨ ∃ s us, ts = .quoted s :: us ∧ s ≠ String.ofList (read ++ cs) := by
  induction cs generalizing m read loose ts with
  | nil =>
    cases holds with
    | quoted read => cases open_
    | escape read =>
      have next : (Mode.escape read).step rule '"' = some (.quoted (read ++ ['"']), []) := rfl
      change scan rule (.escape read) ('"' :: ds) = _ at scanned
      rw [scan_cons next, Option.map_eq_some_iff] at scanned
      obtain ⟨last, rest, same⟩ := scanned
      cases same
      obtain none | ⟨more, us, same⟩ := token_of_quotes (.inl rfl) rest
      · exact .inl none
      · refine .inr ⟨_, us, same, fun clash => ?_⟩
        have same := String.ofList_inj.mp clash
        simp at same
  | cons c cs ih =>
    simp only [Escape.settles, Bool.and_eq_false_iff, Bool.not_eq_false'] at open_
    rw [escaped_cons, List.append_assoc] at scanned
    by_cases own : (c == '"' && rule.takes loose) = false
    · obtain ⟨m', first, holds⟩ := holds.next own
      rw [scan_append first, Option.map_eq_some_iff] at scanned
      obtain ⟨last, rest, same⟩ := scanned
      cases same
      have later := open_.resolve_left (by simp [own])
      obtain none | ⟨s, us, same, differs⟩ := ih holds later rest
      · exact .inl none
      · exact .inr ⟨s, us, same, by simpa using differs⟩
    · obtain ⟨rfl, rfl, rfl⟩ : c = '"' ∧ loose = true ∧ rule = .pair := by
        cases rule <;> simp_all
      cases holds with
      | escape read =>
        have next : scan .pair (.escape read) (escaped ['"']) =
            some (.between, [.quoted (String.ofList (read ++ ['\\', '\\']))]) := rfl
        rw [scan_append next, Option.map_eq_some_iff] at scanned
        obtain ⟨last, -, same⟩ := scanned
        cases same
        refine .inr ⟨_, last.2, rfl, fun clash => ?_⟩
        have same := String.ofList_inj.mp clash
        simp at same

end Dot

namespace ForwardGraph

open Dot

/-! ### What a drawing says -/

/-- A forward that waits for nothing as a node, and an arrow for each that another waits for. -/
def nodeItems (name : String) (deps : List String) : List Item :=
  (if deps = [] then [.single (.node name)] else []) ++
    deps.map fun dep => .single (.arrow dep name)

/-- The forwards of a level, if there are several, in one row. -/
def levelItems (level : List String) : List Item :=
  if 1 < level.length then [.group (.attribute "rank" "same" :: level.map .node)] else []

/-- What the drawing of a graph says. -/
def drawing (g : ForwardGraph) (label : String) : Drawing where
  name := "apix"
  items := [.single (.attribute "label" label), .single (.attribute "labelloc" "t"),
      .single (.attribute "rankdir" "LR")] ++
    g.dependsOn.flatMap (fun entry => nodeItems entry.1 entry.2) ++ g.levels.flatMap levelItems

/-- No name has a quote or a backslash in it. -/
structure Plain (g : ForwardGraph) : Prop where
  names : ∀ entry ∈ g.dependsOn, Dot.Plain entry.1
  deps : ∀ entry ∈ g.dependsOn, ∀ dep ∈ entry.2, Dot.Plain dep
  levels : ∀ level ∈ g.levels, ∀ name ∈ level, Dot.Plain name

variable {g : ForwardGraph} {label : String} {rule : Escape}

/-! ### How the text is written -/

/-- A line as it is written. -/
def lineChars (line : String) : List Char := (line ++ "\n").toList

/-- The lines between that of the label and the last one. -/
def restChars (g : ForwardGraph) : List Char :=
  lineChars "  labelloc=t;" ++ lineChars "  rankdir=LR;" ++
    g.dependsOn.flatMap (fun entry => (dotNode entry.1 entry.2).flatMap lineChars) ++
    g.levels.flatMap fun level => (dotLevel level).flatMap lineChars

theorem lineChars_label (label : String) :
    lineChars ("  label=\"" ++ String.ofList (escaped label.toList) ++ "\";") =
      "  label=\"".toList ++ (escaped label.toList ++ '"' :: lineChars ";") := by
  have label : (String.ofList (escaped label.toList)).toList = escaped label.toList :=
    String.toList_ofList
  rw [lineChars, String.toList_append, String.toList_append, String.toList_append, label,
    List.append_assoc, List.append_assoc]
  rfl

theorem toList_toDot (g : ForwardGraph) (label : String) :
    (g.toDot label).toList = "digraph apix \x7b\n".toList ++
      ("  label=\"".toList ++ (escaped label.toList ++ '"' :: lineChars ";") ++ g.restChars) ++
      "\x7d\n".toList := by
  have lines : ∀ ls : List String,
      (String.join (ls.map (· ++ "\n"))).toList = ls.flatMap lineChars := by
    intro ls
    rw [String.toList_join, List.flatMap_map]
    rfl
  rw [← lineChars_label, toDot]
  dsimp only
  rw [lines]
  simp only [List.flatMap_append, List.flatMap_assoc, List.flatMap_cons, List.flatMap_nil, restChars,
    List.append_assoc, List.append_nil]
  rfl

/-! ### How the text is read -/

variable {name dep : String}

/-- A line begins with blanks, and ends a statement. -/
theorem scan_indent : scan rule .between "  ".toList = some (.between, []) := rfl

theorem scan_end : scan rule .between ";\n".toList = some (.between, [.mark ';']) := rfl

theorem stands_node (plain : Dot.Plain name) :
    Stands rule (lineChars ("  \"" ++ name ++ "\";")) [.single (.node name)] := by
  have written : lineChars ("  \"" ++ name ++ "\";") =
      "  ".toList ++ (quotedChars name ++ ";\n".toList) := by
    simp [lineChars, quotedChars]
  rw [written]
  exact ⟨_, scan_trans scan_indent (scan_trans (scan_quotedChars plain) scan_end), fun _ => rfl⟩

theorem stands_arrow (tail : Dot.Plain dep) (head : Dot.Plain name) :
    Stands rule (lineChars ("  \"" ++ dep ++ "\" -> \"" ++ name ++ "\";"))
      [.single (.arrow dep name)] := by
  have written : lineChars ("  \"" ++ dep ++ "\" -> \"" ++ name ++ "\";") =
      "  ".toList ++ (quotedChars dep ++ (" -> ".toList ++ (quotedChars name ++ ";\n".toList))) := by
    simp [lineChars, quotedChars]
  rw [written]
  have between : scan rule .between " -> ".toList = some (.between, [.arrow]) := rfl
  have last : scan rule .between (quotedChars name ++ ";\n".toList) =
      some (.between, [.quoted name, .mark ';']) := scan_trans (scan_quotedChars head) scan_end
  exact ⟨_, scan_trans scan_indent (scan_trans (scan_quotedChars tail) (scan_trans between last)),
    fun _ => rfl⟩

/-- The lines of a forward stand for its node or its arrows. -/
theorem stands_nodeItems {deps : List String} (named : Dot.Plain name)
    (plain : ∀ dep ∈ deps, Dot.Plain dep) :
    Stands rule ((dotNode name deps).flatMap lineChars) (nodeItems name deps) := by
  unfold dotNode nodeItems
  cases deps with
  | nil => exact (stands_node named).append .nil
  | cons dep deps =>
    have each : Stands rule
        ((dep :: deps).flatMap fun dep => lineChars ("  \"" ++ dep ++ "\" -> \"" ++ name ++ "\";"))
        ((dep :: deps).flatMap fun dep => [.single (.arrow dep name)]) :=
      .flatMap fun dep hdep => stands_arrow (plain dep hdep) named
    rw [if_neg (by simp), if_neg (by simp), List.nil_append, List.flatMap_map]
    rwa [← List.map_eq_flatMap] at each

/-- A row begins. -/
theorem items_rank (later : List Token) :
    items none [] ([.mark '\x7b', .word "rank", .mark '=', .word "same", .mark ';'] ++ later) =
      items (some [.attribute "rank" "same"]) [] later := by
  simp [items, Statement.of?, Token.name?, keywords]

theorem items_node (ss : List Statement) (name : String) (later : List Token) :
    items (some ss) [] (.quoted name :: .mark ';' :: later) =
      items (some (ss ++ [.node name])) [] later := by
  simp [items, Statement.of?, Token.name?]

/-- Names in a group are read one after another. -/
theorem items_names (names : List String) (ss : List Statement) (later : List Token) :
    items (some ss) [] (names.flatMap (fun name => [.quoted name, .mark ';']) ++ later) =
      items (some (ss ++ names.map .node)) [] later := by
  induction names generalizing ss with
  | nil => simp
  | cons name names ih =>
    rw [List.flatMap_cons, List.append_assoc, List.cons_append, List.cons_append, List.nil_append,
      items_node, ih]
    simp

/-- The line of a level stands for its row, if it has one. -/
theorem stands_levelItems {level : List String} (plain : ∀ name ∈ level, Dot.Plain name) :
    Stands rule ((dotLevel level).flatMap lineChars) (levelItems level) := by
  unfold dotLevel levelItems
  split
  next several =>
    have written : (["  \x7b rank=same; " ++
          String.join (level.map fun name => "\"" ++ name ++ "\"; ") ++ "\x7d"].flatMap lineChars) =
        "  \x7b rank=same; ".toList ++
          (level.flatMap (fun name => quotedChars name ++ "; ".toList) ++ "\x7d\n".toList) := by
      simp [lineChars, quotedChars, String.toList_join, List.flatMap_map]
    have opened : scan rule .between "  \x7b rank=same; ".toList = some (.between,
        [.mark '\x7b', .word "rank", .mark '=', .word "same", .mark ';']) := rfl
    have ended : scan rule .between "; ".toList = some (.between, [.mark ';']) := rfl
    have names : scan rule .between (level.flatMap fun name => quotedChars name ++ "; ".toList) =
        some (.between, level.flatMap fun name => [.quoted name, .mark ';']) :=
      scan_flatMap fun name hname => scan_trans (scan_quotedChars (plain name hname)) ended
    have closed : scan rule .between "\x7d\n".toList = some (.between, [.mark '\x7d']) := rfl
    have scanned := scan_trans opened (scan_trans names closed)
    rw [← written] at scanned
    refine ⟨_, scanned, fun later => ?_⟩
    rw [List.append_assoc, List.append_assoc, items_rank, items_names]
    rfl
  next => exact .nil

theorem stands_restChars (plain : g.Plain) : Stands rule g.restChars
    ([.single (.attribute "labelloc" "t"), .single (.attribute "rankdir" "LR")] ++
      g.dependsOn.flatMap (fun entry => nodeItems entry.1 entry.2) ++
      g.levels.flatMap levelItems) := by
  have labelloc : Stands rule (lineChars "  labelloc=t;") [.single (.attribute "labelloc" "t")] :=
    ⟨[.word "labelloc", .mark '=', .word "t", .mark ';'], rfl, fun _ => rfl⟩
  have rankdir : Stands rule (lineChars "  rankdir=LR;") [.single (.attribute "rankdir" "LR")] :=
    ⟨[.word "rankdir", .mark '=', .word "LR", .mark ';'], rfl, fun _ => rfl⟩
  have nodes : Stands rule
      (g.dependsOn.flatMap fun entry => (dotNode entry.1 entry.2).flatMap lineChars)
      (g.dependsOn.flatMap fun entry => nodeItems entry.1 entry.2) :=
    .flatMap fun entry hentry =>
      stands_nodeItems (plain.names entry hentry) (plain.deps entry hentry)
  have levels : Stands rule (g.levels.flatMap fun level => (dotLevel level).flatMap lineChars)
      (g.levels.flatMap levelItems) :=
    .flatMap fun level hlevel => stands_levelItems (plain.levels level hlevel)
  exact ((labelloc.append rankdir).append nodes).append levels

theorem stands_label (settles : rule.settles false label.toList = true) :
    Stands rule ("  label=\"".toList ++ (escaped label.toList ++ '"' :: lineChars ";"))
      [.single (.attribute "label" label)] := by
  have opened : scan rule .between "  label=\"".toList =
      some (.quoted [], [.word "label", .mark '=']) := rfl
  have closed : scan rule (.quoted ([] ++ label.toList)) ('"' :: lineChars ";") =
      some (.between, [.quoted label, .mark ';']) := by
    have next : (Mode.quoted label.toList).step rule '"' = some (.between, [.quoted label]) := by
      simp [Mode.step]
    rw [List.nil_append, scan_cons next]
    rfl
  exact ⟨_, scan_trans opened (scan_trans (scan_escaped (.quoted []) settles) closed), fun _ => rfl⟩

/-- The text of a drawing is read as what the drawing says, just if its label settles. -/
theorem parse?_toDot_iff (plain : g.Plain) : parse? rule (g.toDot label) = some (g.drawing label) ↔
    rule.settles false label.toList = true := by
  constructor
  · intro read
    by_contra loose
    obtain ⟨name, tokens, scanned, meant⟩ := exists_of_parse? read
    have opened : scan rule .between ("digraph apix \x7b\n".toList ++ "  label=\"".toList) =
        some (.quoted [], [.word "digraph", .word "apix", .mark '\x7b', .word "label", .mark '=']) :=
      rfl
    have text : (g.toDot label).toList = ("digraph apix \x7b\n".toList ++ "  label=\"".toList) ++
        (escaped label.toList ++ '"' :: (lineChars ";" ++ g.restChars ++ "\x7d\n".toList)) := by
      simp only [toList_toDot, List.append_assoc, List.cons_append]
    rw [text, scan_append opened, Option.map_eq_some_iff] at scanned
    obtain ⟨⟨_, ts⟩, rest, same⟩ := scanned
    cases same
    obtain rfl | ⟨s, us, rfl, other⟩ := scan_escaped_ne (.quoted []) (by simpa using loose) rest
    · cases meant
    · have value : items none [.word "label", .mark '=', .quoted s] us = some (g.drawing label).items :=
        meant
      obtain ⟨later, rfl⟩ := end_of_items rfl value
      have first : items none [.word "label", .mark '=', .quoted s] (.mark ';' :: later) =
          (items none [] later).map (.single (.attribute "label" s) :: ·) := rfl
      rw [first, Option.map_eq_some_iff] at value
      obtain ⟨is, -, same⟩ := value
      cases same
      simp at other
  · intro settles
    exact parse?_of_stands (toList_toDot g label) ((stands_label settles).append (stands_restChars plain))

/-- **The text of a drawing is read as what the graph is to show, just if its label is closed.** Where
a backslash takes only quotes, all labels are closed that do not end in one. Where it takes backslashes
too, those are closed in which no loose one stands at the end or before a quote. -/
theorem legible_toDot (plain : g.Plain) (label : String) :
    (parse? .quote (g.toDot label) = some (g.drawing label) ↔
        label.toList.getLast? ≠ some '\\') ∧
      (parse? .pair (g.toDot label) = some (g.drawing label) ↔
        Escape.pair.settles false label.toList = true) :=
  ⟨(parse?_toDot_iff plain).trans settles_quote, parse?_toDot_iff plain⟩

/-- An order needs a session and the stock. -/
def orderGraph : ForwardGraph where
  dependsOn := [("order", ["session", "stock"]), ("session", []), ("stock", [])]
  levels := [["session", "stock"], ["order"]]
  order := ["session", "stock", "order"]

theorem plain_orderGraph : orderGraph.Plain where
  names := by simp [orderGraph, Dot.Plain]
  deps := by simp [orderGraph, Dot.Plain]
  levels := by simp [orderGraph, Dot.Plain]

theorem legible_toDot_order : orderGraph.Plain ∧
    parse? .quote (orderGraph.toDot "POST /orders?by=\"name\"") =
      some (orderGraph.drawing "POST /orders?by=\"name\"") :=
  ⟨plain_orderGraph, (legible_toDot plain_orderGraph _).1.mpr (by decide)⟩

/-- Where a url ends in a backslash, whatever a backslash takes, something else is read or nothing. -/
theorem not_legible_files :
    build [{ name := "order", deps := ["session", "stock"] }, { name := "session" },
      { name := "stock" }] = .ok orderGraph ∧ orderGraph.Plain ∧ ∀ rule,
    parse? rule (orderGraph.toDot "GET /files\\") ≠ some (orderGraph.drawing "GET /files\\") := by
  refine ⟨rfl, plain_orderGraph, fun rule read => ?_⟩
  have settles := (parse?_toDot_iff plain_orderGraph).mp read
  cases rule with
  | quote => exact absurd settles (by decide)
  | pair => exact absurd settles (by decide)

end ForwardGraph

end ApiGateway
