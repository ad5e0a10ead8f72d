import ApiGateway.Graph.Basic
import ApiGateway.Text.Blank

/-
Dependency graphs as drawings: an arrow from each forward to those that wait for it, and the
forwards of a level side by side.
-/

namespace ApiGateway.ForwardGraph

/-- The lines of a forward: its arrows, or its name if it waits for nothing. -/
def dotNode (name : String) (deps : List String) : List String :=
  if deps.isEmpty then ["  \"" ++ name ++ "\";"]
  else deps.map fun dep => "  \"" ++ dep ++ "\" -> \"" ++ name ++ "\";"

/-- The line that keeps the forwards of a level side by side. -/
def dotLevel (level : List String) : List String :=
  if 1 < level.length then
    ["  \x7b rank=same; " ++ String.join (level.map fun name => "\"" ++ name ++ "\"; ") ++ "\x7d"]
  else []

/-- The graph in the language of drawings, under a label. -/
def toDot (g : ForwardGraph) (label : String) : String :=
  let label := String.ofList (Text.replaceChar '"' ['\\', '"'] label.toList)
  String.join <| (["digraph apix \x7b", "  label=\"" ++ label ++ "\";", "  labelloc=t;",
    "  rankdir=LR;"] ++ g.dependsOn.flatMap (fun (name, deps) => dotNode name deps) ++
    g.levels.flatMap dotLevel ++ ["\x7d"]).map (· ++ "\n")

end ApiGateway.ForwardGraph
