import DebugScopes.Tree.Basic

/-!
# A tree as a graph

A tree can be looked at with a program that draws graphs. The nodes are numbered in the order of
`ScopeTree.listing`, each with a label that describes its entry, and an edge to its parent behind
everything below it.

* `ScopeTree.graph` lists nodes and edges;
* `ScopeTree.graphText` writes them down.
-/

namespace DebugScopes

/-- A line of a graph. -/
inductive GraphItem
  | node (id : Nat) (label : String)
  | edge (parent child : Nat)
deriving DecidableEq, Repr

/-- Text inside a label: backslashes and double quotes are escaped. -/
def escapeLabel (s : List Char) : List Char :=
  s.flatMap fun c => if c = '\\' ∨ c = '"' then ['\\', c] else [c]

/-- The range of a label. -/
def CodeRange.label? (r : CodeRange) : Option String :=
  r.high.map fun high => Numeral.hex r.low ++ "-" ++ Numeral.hex high

/-- The label of an entry: its name, and a line each for its tag, closed ranges, address, reference
and abbreviation code. -/
def Entry.label (e : Entry) : String :=
  let name := String.ofList (escapeLabel (e.name.getD "").toList)
  let ranges := ", ".intercalate (e.ranges.filterMap (·.label?))
  let target := match e.target with
    | some addr => Numeral.hex addr
    | none => "-"
  let (addr, code) := match e.place with
    | some place => (Numeral.hex place.addr, Numeral.decimal place.code)
    | none => ("", "")
  name ++ "\\n" ++ e.tagName ++ "\\nr=" ++ ranges ++ "\\na=" ++ addr ++ "\\nref=" ++ target ++
    "\\nabbrev=" ++ code

namespace GraphItem

/-- A line of a graph as text. -/
def text : GraphItem → String
  | node id label => "Node" ++ Numeral.decimal id ++ " [label=\"" ++ label ++ "\"];\n"
  | edge parent child =>
    "Node" ++ Numeral.decimal parent ++ " -- Node" ++ Numeral.decimal child ++ ";\n"

end GraphItem

namespace ScopeTree

/-- The label of the entry with an index. -/
def labelOf (t : ScopeTree) (i : Nat) : String :=
  match t.get? i with
  | some e => e.label
  | none => ""

/-- The lines for an entry and all below it, numbered from `id` on, and the next free number. -/
def graphFrom (t : ScopeTree) (i id : Nat) : List GraphItem × Nat :=
  let (below, next) := (t.childrenOf i).attach.foldl
    (fun (items, next) ⟨c, _⟩ =>
      let (inner, after) := t.graphFrom c next
      (items ++ inner ++ [.edge id next], after))
    (([] : List GraphItem), id + 1)
  (.node id (t.labelOf i) :: below, next)
termination_by t.entries.size - i
decreasing_by
  have := childrenOf_gt ‹_›
  omega

/-- The lines for all units. -/
def graph (t : ScopeTree) : List GraphItem :=
  (t.units.foldl
    (fun (items, next) unit =>
      let (inner, after) := t.graphFrom unit next
      (items ++ inner, after))
    (([] : List GraphItem), 0)).1

/-- A tree as the text of a graph. -/
def graphText (t : ScopeTree) : String :=
  "graph SourceTree \x7b\n" ++ String.join (t.graph.map (·.text)) ++ "\x7d\n"

end ScopeTree

end DebugScopes
