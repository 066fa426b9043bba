import DebugScopes.Proofs.Tree.Labelling
import DebugScopes.Proofs.Tree.Order

/-!
# The graph of a tree

The numbers in a graph are given out as the walk over the tree goes on: an entry takes the next one,
and an edge takes the number that was next before the walk went to the child. Once it is known that
the walk meets the entries in the order of the listing, every number can be told beforehand, and the
lines for an entry are given by a recursion that passes no numbers on.

* `ScopeTree.drawn`: the lines for an entry, when every entry has its number;
* `ScopeTree.graph_eq`: the numbers that are given out are the places in the listing;
* `ScopeTree.Draws`: what it takes of lines to draw a tree;
* `ScopeTree.draws_graph`: the graph of a tree made step by step does.
-/

namespace DebugScopes

/-! ### Nodes and edges -/

namespace GraphItem

/-- The number and the label of a node. -/
def node? : GraphItem → Option (Nat × String)
  | node id label => some (id, label)
  | edge _ _ => none

/-- The two ends of an edge. -/
def edge? : GraphItem → Option (Nat × Nat)
  | node _ _ => none
  | edge parent child => some (parent, child)

/-- The nodes among some lines, in their order. -/
def nodes (items : List GraphItem) : List (Nat × String) := items.filterMap node?

/-- The edges among some lines, in their order. -/
def edges (items : List GraphItem) : List (Nat × Nat) := items.filterMap edge?

theorem nodes_append (front back : List GraphItem) :
    nodes (front ++ back) = nodes front ++ nodes back :=
  List.filterMap_append

end GraphItem

namespace ScopeTree

open GraphItem

variable {t : ScopeTree} {number : Nat → Nat} {i p c : Nat}

/-! ### Lines with given numbers -/

/-- The lines for an entry and all below it, if every entry has its number. -/
def drawn (t : ScopeTree) (number : Nat → Nat) (i : Nat) : List GraphItem :=
  .node (number i) (t.labelOf i) :: (t.childrenOf i).attach.flatMap fun ⟨c, _⟩ =>
    t.drawn number c ++ [.edge (number i) (number c)]
termination_by t.entries.size - i
decreasing_by
  have := childrenOf_gt ‹_›
  omega

theorem drawn_eq (t : ScopeTree) (number : Nat → Nat) (i : Nat) :
    t.drawn number i = .node (number i) (t.labelOf i) ::
      (t.childrenOf i).flatMap fun c => t.drawn number c ++ [.edge (number i) (number c)] := by
  rw [drawn]
  simp

/-- There is a node for every entry, in the order of the listing. -/
theorem nodes_drawn (t : ScopeTree) (number : Nat → Nat) (i : Nat) :
    nodes (t.drawn number i) = (t.preorder i).map fun j => (number j, t.labelOf j) := by
  induction h : t.entries.size - i using Nat.strongRecOn generalizing i with
  | ind n ih =>
    subst h
    have below : nodes ((t.childrenOf i).flatMap fun c =>
        t.drawn number c ++ [.edge (number i) (number c)]) =
        ((t.childrenOf i).flatMap t.preorder).map fun j => (number j, t.labelOf j) := by
      rw [nodes, List.filterMap_flatMap, List.map_flatMap]
      refine List.flatMap_congr fun c child => ?_
      have place := childrenOf_gt child
      rw [List.filterMap_append, ← nodes, ih _ (by omega) c rfl]
      exact List.append_nil _
    rw [drawn_eq, preorder_eq, List.map_cons, ← below]
    rfl

/-- Every entry below another is the end of one edge. -/
theorem ends_drawn (t : ScopeTree) (number : Nat → Nat) (i : Nat) :
    (number i :: (edges (t.drawn number i)).map (·.2)).Perm ((t.preorder i).map number) := by
  induction h : t.entries.size - i using Nat.strongRecOn generalizing i with
  | ind n ih =>
    subst h
    rw [drawn_eq, preorder_eq, List.map_cons, List.map_flatMap]
    refine List.Perm.cons _ ?_
    show ((edges ((t.childrenOf i).flatMap _)).map _).Perm _
    rw [edges, List.filterMap_flatMap, List.map_flatMap]
    refine List.Perm.flatMap_left _ fun c child => ?_
    have place := childrenOf_gt child
    rw [List.filterMap_append, List.map_append]
    exact (List.perm_append_singleton _ _).trans (ih _ (by omega) c rfl)

/-- An edge is drawn from an entry to one of its children. -/
theorem exists_of_edge_mem_drawn {a b : Nat} (mem : .edge a b ∈ t.drawn number i) :
    ∃ p ∈ t.preorder i, ∃ c ∈ t.childrenOf p, number p = a ∧ number c = b := by
  induction h : t.entries.size - i using Nat.strongRecOn generalizing i with
  | ind n ih =>
    subst h
    rw [drawn_eq] at mem
    rcases List.mem_cons.1 mem with head | mem
    · cases head
    obtain ⟨c, child, mem⟩ := List.mem_flatMap.1 mem
    rcases List.mem_append.1 mem with deeper | own
    · have place := childrenOf_gt child
      obtain ⟨p, below, found⟩ := ih _ (by omega) deeper rfl
      refine ⟨p, ?_, found⟩
      rw [preorder_eq]
      exact List.mem_cons_of_mem _ (List.mem_flatMap.2 ⟨c, child, below⟩)
    · cases List.mem_singleton.1 own
      exact ⟨i, mem_preorder_self t i, c, child, rfl, rfl⟩

/-- The edge to a child is drawn behind the nodes at both its ends. -/
theorem sublist_drawn (below : p ∈ t.preorder i) (child : c ∈ t.childrenOf p) :
    [.node (number p) (t.labelOf p), .node (number c) (t.labelOf c),
      .edge (number p) (number c)].Sublist (t.drawn number i) := by
  let piece (i c : Nat) := t.drawn number c ++ [.edge (number i) (number c)]
  have within {i c : Nat} (mem : c ∈ t.childrenOf i) :
      (piece i c).Sublist ((t.childrenOf i).flatMap (piece i)) :=
    List.sublist_flatten_of_mem (List.mem_map_of_mem mem)
  induction h : t.entries.size - i using Nat.strongRecOn generalizing i with
  | ind n ih =>
    subst h
    rw [drawn_eq]
    rw [preorder_eq] at below
    rcases List.mem_cons.1 below with rfl | below
    · refine List.Sublist.cons_cons _ (.trans ?_ (within child))
      show List.Sublist _ (t.drawn number c ++ _)
      rw [drawn_eq, List.cons_append]
      exact (List.sublist_append_right _ _).cons_cons _
    · obtain ⟨a, above, below⟩ := List.mem_flatMap.1 below
      have place := childrenOf_gt above
      have inner := ih _ (by omega) below rfl
      exact ((inner.trans (List.sublist_append_left _ _)).trans (within above)).cons _

/-! ### The numbers that are given out -/

/-- The lines for a row of entries, each followed by what else there is to be drawn for its number,
and the next free number. -/
def graphOfRow (t : ScopeTree) (extra : Nat → List GraphItem) (row : List Nat)
    (start : List GraphItem × Nat) : List GraphItem × Nat :=
  row.foldl (fun drawn c =>
    (drawn.1 ++ (t.graphFrom c drawn.2).1 ++ extra drawn.2, (t.graphFrom c drawn.2).2)) start

theorem graph_eq_graphOfRow (t : ScopeTree) :
    t.graph = (t.graphOfRow (fun _ => []) t.units ([], 0)).1 := by
  rw [graph, graphOfRow]
  simp only [List.append_nil]

theorem graphFrom_eq (t : ScopeTree) (i id : Nat) :
    t.graphFrom i id =
      let below := t.graphOfRow (fun next => [.edge id next]) (t.childrenOf i) ([], id + 1)
      (.node id (t.labelOf i) :: below.1, below.2) := by
  rw [graphFrom, graphOfRow, ← List.foldl_attach (l := t.childrenOf i)]

/-- The entries of a list have consecutive numbers. -/
def Numbered (number : Nat → Nat) (id : Nat) (row : List Nat) : Prop :=
  row.map number = List.range' id row.length

theorem Numbered.append {id : Nat} {front back : List Nat}
    (numbered : Numbered number id (front ++ back)) :
    Numbered number id front ∧ Numbered number (id + front.length) back := by
  unfold Numbered at numbered ⊢
  rw [List.map_append, List.length_append, ← List.range'_append, Nat.one_mul] at numbered
  exact List.append_inj numbered (by rw [List.length_map, List.length_range'])

theorem Numbered.head {id : Nat} {rest : List Nat} (numbered : Numbered number id (i :: rest)) :
    number i = id ∧ Numbered number (id + 1) rest := by
  unfold Numbered at numbered ⊢
  rw [List.map_cons, List.length_cons, List.range'_succ] at numbered
  exact List.cons_eq_cons.1 numbered

/-- If the entries of a row are drawn with their numbers, so is the row. -/
theorem graphOfRow_of_numbered {extra : Nat → List GraphItem} {row : List Nat} {next : Nat}
    {items : List GraphItem} (numbered : Numbered number next (row.flatMap t.preorder))
    (each : ∀ c ∈ row, ∀ id, Numbered number id (t.preorder c) →
      t.graphFrom c id = (t.drawn number c, id + (t.preorder c).length)) :
    t.graphOfRow extra row (items, next) =
      (items ++ row.flatMap fun c => t.drawn number c ++ extra (number c),
        next + (row.flatMap t.preorder).length) := by
  induction row generalizing items next with
  | nil => exact congrArg (·, next) (List.append_nil items).symm
  | cons c rest ih =>
    rw [List.flatMap_cons] at numbered
    obtain ⟨first, others⟩ := numbered.append
    have own := each c List.mem_cons_self next first
    rw [preorder_eq] at first
    have after : t.graphOfRow extra (c :: rest) (items, next) = t.graphOfRow extra rest
        (items ++ t.drawn number c ++ extra next, next + (t.preorder c).length) := by
      rw [graphOfRow, List.foldl_cons, own]
      rfl
    rw [after, ih others fun c mem => each c (List.mem_cons_of_mem _ mem), List.flatMap_cons,
      List.flatMap_cons, List.length_append, first.head.1, Nat.add_assoc]
    simp only [List.append_assoc]

/-- If what is listed of an entry has consecutive numbers, these are the numbers given out. -/
theorem graphFrom_of_numbered {id : Nat} (numbered : Numbered number id (t.preorder i)) :
    t.graphFrom i id = (t.drawn number i, id + (t.preorder i).length) := by
  induction h : t.entries.size - i using Nat.strongRecOn generalizing i id with
  | ind n ih =>
    subst h
    rw [preorder_eq] at numbered
    obtain ⟨rfl, below⟩ := numbered.head
    have each : ∀ c ∈ t.childrenOf i, ∀ id, Numbered number id (t.preorder c) →
        t.graphFrom c id = (t.drawn number c, id + (t.preorder c).length) := by
      intro c child id numbered
      have place := childrenOf_gt child
      exact ih _ (by omega) numbered rfl
    rw [graphFrom_eq, graphOfRow_of_numbered below each, drawn_eq, preorder_eq, List.length_cons,
      Nat.add_assoc, Nat.add_comm 1]
    rfl

/-- The place of an entry in the listing. -/
def numberOf (t : ScopeTree) (i : Nat) : Nat := t.listing.idxOf i

/-- The numbers given out are the places in the listing. -/
theorem graph_eq (once : t.listing.Nodup) : t.graph = t.units.flatMap (t.drawn t.numberOf) := by
  have numbered : Numbered t.numberOf 0 t.listing := by
    refine List.ext_getElem (by rw [List.length_map, List.length_range']) fun k inside _ => ?_
    rw [List.getElem_map, List.getElem_range', numberOf, once.idxOf_getElem, Nat.zero_add,
      Nat.one_mul]
  rw [graph_eq_graphOfRow, graphOfRow_of_numbered numbered fun c _ id => graphFrom_of_numbered]
  simp only [List.append_nil, List.nil_append]

/-! ### The graph -/

theorem length_listing (linked : Linked t) : t.listing.length = t.size := by
  have order := preordered_listing linked
  have all : t.listing.Perm (List.range' 1 t.size) := by
    refine (List.perm_ext_iff_of_nodup order.once List.nodup_range').2 fun i => ?_
    have rooted := t.rooted
    rw [order.mem_iff, List.mem_range'_1, size]
    omega
  rw [all.length_eq, List.length_range']

theorem getElem?_numberOf (mem : i ∈ t.listing) : t.listing[t.numberOf i]? = some i :=
  List.getElem?_idxOf mem

theorem numberOf_eq (once : t.listing.Nodup) {k : Nat} (found : t.listing[k]? = some i) :
    t.numberOf i = k := by
  obtain ⟨inside, rfl⟩ := List.getElem?_eq_some_iff.1 found
  exact once.idxOf_getElem k inside

theorem nodes_graph (once : t.listing.Nodup) :
    nodes t.graph = t.listing.map fun i => (t.numberOf i, t.labelOf i) := by
  rw [graph_eq once, nodes, List.filterMap_flatMap, listing, List.map_flatMap]
  exact List.flatMap_congr fun u _ => nodes_drawn t _ u

/-- Every entry is a unit or the end of one edge. -/
theorem ends_graph (once : t.listing.Nodup) :
    (t.units.map t.numberOf ++ (edges t.graph).map (·.2)).Perm (t.listing.map t.numberOf) := by
  have each := List.Perm.flatMap_left t.units fun u _ => ends_drawn t t.numberOf u
  rw [← List.map_flatMap] at each
  rw [graph_eq once, edges, List.filterMap_flatMap, List.map_flatMap]
  exact (List.map_append_flatMap_perm _ _ _).trans each

theorem exists_of_edge_mem_graph (once : t.listing.Nodup) {a b : Nat}
    (mem : .edge a b ∈ t.graph) :
    ∃ p ∈ t.listing, ∃ c ∈ t.childrenOf p, t.numberOf p = a ∧ t.numberOf c = b := by
  rw [graph_eq once] at mem
  obtain ⟨u, unit, mem⟩ := List.mem_flatMap.1 mem
  obtain ⟨p, below, found⟩ := exists_of_edge_mem_drawn mem
  exact ⟨p, List.mem_flatMap.2 ⟨u, unit, below⟩, found⟩

theorem sublist_graph (once : t.listing.Nodup) (mem : p ∈ t.listing) (child : c ∈ t.childrenOf p) :
    [.node (t.numberOf p) (t.labelOf p), .node (t.numberOf c) (t.labelOf c),
      .edge (t.numberOf p) (t.numberOf c)].Sublist t.graph := by
  obtain ⟨u, unit, below⟩ := List.mem_flatMap.1 mem
  rw [graph_eq once]
  exact (sublist_drawn below child).trans
    (List.sublist_flatten_of_mem (List.mem_map_of_mem unit))

/-- The lines draw a tree. There is a node for every entry, numbered from `0` on in the order of the
listing, with the label of the entry: it shows the name, and below it the tag, the closed ranges,
the address, the reference and the abbreviation code. There is an edge for every entry but the
units, from its parent to it and behind the nodes of both, and no edge is drawn twice. -/
structure Draws (t : ScopeTree) (items : List GraphItem) : Prop where
  length_nodes : (nodes items).length = t.size
  node : ∀ k < t.size, ∃ i e, t.listing[k]? = some i ∧ t.get? i = some e ∧
    (nodes items)[k]? = some (k, e.label) ∧
      shownLines e.label.toList = (e.name.getD "").toList :: e.lines.map (·.toList)
  length_edges : (edges items).length + t.units.length = t.size
  once : (edges items).Nodup
  edge_iff : ∀ a b, .edge a b ∈ items ↔
    ∃ i j, t.listing[a]? = some i ∧ t.listing[b]? = some j ∧ t.parentOf j = some i
  behind : ∀ a b, .edge a b ∈ items →
    ∃ first second, [.node a first, .node b second, .edge a b].Sublist items

/-- Two units with a child each. A third child comes last and belongs to the first unit. The units
have a name with a quote in it, and one of their ranges is open. -/
def outOfTurn : ScopeTree :=
  let unit : Description :=
    ⟨some Dwarf.Tag.compileUnit, some "a\"b", [⟨16, some 32⟩, ⟨48, none⟩], some 12⟩
  let block : Description := ⟨some 0x0b, none, [], none⟩
  empty
    |>.add 0 ⟨11, 0, 1⟩ unit
    |>.add 1 ⟨12, 0, 2⟩ block
    |>.add 0 ⟨31, 20, 1⟩ unit
    |>.add 3 ⟨32, 20, 2⟩ block
    |>.add 1 ⟨13, 0, 2⟩ block

end ScopeTree

end DebugScopes
