import DebugScopes.Proofs.Tree.Drawing

/-!
# The labels of a graph

A label stands between quotes, and a backslash in it takes the next character with it, whatever that
is. A name may have any characters. In a label its quotes and backslashes have a backslash in front,
so that no quote of a name ends the label, and no backslash at the end of a name takes anything that
is not part of it.

* `Whole`: text that a reader of labels goes through from its first character to its last;
* `labels`: the labels of a text, each with what stands behind it;
* `ScopeTree.labels_graph`: the labels of a graph are those of the entries of the listing;
* `ScopeTree.labels_graphText`: the labels of a graph are read as they were written.
-/

namespace DebugScopes

/-! ### Reading labels -/

/-- The text up to the quote that ends it, and what stands behind that quote. A backslash takes the
next character with it. -/
def untilQuote? : List Char → Option (List Char × List Char)
  | [] => none
  | '"' :: rest => some ([], rest)
  | '\\' :: c :: rest => (untilQuote? rest).map fun read => ('\\' :: c :: read.1, read.2)
  | c :: rest => (untilQuote? rest).map fun read => (c :: read.1, read.2)

theorem length_untilQuote? {s label after : List Char}
    (read : untilQuote? s = some (label, after)) : after.length < s.length := by
  fun_induction untilQuote? s generalizing label with
  | case1 => cases read
  | case2 rest =>
    cases read
    exact Nat.lt_succ_self _
  | case3 c rest ih =>
    obtain ⟨⟨inner, after⟩, deeper, same⟩ := Option.map_eq_some_iff.1 read
    cases same
    exact Nat.lt_trans (ih deeper) (by simp)
  | case4 c rest _ _ ih =>
    obtain ⟨⟨inner, after⟩, deeper, same⟩ := Option.map_eq_some_iff.1 read
    cases same
    exact Nat.lt_trans (ih deeper) (by simp)

/-- The labels of a text, each with what stands behind the quote that ends it. -/
def labels : List Char → List (List Char × List Char)
  | [] => []
  | c :: rest =>
    if c = '"' then
      match _read : untilQuote? rest with
      | some (label, after) => (label, after) :: labels after
      | none => []
    else labels rest
termination_by s => s.length
decreasing_by
  · have := length_untilQuote? _read
    exact Nat.lt_succ_of_lt this
  · exact Nat.lt_succ_self _

/-- Text inside a label in which no quote stands for itself, and whose last backslash does not take
what stands behind the text. -/
inductive Whole : List Char → Prop
  | nil : Whole []
  | cons {c : Char} {s : List Char} (quote : c ≠ '"') (backslash : c ≠ '\\') (rest : Whole s) :
      Whole (c :: s)
  | escaped (c : Char) {s : List Char} (rest : Whole s) : Whole ('\\' :: c :: s)

theorem Whole.append {s s' : List Char} (front : Whole s) (back : Whole s') : Whole (s ++ s') := by
  induction front with
  | nil => exact back
  | cons quote backslash rest ih => exact .cons quote backslash ih
  | escaped c rest ih => exact .escaped c ih

/-- A label that is whole is read up to the quote that was written behind it. -/
theorem Whole.untilQuote? {s : List Char} (whole : Whole s) (rest : List Char) :
    untilQuote? (s ++ '"' :: rest) = some (s, rest) := by
  induction whole with
  | nil => rfl
  | @cons c s quote backslash _ ih =>
    rw [List.cons_append, DebugScopes.untilQuote?, ih]
    · rfl
    · exact quote
    · exact fun d _ same _ => backslash same
  | escaped c _ ih =>
    rw [List.cons_append, List.cons_append, DebugScopes.untilQuote?, ih]
    rfl

theorem labels_quoted {s : List Char} (whole : Whole s) (rest : List Char) :
    labels ('"' :: (s ++ '"' :: rest)) = (s, rest) :: labels rest := by
  rw [labels, if_pos rfl]
  split
  · next label after read =>
    rw [whole.untilQuote?] at read
    cases read
    rfl
  · next none =>
    rw [whole.untilQuote?] at none
    cases none

/-- There is no label where there is no quote. -/
theorem labels_append {s : List Char} (bare : '"' ∉ s) (rest : List Char) :
    labels (s ++ rest) = labels rest := by
  induction s with
  | nil => rfl
  | cons c s ih =>
    rw [List.mem_cons, not_or] at bare
    rw [List.cons_append, labels, if_neg (Ne.symm bare.1), ih bare.2]

theorem whole_escapeLabel (s : List Char) : Whole (escapeLabel s) := by
  induction s with
  | nil => exact .nil
  | cons c s ih =>
    rw [escapeLabel_cons]
    split
    · exact .escaped c ih
    · next plain =>
      obtain ⟨backslash, quote⟩ := not_or.1 plain
      exact .cons quote backslash ih

theorem Bare.whole {s : String} (bare : Bare s) : Whole s.toList := by
  unfold Bare at bare
  generalize s.toList = letters at bare ⊢
  induction letters with
  | nil => exact .nil
  | cons c rest ih =>
    obtain ⟨⟨quote, backslash⟩, others⟩ := List.forall_mem_cons.1 bare
    exact .cons quote backslash (ih others)

/-! ### The labels of entries -/

namespace Entry

theorem whole_label (e : Entry) : Whole e.label.toList := by
  have lines {row : List String} (each : ∀ line ∈ row, Bare line) :
      Whole (row.flatMap fun line => '\\' :: 'n' :: line.toList) := by
    induction row with
    | nil => exact .nil
    | cons line row ih =>
      obtain ⟨first, others⟩ := List.forall_mem_cons.1 each
      exact (first.whole.escaped 'n').append (ih others)
  rw [toList_label]
  exact (whole_escapeLabel _).append (lines e.bare_lines)

end Entry

/-! ### The labels of a graph -/

namespace GraphItem

/-- The lines of a graph as text, with what is written behind them. -/
def lettersOf (items : List GraphItem) : List Char :=
  items.flatMap (·.text.toList) ++ "\x7d\n".toList

/-- The labels that are written, each with what is written behind the quote that ends it. -/
def written : List GraphItem → List (List Char × List Char)
  | [] => []
  | node _ label :: rest => (label.toList, "];\n".toList ++ lettersOf rest) :: written rest
  | edge _ _ :: rest => written rest

/-- What is written are the labels of the nodes. -/
theorem fst_written (items : List GraphItem) :
    (written items).map (·.1) = (nodes items).map (·.2.toList) := by
  induction items with
  | nil => rfl
  | cons item rest ih =>
    cases item with
    | node id label => exact congrArg (label.toList :: ·) ih
    | edge parent child => exact ih

/-- If all labels are whole, they are read as they were written. -/
theorem labels_lettersOf {items : List GraphItem}
    (whole : ∀ label ∈ (nodes items).map (·.2), Whole label.toList) :
    labels (lettersOf items) = written items := by
  have bare {s : String} (bare : Bare s) (rest : List Char) :
      labels (s.toList ++ rest) = labels rest :=
    labels_append (fun quote => (bare _ quote).1 rfl) rest
  induction items with
  | nil => decide +kernel
  | cons item rest ih =>
    cases item with
    | node id label =>
      obtain ⟨own, others⟩ := List.forall_mem_cons.1 whole
      have ih := ih others
      have front : Bare ("Node" ++ Numeral.decimal id ++ " [label=") :=
        (Bare.append (by decide) (bare_decimal _)).append (by decide)
      have split : lettersOf (node id label :: rest) =
          ("Node" ++ Numeral.decimal id ++ " [label=").toList ++
            '"' :: (label.toList ++ '"' :: ("];\n".toList ++ lettersOf rest)) := by
        simp [lettersOf, text]
      rw [split, bare front, labels_quoted own, bare (by decide), ih]
      rfl
    | edge parent child =>
      have ih := ih whole
      have line : Bare (edge parent child).text :=
        (((Bare.append (by decide) (bare_decimal _)).append (by decide)).append
          (bare_decimal _)).append (by decide)
      have split : lettersOf (edge parent child :: rest) =
          (edge parent child).text.toList ++ lettersOf rest := List.append_assoc _ _ _
      rw [split, bare line, ih]
      rfl

end GraphItem

namespace ScopeTree

open GraphItem

variable {t : ScopeTree}

/-- A row has the labels of its entries, in their order, if nothing else that is drawn has any. -/
theorem labels_graphOfRow {extra : Nat → List GraphItem} {row : List Nat}
    {start : List GraphItem × Nat}
    (each : ∀ c ∈ row, ∀ id,
      (nodes (t.graphFrom c id).1).map (·.2) = (t.preorder c).map t.labelOf)
    (more : ∀ n, nodes (extra n) = []) :
    (nodes (t.graphOfRow extra row start).1).map (·.2) =
      (nodes start.1).map (·.2) ++ (row.flatMap t.preorder).map t.labelOf := by
  induction row generalizing start with
  | nil => exact (List.append_nil _).symm
  | cons c rest ih =>
    refine (ih fun c among => each c (List.mem_cons_of_mem _ among)).trans ?_
    rw [nodes_append, nodes_append, more, List.append_nil, List.map_append,
      each c List.mem_cons_self, List.flatMap_cons, List.map_append, List.append_assoc]

/-- The labels are those of the entries in the order of the listing, whatever their numbers are. -/
theorem labels_graphFrom (t : ScopeTree) (i id : Nat) :
    (nodes (t.graphFrom i id).1).map (·.2) = (t.preorder i).map t.labelOf := by
  induction h : t.entries.size - i using Nat.strongRecOn generalizing i id with
  | ind n ih =>
    subst h
    have each : ∀ c ∈ t.childrenOf i, ∀ id,
        (nodes (t.graphFrom c id).1).map (·.2) = (t.preorder c).map t.labelOf := by
      intro c child id
      have place := childrenOf_gt child
      exact ih _ (by omega) c id rfl
    rw [graphFrom_eq, preorder_eq, List.map_cons]
    exact congrArg _ (labels_graphOfRow each fun _ => rfl)

theorem labels_graph (t : ScopeTree) :
    (nodes t.graph).map (·.2) = t.listing.map t.labelOf := by
  rw [graph_eq_graphOfRow]
  exact labels_graphOfRow (fun c _ id => t.labels_graphFrom c id) fun _ => rfl

theorem toList_labelOf (t : ScopeTree) (i : Nat) :
    (t.labelOf i).toList = (t.get? i).elim [] (·.label.toList) := by
  unfold labelOf
  cases t.get? i <;> rfl

theorem whole_labelOf (t : ScopeTree) (i : Nat) : Whole (t.labelOf i).toList := by
  unfold labelOf
  split
  · exact Entry.whole_label _
  · exact .nil

theorem toList_graphText (t : ScopeTree) :
    t.graphText.toList = "graph SourceTree \x7b\n".toList ++ lettersOf t.graph := by
  unfold graphText lettersOf
  simp only [String.toList_append, String.toList_join, List.flatMap_map]
  exact List.append_assoc _ _ _

/-- Whatever the names of its entries are, the labels of a graph are read as they were written: each
is all that was written between its quotes, up to the one that was written to end it. There is one
for every entry of the listing, in that order, and it tells the name that it starts with. Escaping,
which replaces the backslashes and then the quotes, gives no two texts the same. -/
theorem labels_graphText (t : ScopeTree) :
    labels t.graphText.toList = written t.graph ∧
      (labels t.graphText.toList).map (·.1) =
        t.listing.map (fun i => (t.get? i).elim [] (·.label.toList)) ∧
      (∀ e : Entry, e.label.toList = escapeLabel (e.name.getD "").toList ++
          (e.lines.flatMap fun line => '\\' :: 'n' :: line.toList) ∧
        firstLine e.label.toList = (e.name.getD "").toList) ∧
      ∀ s s' : List Char, (escapeLabel s = escapeLabel s' ↔ s = s') ∧
        escapeLabel s = replaced '"' ['\\', '"'] (replaced '\\' ['\\', '\\'] s) := by
  have front : '"' ∉ "graph SourceTree \x7b\n".toList := by decide
  have read : labels t.graphText.toList = written t.graph := by
    rw [toList_graphText, labels_append front]
    refine labels_lettersOf fun label among => ?_
    rw [labels_graph] at among
    obtain ⟨i, -, rfl⟩ := List.mem_map.1 among
    exact t.whole_labelOf i
  refine ⟨read, ?_, fun e => ⟨e.toList_label, e.firstLine_label⟩,
    fun s s' => ⟨escapeLabel_inj, escapeLabel_eq_replaced s⟩⟩
  calc
    _ = ((nodes t.graph).map (·.2)).map String.toList := by
      rw [read, fst_written, List.map_map]
      rfl
    _ = t.listing.map fun i => (t.labelOf i).toList := by
      rw [labels_graph, List.map_map]
      rfl
    _ = _ := List.map_congr_left fun i _ => t.toList_labelOf i

end ScopeTree

end DebugScopes
