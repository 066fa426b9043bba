import DebugScopes.Proofs.Tree.Making

/-!
# The order of the listing

In a tree whose parents and children know each other, the listing has every entry but the root once.
Parents stand in front of what is below them, what is below an entry stands directly behind it and
in one stretch, and siblings stand in the order in which they were added.

* `ScopeTree.mem_below_iff`: what is below an entry is what has it around it;
* `ScopeTree.Preordered`: what it takes of a list to be the listing of a tree;
* `ScopeTree.preordered_listing`: the listing of a tree made step by step is.
-/

namespace DebugScopes.ScopeTree

variable {t : ScopeTree} {i j c p : Nat}

/-! ### What is below an entry -/

theorem mem_preorder_self (t : ScopeTree) (i : Nat) : i ∈ t.preorder i := by
  rw [preorder_eq]
  exact List.mem_cons_self

/-- What is listed of an entry is listed of all entries around it, and in one stretch. -/
theorem infix_preorder (mem : j ∈ t.preorder i) : t.preorder j <:+: t.preorder i := by
  induction h : t.entries.size - i using Nat.strongRecOn generalizing i with
  | ind n ih =>
    subst h
    rw [preorder_eq] at mem
    rcases List.mem_cons.1 mem with rfl | below
    · exact List.infix_refl _
    · obtain ⟨c, child, inner⟩ := List.mem_flatMap.1 below
      have place := childrenOf_gt child
      have deeper := ih _ (by omega) inner rfl
      have here : t.preorder c <:+: (t.childrenOf i).flatMap t.preorder :=
        List.infix_of_mem_flatten (List.mem_map_of_mem child)
      rw [preorder_eq t i]
      exact (deeper.trans here).trans (List.suffix_cons _ _).isInfix

/-- The children of what is below an entry are below it, too. -/
theorem mem_below_child (mem : p ∈ (t.childrenOf i).flatMap t.preorder) (child : c ∈ t.childrenOf p) :
    c ∈ (t.childrenOf i).flatMap t.preorder := by
  obtain ⟨a, above, inner⟩ := List.mem_flatMap.1 mem
  have here : c ∈ t.preorder p := by
    rw [preorder_eq]
    exact List.mem_cons_of_mem _ (List.mem_flatMap.2 ⟨c, child, mem_preorder_self t c⟩)
  exact List.mem_flatMap.2 ⟨a, above, (infix_preorder inner).subset here⟩

/-- What is below an entry is what has it around it. -/
theorem mem_below_iff (linked : Linked t) :
    j ∈ (t.childrenOf i).flatMap t.preorder ↔ i ∈ t.ancestors j := by
  refine ⟨mem_ancestors_of_mem_below linked, fun around => ?_⟩
  fun_induction t.ancestors j with
  | case1 j p parent ih =>
    have child := (linked.child_iff p j).2 parent
    rcases List.mem_cons.1 around with rfl | further
    · exact List.mem_flatMap.2 ⟨j, child, mem_preorder_self t j⟩
    · exact mem_below_child (ih further) child
  | case2 => cases around

/-! ### Every entry once -/

/-- Of two entries around a third one, or that one itself, one is around the other. -/
theorem ancestors_total {a b : Nat} (one : a ∈ j :: t.ancestors j) (other : b ∈ j :: t.ancestors j) :
    a = b ∨ a ∈ t.ancestors b ∨ b ∈ t.ancestors a := by
  fun_induction t.ancestors j with
  | case1 j p parent ih =>
    have around : t.ancestors j = p :: t.ancestors p := ancestors_of_parentOf parent
    rcases List.mem_cons.1 one with rfl | above
    · rcases List.mem_cons.1 other with rfl | above'
      · exact .inl rfl
      · exact .inr (.inr (around ▸ above'))
    · rcases List.mem_cons.1 other with rfl | above'
      · exact .inr (.inl (around ▸ above))
      · exact ih above above'
  | case2 j parent =>
    rw [List.mem_singleton] at one other
    exact .inl (one.trans other.symm)

/-- Nothing is at or below two children of an entry. -/
theorem child_unique {a b : Nat} (linked : Linked t) (one : a ∈ t.childrenOf i)
    (other : b ∈ t.childrenOf i) (below : j ∈ t.preorder a) (below' : j ∈ t.preorder b) : a = b := by
  have around {c : Nat} (mem : j ∈ t.preorder c) : c ∈ j :: t.ancestors j := by
    rw [preorder_eq] at mem
    rcases List.mem_cons.1 mem with rfl | deeper
    · exact List.mem_cons_self
    · exact List.mem_cons_of_mem _ ((mem_below_iff linked).1 deeper)
  -- what is around a child is its parent and what is around that, so it stands in front of it
  have apart {a b : Nat} (one : a ∈ t.childrenOf i) (other : b ∈ t.childrenOf i) :
      a ∉ t.ancestors b := by
    intro mem
    have later := (childrenOf_gt one).1
    rw [ancestors_child linked other] at mem
    rcases List.mem_cons.1 mem with rfl | further
    · exact Nat.lt_irrefl _ later
    · exact Nat.lt_asymm later (lt_of_mem_ancestors further)
  rcases ancestors_total (around below) (around below') with same | inner | outer
  · exact same
  · exact absurd inner (apart one other)
  · exact absurd outer (apart other one)

/-- No entry is listed twice below another. -/
theorem nodup_below (linked : Linked t) (i : Nat) :
    ((t.childrenOf i).flatMap t.preorder).Nodup := by
  induction h : t.entries.size - i using Nat.strongRecOn generalizing i with
  | ind n ih =>
    subst h
    refine List.nodup_flatMap.2 ⟨fun c child => ?_, ?_⟩
    · have place := childrenOf_gt child
      rw [preorder_eq]
      refine List.nodup_cons.2 ⟨fun mem => ?_, ih _ (by omega) c rfl⟩
      exact Nat.lt_irrefl c (lt_of_mem_ancestors ((mem_below_iff linked).1 mem))
    · refine (linked.once i).imp_of_mem fun {a b} one other apart => ?_
      exact List.disjoint_left.2 fun j below below' =>
        apart (child_unique linked one other below below')

/-- The root is around every other entry. -/
theorem root_mem_ancestors_iff (linked : Linked t) :
    0 ∈ t.ancestors i ↔ 0 < i ∧ i < t.entries.size := by
  constructor
  · intro around
    refine ⟨lt_of_mem_ancestors around, ?_⟩
    by_contra outside
    have parent : t.parentOf i = none := by
      rw [parentOf_eq, get?_eq_none (Nat.le_of_not_lt outside)]
      rfl
    rw [ancestors_of_none parent] at around
    cases around
  · rintro ⟨positive, inside⟩
    induction i using Nat.strongRecOn with
    | ind i ih =>
      cases parent : t.parentOf i with
      | none =>
        have := (linked.root_iff i inside).1 parent
        omega
      | some p =>
        have before := parentOf_lt parent
        rw [ancestors_of_parentOf parent]
        by_cases top : p = 0
        · exact top ▸ List.mem_cons_self
        · exact List.mem_cons_of_mem _ (ih p before (Nat.pos_of_ne_zero top) (by omega))

/-- The entries of a row stand in what is listed of them, in their order. -/
theorem sublist_flatMap_preorder (t : ScopeTree) (row : List Nat) :
    row.Sublist (row.flatMap t.preorder) := by
  induction row with
  | nil => exact .slnil
  | cons c rest ih =>
    rw [List.flatMap_cons, preorder_eq]
    exact (ih.trans (List.sublist_append_right _ _)).cons_cons c

/-! ### The listing -/

/-- The listing has the entries in the order of a walk from the root: an entry, then all that is
below its first child, then all below the next. Every entry but the root is there once, what is
below an entry stands directly behind it, parents stand in front of all that is below them, and
children in the order of their row. -/
structure Preordered (t : ScopeTree) (listing : List Nat) : Prop where
  eq_preorder : listing = (t.childrenOf 0).flatMap t.preorder
  once : listing.Nodup
  mem_iff : ∀ i, i ∈ listing ↔ 0 < i ∧ i < t.entries.size
  stretch : ∀ i ∈ listing, ∃ front below back, listing = front ++ i :: (below ++ back) ∧
    ∀ j, j ∈ below ↔ i ∈ t.ancestors j
  parents : ∀ i ∈ listing, ∀ j, i ∈ t.ancestors j → [i, j].Sublist listing
  siblings : ∀ i, (t.childrenOf i).Sublist listing

/-- The listing of a tree whose parents and children know each other is in order. -/
theorem preordered_listing (linked : Linked t) : Preordered t t.listing := by
  have mem_iff (i : Nat) : i ∈ t.listing ↔ 0 < i ∧ i < t.entries.size :=
    (mem_below_iff linked).trans (root_mem_ancestors_iff linked)
  have infix_listing {i : Nat} (mem : i ∈ t.listing) : t.preorder i <:+: t.listing := by
    obtain ⟨u, unit, inner⟩ := List.mem_flatMap.1 mem
    exact (infix_preorder inner).trans (List.infix_of_mem_flatten (List.mem_map_of_mem unit))
  have stretch {i : Nat} (mem : i ∈ t.listing) :
      ∃ front below back, t.listing = front ++ i :: (below ++ back) ∧
        ∀ j, j ∈ below ↔ i ∈ t.ancestors j := by
    obtain ⟨front, back, split⟩ := infix_listing mem
    refine ⟨front, (t.childrenOf i).flatMap t.preorder, back, ?_, fun j => mem_below_iff linked⟩
    rw [← split, preorder_eq, List.append_assoc, List.cons_append]
  refine ⟨rfl, nodup_below linked 0, mem_iff, fun i mem => stretch mem, fun i mem j around => ?_,
    fun i => ?_⟩
  · obtain ⟨front, below, back, split, inside⟩ := stretch mem
    have behind : [j].Sublist (below ++ back) :=
      List.singleton_sublist.2 (List.mem_append_left _ ((inside j).2 around))
    rw [split]
    exact (behind.cons_cons i).trans (List.sublist_append_right _ _)
  · have own := sublist_flatMap_preorder t (t.childrenOf i)
    by_cases top : i = 0
    · subst top
      exact own
    by_cases inside : i < t.entries.size
    · have listed := (infix_listing ((mem_iff i).2 ⟨Nat.pos_of_ne_zero top, inside⟩)).sublist
      rw [preorder_eq] at listed
      exact own.trans ((List.sublist_cons_self _ _).trans listed)
    · rw [childrenOf_eq, get?_eq_none (Nat.le_of_not_lt inside)]
      exact List.nil_sublist _

/-! ### The order of siblings -/

/-- Children stand in the order in which they were added. -/
theorem Made.pairwise_childrenOf (made : Made t) (i : Nat) :
    (t.childrenOf i).Pairwise (· < ·) := by
  induction made with
  | empty =>
    rw [childrenOf_eq]
    cases i with
    | zero => exact .nil
    | succ i =>
      rw [get?_eq_none (Nat.succ_le_succ (Nat.zero_le i))]
      exact .nil
  | @add t parent place d made known ih =>
    rw [childrenOf_add known]
    split
    · refine List.pairwise_append.2 ⟨ih, List.pairwise_singleton _ _, fun c old _ new => ?_⟩
      rw [List.mem_singleton.1 new]
      exact (childrenOf_gt old).2
    · exact ih
  | update i f made ih =>
    rw [childrenOf_update]
    exact ih
  | startingAt j made ih =>
    rw [(renamed_startingAt _ j).childrenOf]
    exact ih

/-- Every entry but the root has a parent, which was added before it and has it once among its
children. -/
theorem exists_parent (linked : Linked t) (positive : 0 < i) (inside : i < t.entries.size) :
    ∃ p < i, t.parentOf i = some p ∧ (t.childrenOf p).count i = 1 := by
  cases parent : t.parentOf i with
  | none =>
    have := (linked.root_iff i inside).1 parent
    omega
  | some p =>
    exact ⟨p, parentOf_lt parent, rfl,
      List.count_eq_one_of_mem (linked.once p) ((linked.child_iff p i).2 parent)⟩

end DebugScopes.ScopeTree
