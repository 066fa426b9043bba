import DebugScopes.Proofs.Tree.Renaming

/-!
# Trees made step by step

Whoever has a tree can put entries under any that are there, and can change what an entry says of
itself: its tag, its name, its ranges. Whatever the order of these steps, parents and children go on
to know each other, so that every entry but the root hangs below the root.

* `ScopeTree.Made`: a tree that such steps have made;
* `ScopeTree.Made.linked`: its parents and children know each other;
* `ScopeTree.mem_ancestors_of_mem_below`: what is listed below an entry has it around it.
-/

namespace DebugScopes.ScopeTree

variable {t : ScopeTree} {i j c : Nat}

/-! ### The steps -/

/-- A tree made step by step: entries are put under others that are there, and are described anew,
in any order. -/
inductive Made : ScopeTree → Prop
  | empty : Made .empty
  | add {t : ScopeTree} {parent : Nat} (place : Place) (d : Description) (made : Made t)
      (known : parent < t.entries.size) : Made (t.add parent place d)
  | update {t : ScopeTree} (i : Nat) (f : Description → Description) (made : Made t) :
      Made (t.update i f)
  | startingAt {t : ScopeTree} (i : Nat) (made : Made t) : Made (t.startingAt i)

theorem childrenOf_update (t : ScopeTree) (i j : Nat) (f : Description → Description) :
    (t.update i f).childrenOf j = t.childrenOf j := by
  rw [childrenOf_eq, childrenOf_eq, get?_update]
  split
  · cases t.get? j <;> rfl
  · rfl

theorem parentOf_update (t : ScopeTree) (i j : Nat) (f : Description → Description) :
    (t.update i f).parentOf j = t.parentOf j := by
  rw [parentOf_eq, parentOf_eq, get?_update]
  split
  · cases t.get? j <;> rfl
  · rfl

theorem Linked.update (linked : Linked t) (i : Nat) (f : Description → Description) :
    Linked (t.update i f) := by
  refine ⟨fun j c => ?_, fun j => ?_, fun j inside => ?_⟩
  · rw [childrenOf_update, parentOf_update, linked.child_iff]
  · rw [childrenOf_update]
    exact linked.once j
  · rw [parentOf_update]
    exact linked.root_iff j (Nat.lt_of_lt_of_eq inside Array.size_modify)

/-- In a tree made step by step parents and children know each other. -/
theorem Made.linked (made : Made t) : Linked t := by
  induction made with
  | empty => exact linked_empty
  | add place d made known ih => exact ih.add known
  | update i f made ih => exact ih.update i f
  | startingAt i made ih => exact (renamed_startingAt _ i).linked ih

/-! ### What is around an entry -/

theorem ancestors_of_parentOf {p : Nat} (found : t.parentOf i = some p) :
    t.ancestors i = p :: t.ancestors p := by
  rw [ancestors]
  split
  · next q there =>
    obtain rfl := Option.some.inj (found.symm.trans there)
    rfl
  · next there =>
    rw [found] at there
    cases there

theorem ancestors_of_none (found : t.parentOf i = none) : t.ancestors i = [] := by
  rw [ancestors]
  split
  · next q there =>
    rw [found] at there
    cases there
  · rfl

/-- What is around an entry was there before it. -/
theorem lt_of_mem_ancestors (mem : j ∈ t.ancestors i) : j < i := by
  fun_induction t.ancestors i with
  | case1 i p found ih =>
    rcases List.mem_cons.1 mem with rfl | further
    · exact parentOf_lt found
    · exact Nat.lt_trans (ih further) (parentOf_lt found)
  | case2 => cases mem

theorem ancestors_root (t : ScopeTree) : t.ancestors 0 = [] := by
  cases found : t.parentOf 0 with
  | none => exact ancestors_of_none found
  | some p => exact absurd (parentOf_lt found) (Nat.not_lt_zero p)

theorem ancestors_child (linked : Linked t) (child : c ∈ t.childrenOf i) :
    t.ancestors c = i :: t.ancestors i :=
  ancestors_of_parentOf ((linked.child_iff i c).1 child)

/-- What is around an entry around another is around that one, too. -/
theorem mem_ancestors_trans {a b : Nat} (inner : a ∈ t.ancestors j) (outer : b ∈ t.ancestors a) :
    b ∈ t.ancestors j := by
  fun_induction t.ancestors j with
  | case1 j p found ih =>
    rcases List.mem_cons.1 inner with rfl | further
    · exact List.mem_cons_of_mem _ outer
    · exact List.mem_cons_of_mem _ (ih further)
  | case2 => cases inner

/-- The depth of an entry counts the entries around it but the root. -/
theorem depth_eq (linked : Linked t) (i : Nat) :
    t.depth i = ((t.ancestors i).filter (· ≠ 0)).length := by
  unfold depth
  fun_induction t.ancestors i with
  | case1 i p parent ih =>
    have inside := childrenOf_gt ((linked.child_iff p i).2 parent)
    have root := linked.root_iff p (Nat.lt_trans inside.1 inside.2)
    by_cases top : p = 0
    · -- nothing is around the root
      rw [List.takeWhile_cons, root.2 top, top, ancestors_root]
      rfl
    · have around : (t.parentOf p).isSome := Option.isSome_iff_ne_none.2 (mt root.1 top)
      rw [List.takeWhile_cons, if_pos around, List.length_cons, ih,
        List.filter_cons_of_pos (by simpa using top), List.length_cons]
  | case2 => rfl

/-- What is listed below an entry has it around it. -/
theorem mem_ancestors_of_mem_below (linked : Linked t)
    (mem : j ∈ (t.childrenOf i).flatMap t.preorder) : i ∈ t.ancestors j := by
  induction h : t.entries.size - i using Nat.strongRecOn generalizing i with
  | ind n ih =>
    subst h
    obtain ⟨c, child, mem⟩ := List.mem_flatMap.1 mem
    have place := childrenOf_gt child
    have above : i ∈ t.ancestors c := ancestors_child linked child ▸ List.mem_cons_self
    rw [preorder_eq] at mem
    rcases List.mem_cons.1 mem with rfl | deeper
    · exact above
    · exact mem_ancestors_trans (ih _ (by omega) deeper rfl) above

end DebugScopes.ScopeTree
