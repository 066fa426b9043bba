import DebugScopes.Proofs.Tree.Making
import DebugScopes.Tree.Lookup

/-!
# Where a program counter is found

The search for a program counter goes down from the root, looks through units, and stops at the
first method that holds the counter. What it finds can be told without the search: among the entries
in the order of the listing, the first one that holds the counter, is no unit, and has nothing
around it but the root and units that lead there.

* `Entry.Holds`, `ScopeTree.Passes` and `ScopeTree.IsMethodOf`: that the counter is in a range of
  an entry, that an entry leads further down, and that an entry is one to be found;
* `ScopeTree.findFrom_eq`: what is found at or below an entry;
* `ScopeTree.find_eq_find?_listing`: what is found in a tree, however it was made.
-/

namespace DebugScopes

/-! ### What is to be found -/

/-- Some closed range of the entry holds the program counter. -/
def Entry.Holds (e : Entry) (pc : Int) : Prop :=
  ∃ r ∈ e.ranges, ∃ high ∈ r.high, r.low ≤ pc ∧ pc < high

instance (e : Entry) (pc : Int) : Decidable (e.Holds pc) :=
  inferInstanceAs (Decidable (∃ r ∈ e.ranges, ∃ high ∈ r.high, r.low ≤ pc ∧ pc < high))

theorem CodeRange.includes_iff {r : CodeRange} {pc : Int} :
    r.includes pc ↔ ∃ high ∈ r.high, r.low ≤ pc ∧ pc < high := by
  unfold CodeRange.includes
  cases r.high <;> simp

theorem Entry.covers_iff {e : Entry} {pc : Int} : e.covers pc ↔ e.Holds pc := by
  rw [Description.covers, List.any_eq_true]
  simp only [CodeRange.includes_iff]
  rfl

namespace ScopeTree

/-- Whether a search for the program counter looks below an entry: that is the root or a unit, and
has no ranges at all unless one of them holds the counter. -/
def Passes (t : ScopeTree) (pc : Int) (i : Nat) : Prop :=
  ∃ e ∈ t.get? i, (i = 0 ∨ e.tag = some Dwarf.Tag.compileUnit) ∧ (e.ranges = [] ∨ e.Holds pc)

instance (t : ScopeTree) (pc : Int) (i : Nat) : Decidable (t.Passes pc i) :=
  inferInstanceAs (Decidable (∃ e ∈ t.get? i,
    (i = 0 ∨ e.tag = some Dwarf.Tag.compileUnit) ∧ (e.ranges = [] ∨ e.Holds pc)))

/-- Whether an entry is a method that holds the program counter: it is no unit, and there is nothing
around it that the search does not look below. -/
def IsMethodOf (t : ScopeTree) (pc : Int) (i : Nat) : Prop :=
  (∃ e ∈ t.get? i, e.tag ≠ some Dwarf.Tag.compileUnit ∧ e.Holds pc) ∧
    ∀ a ∈ t.ancestors i, t.Passes pc a

instance (t : ScopeTree) (pc : Int) (i : Nat) : Decidable (t.IsMethodOf pc i) :=
  inferInstanceAs (Decidable ((∃ e ∈ t.get? i, e.tag ≠ some Dwarf.Tag.compileUnit ∧ e.Holds pc) ∧
    ∀ a ∈ t.ancestors i, t.Passes pc a))

variable {t : ScopeTree} {pc : Int} {i j : Nat} {e : Entry}

theorem passes_iff (found : t.get? i = some e) :
    t.Passes pc i ↔
      (i = 0 ∨ e.tag = some Dwarf.Tag.compileUnit) ∧ (e.ranges = [] ∨ e.Holds pc) := by
  simp [Passes, found]

theorem isMethodOf_iff (found : t.get? i = some e) :
    t.IsMethodOf pc i ↔
      (e.tag ≠ some Dwarf.Tag.compileUnit ∧ e.Holds pc) ∧ ∀ a ∈ t.ancestors i, t.Passes pc a := by
  simp [IsMethodOf, found]

/-! ### The search -/

theorem isRoot_iff (linked : t.Linked) (found : t.get? i = some e) : e.isRoot ↔ i = 0 := by
  rw [← linked.root_iff i (lt_size_of_get? found), parentOf_eq, found, Entry.isRoot,
    Option.isNone_iff_eq_none]
  rfl

/-- What a search does at an entry: it looks below the root and units that lead further, and takes
any other entry that holds the program counter. -/
theorem findFrom_of_get? (linked : t.Linked) (found : t.get? i = some e) :
    t.findFrom pc i =
      if i = 0 ∨ e.tag = some Dwarf.Tag.compileUnit then
        if e.ranges = [] ∨ e.Holds pc then (t.childrenOf i).findSome? (t.findFrom pc) else none
      else if e.Holds pc then some i else none := by
  have transparent : (e.isRoot || e.isUnit) = true ↔
      i = 0 ∨ e.tag = some Dwarf.Tag.compileUnit := by
    rw [Bool.or_eq_true, isRoot_iff linked found, Description.isUnit, decide_eq_true_iff]
  have shut : (!e.ranges.isEmpty && !e.covers pc) = true ↔ ¬ (e.ranges = [] ∨ e.Holds pc) := by
    rw [← Entry.covers_iff]
    simp
  rw [findFrom, found]
  simp only [transparent, shut, Entry.covers_iff, ite_not]
  split_ifs <;> simp

theorem findSome?_congr {α β : Type} {f g : α → Option β} {xs : List α}
    (same : ∀ x ∈ xs, f x = g x) : xs.findSome? f = xs.findSome? g := by
  induction xs with
  | nil => rfl
  | cons x xs ih =>
    obtain ⟨first, others⟩ := List.forall_mem_cons.1 same
    rw [List.findSome?_cons, List.findSome?_cons, first, ih others]

/-- Nothing is to be found below an entry that the search does not look below. -/
theorem find?_below_of_not_passes (linked : t.Linked) (blocked : ¬ t.Passes pc i) :
    ((t.childrenOf i).flatMap t.preorder).find? (fun j => t.IsMethodOf pc j) = none := by
  rw [List.find?_eq_none]
  intro j mem method
  exact blocked ((of_decide_eq_true method).2 i (mem_ancestors_of_mem_below linked mem))

/-- What is found at or below an entry that a search has come to. -/
theorem findFrom_eq (linked : t.Linked) (positive : 0 < i) (inside : i < t.entries.size)
    (around : ∀ a ∈ t.ancestors i, t.Passes pc a) :
    t.findFrom pc i = (t.preorder i).find? fun j => t.IsMethodOf pc j := by
  induction h : t.entries.size - i using Nat.strongRecOn generalizing i with
  | ind n ih =>
    subst h
    obtain ⟨e, found⟩ := exists_get? inside
    have apart : i ≠ 0 := by omega
    rw [findFrom_of_get? linked found, preorder_eq, List.find?_cons]
    by_cases unit : e.tag = some Dwarf.Tag.compileUnit
    · have own : ¬ t.IsMethodOf pc i := fun method => ((isMethodOf_iff found).1 method).1.1 unit
      rw [if_pos (.inr unit), decide_eq_false own]
      by_cases further : e.ranges = [] ∨ e.Holds pc
      · rw [if_pos further, List.find?_flatMap]
        refine findSome?_congr fun c child => ?_
        have place := childrenOf_gt child
        refine ih _ (by omega) (by omega) place.2 ?_ rfl
        rw [ancestors_child linked child]
        exact List.forall_mem_cons.2 ⟨(passes_iff found).2 ⟨.inr unit, further⟩, around⟩
      · have blocked : ¬ t.Passes pc i := fun passes => further ((passes_iff found).1 passes).2
        rw [if_neg further]
        exact (find?_below_of_not_passes linked blocked).symm
    · have leaf : ¬ (i = 0 ∨ e.tag = some Dwarf.Tag.compileUnit) := not_or.2 ⟨apart, unit⟩
      have blocked : ¬ t.Passes pc i := fun passes => leaf ((passes_iff found).1 passes).1
      rw [if_neg leaf]
      by_cases holds : e.Holds pc
      · rw [if_pos holds, decide_eq_true ((isMethodOf_iff found).2 ⟨⟨unit, holds⟩, around⟩)]
      · have own : ¬ t.IsMethodOf pc i := fun method => holds ((isMethodOf_iff found).1 method).1.2
        rw [if_neg holds, decide_eq_false own]
        exact (find?_below_of_not_passes linked blocked).symm

/-- A search that gets past the root finds the first method in the listing. -/
theorem find_of_passes (linked : t.Linked) (passes : t.Passes pc 0) :
    t.find pc = t.listing.find? fun i => t.IsMethodOf pc i := by
  obtain ⟨e, found, leads⟩ := passes
  rw [find, findFrom_of_get? linked found, if_pos leads.1, if_pos leads.2, listing, units,
    List.find?_flatMap]
  refine findSome?_congr fun c child => ?_
  have place := childrenOf_gt child
  refine findFrom_eq linked place.1 place.2 ?_
  rw [ancestors_child linked child, ancestors_root]
  exact List.forall_mem_singleton.2 ((passes_iff found).2 leads)

/-- What is found in a tree, however it was made: the first entry of the listing that holds the
program counter, is no unit, and has around it but the root and units, each without ranges or
holding the counter itself. -/
theorem find_eq_find?_listing (made : t.Made) (pc : Int) :
    t.find pc = t.listing.find? fun i => t.IsMethodOf pc i := by
  have linked := made.linked
  by_cases passes : t.Passes pc 0
  · exact find_of_passes linked passes
  · obtain ⟨e, found⟩ := exists_get? t.rooted
    have shut : ¬ (e.ranges = [] ∨ e.Holds pc) := fun further =>
      passes ((passes_iff found).2 ⟨.inl rfl, further⟩)
    rw [find, findFrom_of_get? linked found, if_pos (.inl rfl), if_neg shut]
    exact (find?_below_of_not_passes linked passes).symm

/-- Two units, the second with another unit in it. The method in the first unit lies outside the
ranges of the unit; the second unit has no ranges, and a range of the unit in it is open. -/
def nestedUnits : ScopeTree :=
  let unit (ranges : List CodeRange) : Description :=
    ⟨some Dwarf.Tag.compileUnit, none, ranges, none⟩
  let method (name : String) (ranges : List CodeRange) : Description :=
    ⟨some 0x2e, some name, ranges, none⟩
  empty
    |>.add 0 ⟨11, 0, 1⟩ (unit [⟨0, some 8⟩])
    |>.add 1 ⟨12, 0, 2⟩ (method "stray" [⟨8, some 12⟩])
    |>.add 0 ⟨31, 20, 1⟩ (unit [])
    |>.add 3 ⟨32, 20, 1⟩ (unit [⟨0, none⟩, ⟨8, some 16⟩])
    |>.add 3 ⟨33, 20, 2⟩ (method "outer" [⟨0, some 16⟩])
    |>.add 4 ⟨34, 20, 2⟩ (method "inner" [⟨8, some 12⟩])

/-- The first method of the listing lies in a unit that leaves the program counter out, and so the
method that is found is that of the innermost unit. -/
theorem find_eq_find?_listing_nested :
    nestedUnits.Made ∧
      nestedUnits.find 9 = (nestedUnits.listing.find? fun i => nestedUnits.IsMethodOf 9 i) ∧
        nestedUnits.listing = [1, 2, 3, 4, 6, 5] ∧ nestedUnits.find 9 = some 6 := by
  have made : nestedUnits.Made := by
    refine .add _ _ (.add _ _ (.add _ _ (.add _ _ (.add _ _ (.add _ _ .empty ?_) ?_) ?_) ?_) ?_) ?_
    all_goals decide +kernel
  exact ⟨made, find_eq_find?_listing made 9, by decide +kernel, by decide +kernel⟩

end ScopeTree

end DebugScopes
