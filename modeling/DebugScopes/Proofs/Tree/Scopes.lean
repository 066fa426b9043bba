import DebugScopes.Proofs.Tree.Locating

/-!
# The scopes of a program counter

In a program whose ranges are nested like its entries, the scopes of a program counter are all
entries but units that hold it. The chain of scopes is made by going from each entry to the first
child that holds the counter; where the ranges are nested there is one such child at most, and
nothing that holds the counter lies off the way.

* `ScopeTree.WellNested`: the ranges of the entries are nested like the entries;
* `ScopeTree.WellNested.filter_preorder_of_scope`: all scopes at or below one of them;
* `ScopeTree.scopes_eq_filter_listing`: all scopes of a tree.
-/

namespace DebugScopes.ScopeTree

/-! ### Nested ranges -/

/-- Whether an entry is a unit. -/
def IsUnitAt (t : ScopeTree) (i : Nat) : Prop :=
  ∃ e ∈ t.get? i, e.tag = some Dwarf.Tag.compileUnit

/-- Whether an entry, which is neither the root nor a unit, holds the program counter. -/
def IsScopeOf (t : ScopeTree) (pc : Int) (i : Nat) : Prop :=
  0 < i ∧ ∃ e ∈ t.get? i, e.tag ≠ some Dwarf.Tag.compileUnit ∧ e.Holds pc

instance (t : ScopeTree) (pc : Int) (i : Nat) : Decidable (t.IsScopeOf pc i) :=
  inferInstanceAs
    (Decidable (0 < i ∧ ∃ e ∈ t.get? i, e.tag ≠ some Dwarf.Tag.compileUnit ∧ e.Holds pc))

/-- Whether an entry stands directly below the root or a unit. -/
def IsOutermost (t : ScopeTree) (i : Nat) : Prop :=
  ∃ p ∈ t.parentOf i, p = 0 ∨ t.IsUnitAt p

/-- The ranges of the entries are nested like the entries. The root has no ranges, and units stand
only below the root. No program counter is in two scopes that have the same parent, or that both
stand directly below the root or units. And whatever is in a scope is in its parent, too, unless
that is the root or a unit without ranges. -/
structure WellNested (t : ScopeTree) : Prop where
  bare : ∀ e ∈ t.get? 0, e.ranges = []
  units_top : ∀ i, 0 < i → t.IsUnitAt i → t.parentOf i = some 0
  siblings : ∀ pc i j, t.IsScopeOf pc i → t.IsScopeOf pc j → t.parentOf i = t.parentOf j → i = j
  outermost : ∀ pc i j, t.IsScopeOf pc i → t.IsScopeOf pc j → t.IsOutermost i → t.IsOutermost j →
    i = j
  within : ∀ pc i p, t.IsScopeOf pc i → t.parentOf i = some p → 0 < p → ∀ e ∈ t.get? p,
    e.tag ≠ some Dwarf.Tag.compileUnit ∨ e.ranges ≠ [] → e.Holds pc

variable {t : ScopeTree} {pc : Int} {i j c u m : Nat} {e : Entry}

theorem isUnitAt_iff (found : t.get? i = some e) :
    t.IsUnitAt i ↔ e.tag = some Dwarf.Tag.compileUnit := by
  simp [IsUnitAt, found]

theorem isScopeOf_iff (found : t.get? i = some e) (positive : 0 < i) :
    t.IsScopeOf pc i ↔ e.tag ≠ some Dwarf.Tag.compileUnit ∧ e.Holds pc := by
  simp [IsScopeOf, found, positive]

/-! ### What lies around a scope -/

namespace WellNested

/-- No child of an entry other than the root is a unit. -/
theorem inner_child (nested : t.WellNested) (linked : t.Linked) (positive : 0 < i)
    (child : c ∈ t.childrenOf i) : ¬ t.IsUnitAt c := by
  intro unit
  have above := (linked.child_iff i c).1 child
  rw [nested.units_top c (Nat.zero_lt_of_lt (childrenOf_gt child).1) unit] at above
  cases above
  omega

/-- Around a unit there is the root alone. -/
theorem ancestors_unit (nested : t.WellNested) (positive : 0 < u) (unit : t.IsUnitAt u) :
    t.ancestors u = [0] := by
  rw [ancestors_of_parentOf (nested.units_top u positive unit), ancestors_root]

/-- The parent of a scope is a scope, unless it is the root or a unit. -/
theorem scope_parent (nested : t.WellNested) (scope : t.IsScopeOf pc j)
    (parent : t.parentOf j = some i) (positive : 0 < i) (inner : ¬ t.IsUnitAt i) :
    t.IsScopeOf pc i := by
  obtain ⟨e, there, -⟩ := scope.2
  obtain ⟨f, found⟩ := exists_get? (Nat.lt_trans (parentOf_lt parent) (lt_size_of_get? there))
  rw [isUnitAt_iff found] at inner
  exact (isScopeOf_iff found positive).2
    ⟨inner, nested.within pc j i scope parent positive f found (.inl inner)⟩

/-- Whatever is around a scope is a scope, but for the root and units. -/
theorem scope_around (nested : t.WellNested) (scope : t.IsScopeOf pc j)
    (around : i ∈ t.ancestors j) (positive : 0 < i) (inner : ¬ t.IsUnitAt i) :
    t.IsScopeOf pc i := by
  fun_induction t.ancestors j with
  | case1 j p parent ih =>
    by_cases top : p = 0
    · subst top
      rw [ancestors_root, List.mem_singleton] at around
      omega
    · by_cases unit : t.IsUnitAt p
      · rw [nested.ancestors_unit (Nat.pos_of_ne_zero top) unit] at around
        rcases List.mem_cons.1 around with rfl | root
        · exact absurd unit inner
        · rw [List.mem_singleton] at root
          omega
      · have above := nested.scope_parent scope parent (Nat.pos_of_ne_zero top) unit
        rcases List.mem_cons.1 around with rfl | further
        · exact above
        · exact ih above further
  | case2 => cases around

/-- No scope is at or below an entry that is neither a unit nor a scope. -/
theorem filter_preorder_of_not_scope (nested : t.WellNested) (linked : t.Linked) (positive : 0 < i)
    (inner : ¬ t.IsUnitAt i) (other : ¬ t.IsScopeOf pc i) :
    (t.preorder i).filter (fun j => t.IsScopeOf pc j) = [] := by
  rw [List.filter_eq_nil_iff, preorder_eq]
  intro j mem scope
  have scope := of_decide_eq_true scope
  rcases List.mem_cons.1 mem with rfl | below
  · exact other scope
  · exact other (nested.scope_around scope (mem_ancestors_of_mem_below linked below) positive
      inner)

end WellNested

/-! ### The chain of scopes -/

/-- If at most one member of a row leads to something, what all of them lead to is what the first
one does. -/
theorem flatMap_elim_of_unique {α β γ : Type} {f : α → Option β} {g : β → List γ} {xs : List α}
    (once : xs.Nodup)
    (unique : ∀ a ∈ xs, ∀ b ∈ xs, (f a).isSome → (f b).isSome → a = b) :
    (xs.flatMap fun a => (f a).elim [] g) = (xs.findSome? f).elim [] g := by
  induction xs with
  | nil => rfl
  | cons x xs ih =>
    obtain ⟨first, once⟩ := List.nodup_cons.1 once
    rw [List.flatMap_cons, List.findSome?_cons]
    cases found : f x with
    | none =>
      exact ih once fun a inside b inside' =>
        unique a (List.mem_cons_of_mem _ inside) b (List.mem_cons_of_mem _ inside')
    | some b =>
      have others : (xs.flatMap fun a => (f a).elim [] g) = [] := by
        rw [List.flatMap_eq_nil_iff]
        intro a inside
        cases leads : f a with
        | none => rfl
        | some b' =>
          have same := unique x List.mem_cons_self a (List.mem_cons_of_mem _ inside)
            (by rw [found]; rfl) (by rw [leads]; rfl)
          exact absurd (same ▸ inside) first
      rw [others, List.append_nil]

theorem scopesFrom_eq (t : ScopeTree) (pc : Int) (i : Nat) :
    t.scopesFrom pc i =
      i :: ((t.childrenOf i).find? fun c => t.contains c pc).elim [] (t.scopesFrom pc) := by
  rw [scopesFrom]
  split
  · next none => rw [none]; rfl
  · next c found => rw [found]; rfl

theorem contains_iff (inner : ¬ t.IsUnitAt i) (positive : 0 < i) :
    t.contains i pc ↔ t.IsScopeOf pc i := by
  unfold contains
  cases found : t.get? i with
  | none => simp [IsScopeOf, found]
  | some e =>
    rw [isUnitAt_iff found] at inner
    rw [isScopeOf_iff found positive]
    exact Entry.covers_iff.trans (and_iff_right inner).symm

/-- All scopes below an entry other than the root start with the first child that is one. -/
theorem WellNested.filter_below (nested : t.WellNested) (linked : t.Linked) (positive : 0 < i)
    (chains : ∀ c ∈ t.childrenOf i, t.IsScopeOf pc c →
      (t.preorder c).filter (fun j => t.IsScopeOf pc j) = t.scopesFrom pc c) :
    ((t.childrenOf i).flatMap t.preorder).filter (fun j => t.IsScopeOf pc j) =
      ((t.childrenOf i).find? fun c => t.IsScopeOf pc c).elim [] (t.scopesFrom pc) := by
  have child : ∀ c ∈ t.childrenOf i, (t.preorder c).filter (fun j => t.IsScopeOf pc j) =
      (Option.guard (fun c => t.IsScopeOf pc c) c).elim [] (t.scopesFrom pc) := by
    intro c child
    by_cases leads : t.IsScopeOf pc c
    · rw [Option.guard, if_pos (decide_eq_true leads)]
      exact chains c child leads
    · rw [Option.guard, if_neg (by simpa using leads)]
      exact nested.filter_preorder_of_not_scope linked (Nat.zero_lt_of_lt (childrenOf_gt child).1)
        (nested.inner_child linked positive child) leads
  have unique : ∀ a ∈ t.childrenOf i, ∀ b ∈ t.childrenOf i,
      (Option.guard (fun c => t.IsScopeOf pc c) a).isSome →
      (Option.guard (fun c => t.IsScopeOf pc c) b).isSome → a = b := by
    intro a first b second here there
    rw [Option.isSome_guard, decide_eq_true_iff] at here there
    exact nested.siblings pc a b here there
      (((linked.child_iff i a).1 first).trans ((linked.child_iff i b).1 second).symm)
  rw [List.filter_flatMap, List.flatMap_congr child,
    flatMap_elim_of_unique (linked.once i) unique, ← List.find?_eq_findSome?_guard]

/-- All scopes at or below one of them are the chain of scopes that starts with it. -/
theorem WellNested.filter_preorder_of_scope (nested : t.WellNested) (linked : t.Linked)
    (scope : t.IsScopeOf pc i) :
    (t.preorder i).filter (fun j => t.IsScopeOf pc j) = t.scopesFrom pc i := by
  induction h : t.entries.size - i using Nat.strongRecOn generalizing i with
  | ind n ih =>
    subst h
    have positive := scope.1
    have contained : ((t.childrenOf i).find? fun c => t.contains c pc) =
        (t.childrenOf i).find? fun c => t.IsScopeOf pc c := by
      refine List.find?_congr fun c child => ?_
      rw [Bool.eq_iff_iff, decide_eq_true_iff]
      exact contains_iff (nested.inner_child linked positive child)
        (Nat.zero_lt_of_lt (childrenOf_gt child).1)
    rw [preorder_eq, List.filter_cons_of_pos (by simpa using scope), scopesFrom_eq, contained,
      nested.filter_below linked positive]
    intro c child leads
    have place := childrenOf_gt child
    exact ih _ (by omega) leads rfl

/-! ### The top of a tree -/

/-- A search that comes to an entry other than the root and units takes it if it is a scope. -/
theorem findFrom_inner (linked : t.Linked) (positive : 0 < i) (inner : ¬ t.IsUnitAt i)
    (inside : i < t.entries.size) :
    t.findFrom pc i = Option.guard (fun j => t.IsScopeOf pc j) i := by
  obtain ⟨e, found⟩ := exists_get? inside
  rw [isUnitAt_iff found] at inner
  have leaf : ¬ (i = 0 ∨ e.tag = some Dwarf.Tag.compileUnit) := not_or.2 ⟨by omega, inner⟩
  have scope : t.IsScopeOf pc i ↔ e.Holds pc :=
    (isScopeOf_iff found positive).trans (and_iff_right inner)
  rw [findFrom_of_get? linked found, if_neg leaf, Option.guard]
  simp only [scope, decide_eq_true_iff]

/-- What a search finds directly below the root starts all scopes there. -/
theorem WellNested.filter_preorder_top (nested : t.WellNested) (linked : t.Linked)
    (top : u ∈ t.units) :
    (t.preorder u).filter (fun j => t.IsScopeOf pc j) =
      (t.findFrom pc u).elim [] (t.scopesFrom pc) := by
  obtain ⟨positive, inside⟩ := childrenOf_gt top
  by_cases unit : t.IsUnitAt u
  · obtain ⟨e, found⟩ := exists_get? inside
    have tagged := (isUnitAt_iff found).1 unit
    have own : ¬ t.IsScopeOf pc u := fun scope => ((isScopeOf_iff found positive).1 scope).1 tagged
    have below : ∀ c ∈ t.childrenOf u,
        t.findFrom pc c = Option.guard (fun j => t.IsScopeOf pc j) c := fun c child =>
      findFrom_inner linked (by have := childrenOf_gt child; omega)
        (nested.inner_child linked positive child) (childrenOf_gt child).2
    rw [preorder_eq, List.filter_cons_of_neg (by simpa using own),
      nested.filter_below linked positive fun c _ scope =>
        nested.filter_preorder_of_scope linked scope,
      findFrom_of_get? linked found, if_pos (.inr tagged)]
    by_cases further : e.ranges = [] ∨ e.Holds pc
    · rw [if_pos further, findSome?_congr below, List.find?_eq_findSome?_guard]
    · -- A scope in a unit with ranges would be in one of these.
      have none : ((t.childrenOf u).find? fun c => t.IsScopeOf pc c) = none := by
        rw [List.find?_eq_none]
        intro c child scope
        refine further (.inr (nested.within pc c u (of_decide_eq_true scope)
          ((linked.child_iff u c).1 child) positive e found (.inr fun bare => ?_)))
        exact further (.inl bare)
      rw [if_neg further, none]
  · rw [findFrom_inner linked positive unit inside]
    by_cases scope : t.IsScopeOf pc u
    · rw [nested.filter_preorder_of_scope linked scope, Option.guard,
        if_pos (decide_eq_true scope)]
      rfl
    · rw [nested.filter_preorder_of_not_scope linked positive unit scope, Option.guard,
        if_neg (by simpa using scope)]
      rfl

/-- What a search finds directly below the root is an outermost scope, and is the entry at which the
search began or a child of it. -/
theorem WellNested.findFrom_top (nested : t.WellNested) (linked : t.Linked) (top : u ∈ t.units)
    (found : t.findFrom pc u = some m) :
    t.IsScopeOf pc m ∧ t.IsOutermost m ∧ (m = u ∨ t.parentOf m = some u) := by
  obtain ⟨positive, inside⟩ := childrenOf_gt top
  have above : t.parentOf u = some 0 := (linked.child_iff 0 u).1 top
  obtain ⟨e, there⟩ := exists_get? inside
  by_cases unit : t.IsUnitAt u
  · rw [findFrom_of_get? linked there, if_pos (.inr ((isUnitAt_iff there).1 unit))] at found
    split at found
    · obtain ⟨c, child, found⟩ := List.exists_of_findSome?_eq_some found
      have place := childrenOf_gt child
      rw [findFrom_inner linked (by omega) (nested.inner_child linked positive child) place.2,
        Option.guard_eq_some_iff] at found
      obtain ⟨rfl, scope⟩ := found
      have below := (linked.child_iff u c).1 child
      exact ⟨of_decide_eq_true scope, ⟨u, below, .inr unit⟩, .inr below⟩
    · cases found
  · rw [findFrom_inner linked positive unit inside, Option.guard_eq_some_iff] at found
    obtain ⟨rfl, scope⟩ := found
    exact ⟨of_decide_eq_true scope, ⟨0, above, .inl rfl⟩, .inl rfl⟩

/-- No search finds something below the root in two places. -/
theorem WellNested.findFrom_top_unique (nested : t.WellNested) (linked : t.Linked) {v : Nat}
    (first : u ∈ t.units) (second : v ∈ t.units) (here : (t.findFrom pc u).isSome)
    (there : (t.findFrom pc v).isSome) : u = v := by
  obtain ⟨m, here⟩ := Option.isSome_iff_exists.1 here
  obtain ⟨n, there⟩ := Option.isSome_iff_exists.1 there
  obtain ⟨scope, outer, from_u⟩ := nested.findFrom_top linked first here
  obtain ⟨scope', outer', from_v⟩ := nested.findFrom_top linked second there
  obtain rfl := nested.outermost pc m n scope scope' outer outer'
  have above_u : t.parentOf u = some 0 := (linked.child_iff 0 u).1 first
  have above_v : t.parentOf v = some 0 := (linked.child_iff 0 v).1 second
  have positive_u := (childrenOf_gt first).1
  have positive_v := (childrenOf_gt second).1
  rcases from_u with rfl | below_u <;> rcases from_v with rfl | below_v
  · rfl
  · rw [above_u] at below_v
    cases below_v
    omega
  · rw [above_v] at below_u
    cases below_u
    omega
  · rw [below_u] at below_v
    exact Option.some.inj below_v

/-- In a tree whose ranges are nested like its entries, the scopes of a program counter are all
entries but units that hold it, in the order of the listing. -/
theorem scopes_eq_filter_listing (made : t.Made) (nested : t.WellNested) (pc : Int) :
    t.scopes pc = t.listing.filter fun i => t.IsScopeOf pc i := by
  have linked := made.linked
  obtain ⟨e, found⟩ := exists_get? t.rooted
  have searched : t.find pc = t.units.findSome? (t.findFrom pc) := by
    rw [find, findFrom_of_get? linked found, if_pos (.inl rfl), if_pos (.inl (nested.bare e found)),
      units]
  have chain : t.scopes pc = (t.find pc).elim [] (t.scopesFrom pc) := by
    unfold scopes
    cases t.find pc <;> rfl
  have once : t.units.Nodup := linked.once 0
  have unique : ∀ u ∈ t.units, ∀ v ∈ t.units, (t.findFrom pc u).isSome → (t.findFrom pc v).isSome →
      u = v := fun u first v second => nested.findFrom_top_unique linked first second
  rw [chain, searched, listing, List.filter_flatMap,
    List.flatMap_congr fun u top => nested.filter_preorder_top linked top,
    flatMap_elim_of_unique once unique]

/-- A unit with two methods, the first of which has a block in it, and a unit without ranges that
has one. -/
def nestedScopes : ScopeTree :=
  let unit (ranges : List CodeRange) : Description :=
    ⟨some Dwarf.Tag.compileUnit, none, ranges, none⟩
  let scope (low high : Int) : Description := ⟨some 0x2e, none, [⟨low, some high⟩], none⟩
  empty
    |>.add 0 ⟨11, 0, 1⟩ (unit [⟨8, some 24⟩])
    |>.add 1 ⟨12, 0, 2⟩ (scope 8 16)
    |>.add 2 ⟨13, 0, 2⟩ (scope 10 12)
    |>.add 1 ⟨14, 0, 2⟩ (scope 16 24)
    |>.add 0 ⟨31, 20, 1⟩ (unit [])
    |>.add 5 ⟨32, 20, 2⟩ (scope 32 40)

/-- What `nestedScopes` says of each entry: its parent, its tag and its ranges. -/
theorem get?_nestedScopes :
    ∀ i < nestedScopes.entries.size, ∀ e ∈ nestedScopes.get? i,
      (i, e.parent, e.tag, e.ranges) ∈
        [(0, none, none, []), (1, some 0, some 0x11, [⟨8, some 24⟩]),
          (2, some 1, some 0x2e, [⟨8, some 16⟩]), (3, some 2, some 0x2e, [⟨10, some 12⟩]),
          (4, some 1, some 0x2e, [⟨16, some 24⟩]), (5, some 0, some 0x11, []),
          (6, some 5, some 0x2e, [⟨32, some 40⟩])] := by
  decide +kernel

/-- The scopes of `nestedScopes` with their parents. -/
theorem scope_nestedScopes {pc : Int} {i : Nat} (scope : nestedScopes.IsScopeOf pc i) :
    ∃ p, nestedScopes.parentOf i = some p ∧
      ((i = 2 ∧ p = 1 ∧ 8 ≤ pc ∧ pc < 16) ∨ (i = 3 ∧ p = 2 ∧ 10 ≤ pc ∧ pc < 12) ∨
        (i = 4 ∧ p = 1 ∧ 16 ≤ pc ∧ pc < 24) ∨ (i = 6 ∧ p = 5 ∧ 32 ≤ pc ∧ pc < 40)) := by
  obtain ⟨positive, e, found, inner, holds⟩ := scope
  have row := get?_nestedScopes _ (lt_size_of_get? found) _ found
  have above : nestedScopes.parentOf i = e.parent := by rw [parentOf_eq, found]; rfl
  rw [above]
  simp only [List.mem_cons, Prod.mk.injEq, List.not_mem_nil, or_false] at row
  rcases row with ⟨rfl, parent, tag, ranges⟩ | ⟨rfl, parent, tag, ranges⟩ |
    ⟨rfl, parent, tag, ranges⟩ | ⟨rfl, parent, tag, ranges⟩ | ⟨rfl, parent, tag, ranges⟩ |
    ⟨rfl, parent, tag, ranges⟩ | ⟨rfl, parent, tag, ranges⟩
  all_goals simp [Entry.Holds, parent, ranges, tag, Dwarf.Tag.compileUnit] at inner holds positive ⊢
  all_goals exact holds

/-- The ranges of `nestedScopes` are nested like its entries. -/
theorem wellNested_nestedScopes : nestedScopes.WellNested := by
  refine ⟨by decide +kernel, fun i positive unit => ?_, fun pc i j first second same => ?_,
    fun pc i j first second outer outer' => ?_,
    fun pc i p scope parent positive e found limited => ?_⟩
  · obtain ⟨e, found, tag⟩ := unit
    have row := get?_nestedScopes _ (lt_size_of_get? found) _ found
    rw [parentOf_eq, found]
    simp only [tag, Dwarf.Tag.compileUnit, List.mem_cons, Prod.mk.injEq, List.not_mem_nil] at row
    simp at row ⊢
    rcases row with ⟨-, parent, -⟩ | ⟨-, parent, -⟩ <;> exact parent
  · obtain ⟨p, above, first⟩ := scope_nestedScopes first
    obtain ⟨q, above', second⟩ := scope_nestedScopes second
    rw [above, above', Option.some.injEq] at same
    omega
  · have block {i p : Nat} (above : nestedScopes.parentOf i = some p)
        (outer : nestedScopes.IsOutermost i) : p ≠ 2 := by
      rintro rfl
      obtain ⟨q, above', zero | ⟨e, found, tag⟩⟩ := outer
      all_goals obtain rfl := Option.some.inj (above.symm.trans above')
      · cases zero
      · have row := get?_nestedScopes _ (lt_size_of_get? found) _ found
        simp [tag, Dwarf.Tag.compileUnit] at row
    obtain ⟨p, above, first⟩ := scope_nestedScopes first
    obtain ⟨q, above', second⟩ := scope_nestedScopes second
    have := block above outer
    have := block above' outer'
    omega
  · obtain ⟨q, above, first⟩ := scope_nestedScopes scope
    obtain rfl := Option.some.inj (above.symm.trans parent)
    have row := get?_nestedScopes _ (lt_size_of_get? found) _ found
    simp only [List.mem_cons, Prod.mk.injEq, List.not_mem_nil, or_false] at row
    rcases first with ⟨rfl, rfl, inside⟩ | ⟨rfl, rfl, inside⟩ | ⟨rfl, rfl, inside⟩ |
      ⟨rfl, rfl, inside⟩
    all_goals simp [Dwarf.Tag.compileUnit] at row limited
    · simp [Entry.Holds, row]
      omega
    · simp [Entry.Holds, row]
      omega
    · simp [Entry.Holds, row]
      omega
    · simp [row] at limited

/-- The program counter in the block of the first method has that method and that block for its
scopes. -/
theorem scopes_eq_filter_listing_nested :
    nestedScopes.Made ∧ nestedScopes.WellNested ∧
      nestedScopes.scopes 11 = (nestedScopes.listing.filter fun i => nestedScopes.IsScopeOf 11 i) ∧
        nestedScopes.scopes 11 = [2, 3] := by
  have made : nestedScopes.Made := by
    refine .add _ _ (.add _ _ (.add _ _ (.add _ _ (.add _ _ (.add _ _ .empty ?_) ?_) ?_) ?_) ?_) ?_
    all_goals decide +kernel
  exact ⟨made, wellNested_nestedScopes, scopes_eq_filter_listing made wellNested_nestedScopes 11,
    by decide +kernel⟩

end DebugScopes.ScopeTree
