import DebugScopes.Tree.Basic
import Mathlib

/-!
# How trees grow

A decoded tree grows from the root by `ScopeTree.add` alone, and in a certain order: an entry is
added, then everything below it, and only then its next sibling. `Grown` is growth in that order
below one entry.

* `ScopeTree.get?_add`: what adding an entry changes;
* `ScopeTree.entryAt?_eq_some_iff`: an address is looked up as the first entry that was read there;
* `ScopeTree.Linked`: parents and children know each other, which adding preserves;
* `ScopeTree.Grown.kept`: growing below an entry leaves all others as they were;
* `ScopeTree.Grown.listing_eq`: a tree that has grown from the root lists its entries in the order
  in which they were added.
-/

namespace DebugScopes.ScopeTree

variable {t t' : ScopeTree} {parent : Nat} {place : Place} {d : Description}

/-! ### Adding an entry -/

theorem entries_add (known : parent < t.entries.size) :
    (t.add parent place d).entries =
      (t.entries.modify parent (adopting t.entries.size)).push
        ⟨d, some place, some parent, #[]⟩ := by
  rw [add, dif_pos known]

@[simp] theorem size_add (known : parent < t.entries.size) :
    (t.add parent place d).entries.size = t.entries.size + 1 := by
  simp [entries_add known]

theorem get?_eq_none {i : Nat} (outside : t.entries.size ≤ i) : t.get? i = none :=
  Array.getElem?_eq_none outside

theorem lt_size_of_get? {i : Nat} {e : Entry} (found : t.get? i = some e) : i < t.entries.size :=
  (Array.getElem?_eq_some_iff.1 found).1

theorem exists_get? {i : Nat} (inside : i < t.entries.size) : ∃ e, t.get? i = some e :=
  ⟨_, Array.getElem?_eq_getElem inside⟩

/-- Adding an entry puts it at the end and into the row of its parent's children. -/
theorem get?_add (known : parent < t.entries.size) (i : Nat) :
    (t.add parent place d).get? i =
      if i = t.entries.size then some ⟨d, some place, some parent, #[]⟩
      else if i = parent then (t.get? i).map (adopting t.entries.size) else t.get? i := by
  unfold get?
  rw [entries_add known, Array.getElem?_push, Array.size_modify, Array.getElem?_modify]
  split
  · rfl
  · by_cases same : parent = i
    · rw [if_pos same, if_pos same.symm]
    · rw [if_neg same, if_neg (Ne.symm same)]

theorem get?_add_new (known : parent < t.entries.size) :
    (t.add parent place d).get? t.entries.size = some ⟨d, some place, some parent, #[]⟩ := by
  rw [get?_add known, if_pos rfl]

theorem get?_add_other (known : parent < t.entries.size) {i : Nat} (old : i < t.entries.size)
    (other : i ≠ parent) : (t.add parent place d).get? i = t.get? i := by
  rw [get?_add known, if_neg (by omega), if_neg other]

theorem childrenOf_eq (t : ScopeTree) (i : Nat) :
    t.childrenOf i = ((t.get? i).elim [] fun e => e.children.toList) := by
  unfold childrenOf get?
  cases t.entries[i]? <;> rfl

theorem parentOf_eq (t : ScopeTree) (i : Nat) : t.parentOf i = (t.get? i).bind (·.parent) := by
  unfold parentOf get?
  cases t.entries[i]? <;> rfl

/-- Only the parent of the new entry has a new child. -/
theorem childrenOf_add (known : parent < t.entries.size) (i : Nat) :
    (t.add parent place d).childrenOf i =
      if i = parent then t.childrenOf i ++ [t.entries.size] else t.childrenOf i := by
  rw [childrenOf_eq, childrenOf_eq, get?_add known]
  by_cases new : i = t.entries.size
  · rw [if_pos new, if_neg (by omega), get?_eq_none (by omega)]
    rfl
  · rw [if_neg new]
    by_cases same : i = parent
    · rw [if_pos same, if_pos same]
      cases found : t.get? i with
      | none =>
        rw [get?, Array.getElem?_eq_none_iff] at found
        omega
      | some e => simp [adopting]
    · rw [if_neg same, if_neg same]

/-- Nobody but the new entry has another parent. -/
theorem parentOf_add (known : parent < t.entries.size) (i : Nat) :
    (t.add parent place d).parentOf i =
      if i = t.entries.size then some parent else t.parentOf i := by
  rw [parentOf_eq, parentOf_eq, get?_add known]
  split
  · rfl
  · split
    · cases t.get? i <;> rfl
    · rfl

/-- Where an entry was read. -/
def placeOf (t : ScopeTree) (i : Nat) : Option Place := (t.get? i).bind (·.place)

/-- An entry of the larger tree is the new one, or was there before with perhaps a child less. -/
theorem get?_add_eq_some (known : parent < t.entries.size) {i : Nat} {e : Entry}
    (found : (t.add parent place d).get? i = some e) :
    (i = t.entries.size ∧ e = ⟨d, some place, some parent, #[]⟩) ∨
      (i ≠ parent ∧ t.get? i = some e) ∨
        (i = parent ∧ ∃ old, t.get? i = some old ∧ e = adopting t.entries.size old) := by
  rw [get?_add known] at found
  by_cases new : i = t.entries.size
  · rw [if_pos new] at found
    exact .inl ⟨new, (Option.some.inj found).symm⟩
  · rw [if_neg new] at found
    by_cases same : i = parent
    · rw [if_pos same] at found
      obtain ⟨old, there, rfl⟩ := Option.map_eq_some_iff.1 found
      exact .inr (.inr ⟨same, old, there, rfl⟩)
    · rw [if_neg same] at found
      exact .inr (.inl ⟨same, found⟩)

theorem placeOf_add (known : parent < t.entries.size) (i : Nat) :
    (t.add parent place d).placeOf i = if i = t.entries.size then some place else t.placeOf i := by
  unfold placeOf
  rw [get?_add known]
  split
  · rfl
  · split
    · cases t.get? i <;> rfl
    · rfl

/-! ### Addresses -/

/-- The address of an entry. -/
def addrOf (t : ScopeTree) (i : Nat) : Option Int := (t.get? i).bind (·.addr?)

theorem addrOf_eq (t : ScopeTree) (i : Nat) : t.addrOf i = (t.placeOf i).map (·.addr) := by
  unfold addrOf placeOf Entry.addr?
  cases t.get? i <;> rfl

/-- The entry at an address is the first that was read there. -/
theorem entryAt?_eq_some_iff {addr : Int} {i : Nat} :
    t.entryAt? addr = some i ↔ t.addrOf i = some addr ∧ ∀ j < i, t.addrOf j ≠ some addr := by
  have addrOf {j : Nat} (inside : j < t.entries.size) : t.addrOf j = t.entries[j].addr? := by
    rw [ScopeTree.addrOf, get?, Array.getElem?_eq_getElem inside]
    rfl
  unfold entryAt?
  rw [Array.findIdx?_eq_some_iff_getElem]
  constructor
  · rintro ⟨inside, here, first⟩
    refine ⟨by rw [addrOf inside]; exact eq_of_beq here, fun j before same => ?_⟩
    rw [addrOf (Nat.lt_trans before inside)] at same
    exact first j before (beq_iff_eq.2 same)
  · rintro ⟨here, first⟩
    obtain ⟨e, found, -⟩ := Option.bind_eq_some_iff.1 here
    have inside := lt_size_of_get? found
    refine ⟨inside, by rw [← addrOf inside]; exact beq_iff_eq.2 here, fun j before same => ?_⟩
    refine first j before ?_
    rw [addrOf (Nat.lt_trans before inside)]
    exact eq_of_beq same

/-- Trees whose entries were read at the same addresses give the same entries for them. -/
theorem entryAt?_congr (same : ∀ i, t'.addrOf i = t.addrOf i) (addr : Int) :
    t'.entryAt? addr = t.entryAt? addr := by
  refine Option.ext fun i => ?_
  simp only [entryAt?_eq_some_iff, same]

/-! ### Parents and children -/

/-- Parents and children know each other: an entry is once among the children of its parent, and
only the root has no parent. -/
structure Linked (t : ScopeTree) : Prop where
  child_iff : ∀ i c, c ∈ t.childrenOf i ↔ t.parentOf c = some i
  once : ∀ i, (t.childrenOf i).Nodup
  root_iff : ∀ i < t.entries.size, t.parentOf i = none ↔ i = 0

theorem linked_empty : Linked empty := by
  have alone : ∀ i, 0 < i → empty.get? i = none := fun i positive => get?_eq_none positive
  have children : ∀ i, empty.childrenOf i = [] := by
    intro i
    rw [childrenOf_eq]
    cases i with
    | zero => rfl
    | succ i => rw [alone _ (by omega)]; rfl
  have parents : ∀ i, empty.parentOf i = none := by
    intro i
    rw [parentOf_eq]
    cases i with
    | zero => rfl
    | succ i => rw [alone _ (by omega)]; rfl
  refine ⟨fun i c => ?_, fun i => ?_, fun i inside => ?_⟩
  · simp [children, parents]
  · simp [children]
  · simp [parents]
    exact Nat.lt_one_iff.1 inside

theorem Linked.add (linked : Linked t) (known : parent < t.entries.size) :
    Linked (t.add parent place d) := by
  -- the index of the new entry was nobody's child and had no parent
  have fresh : ∀ i, t.entries.size ∉ t.childrenOf i := fun i mem => by
    have := childrenOf_gt mem
    omega
  have orphan : t.parentOf t.entries.size = none := by
    rw [parentOf_eq, get?_eq_none (Nat.le_refl _)]
    rfl
  refine ⟨fun i c => ?_, fun i => ?_, fun i inside => ?_⟩
  · rw [childrenOf_add known, parentOf_add known]
    by_cases new : c = t.entries.size
    · rw [if_pos new, Option.some_inj]
      split
      · next same => simp [new, same]
      · next other =>
        exact ⟨fun mem => absurd (new ▸ mem) (fresh i), fun same => absurd same.symm other⟩
    · rw [if_neg new, ← linked.child_iff]
      split
      · simp [new]
      · rfl
  · rw [childrenOf_add known]
    split
    · refine List.nodup_append.2 ⟨linked.once i, by simp, ?_⟩
      rintro c mem _ new rfl
      rw [List.mem_singleton] at new
      exact fresh i (new ▸ mem)
    · exact linked.once i
  · rw [size_add known] at inside
    rw [parentOf_add known]
    split
    · next new =>
      have := t.rooted
      simp
      omega
    · exact linked.root_iff i (by omega)

/-! ### Growth below an entry -/

/-- A tree has grown below an entry: one child after the other was added, each with everything below
it before the next. -/
inductive Grown : Nat → ScopeTree → ScopeTree → Prop
  | refl {parent : Nat} {t : ScopeTree} : Grown parent t t
  | child {parent : Nat} {t t₁ t₂ : ScopeTree} {place : Place} {d : Description}
      (inner : Grown t.entries.size (t.add parent place d) t₁) (rest : Grown parent t₁ t₂) :
      Grown parent t t₂

theorem Grown.added {t₁ t₂ : ScopeTree} (added : t₁ = t.add parent place d)
    (inner : Grown t.entries.size t₁ t₂) (rest : Grown parent t₂ t') : Grown parent t t' := by
  subst added
  exact .child inner rest

theorem Grown.trans {t₁ : ScopeTree} (first : Grown parent t t₁) (second : Grown parent t₁ t') :
    Grown parent t t' := by
  induction first with
  | refl => exact second
  | child inner rest ihInner ihRest => exact .child inner (ihRest second)

/-- Growth below an entry changes nothing but the children of that entry, which it adds to. -/
structure Kept (parent : Nat) (t t' : ScopeTree) : Prop where
  size_le : t.entries.size ≤ t'.entries.size
  other : ∀ i, i < t.entries.size → i ≠ parent → t'.get? i = t.get? i
  parent : ∃ added, t'.get? parent =
    (t.get? parent).map fun e => { e with children := e.children ++ added }

theorem Kept.refl (parent : Nat) (t : ScopeTree) : Kept parent t t :=
  ⟨Nat.le_refl _, fun _ _ _ => rfl, #[], by simp⟩

theorem Kept.trans {t₁ t₂ : ScopeTree} (first : Kept parent t t₁) (second : Kept parent t₁ t₂) :
    Kept parent t t₂ := by
  obtain ⟨added, first_parent⟩ := first.parent
  obtain ⟨more, second_parent⟩ := second.parent
  refine ⟨Nat.le_trans first.size_le second.size_le, fun i old other => ?_, added ++ more, ?_⟩
  · rw [second.other i (Nat.lt_of_lt_of_le old first.size_le) other, first.other i old other]
  · rw [second_parent, first_parent]
    cases t.get? parent <;> simp

theorem Kept.add (known : parent < t.entries.size) : Kept parent t (t.add parent place d) := by
  refine ⟨by rw [size_add known]; omega, fun i old other => get?_add_other known old other,
    #[t.entries.size], ?_⟩
  rw [get?_add known, if_neg (by omega), if_pos rfl]
  cases t.get? parent with
  | none => rfl
  | some e => simp [adopting]

/-- Growing below an entry leaves all others as they were. -/
theorem Grown.kept (grown : Grown parent t t') (known : parent < t.entries.size) :
    Kept parent t t' := by
  induction grown with
  | refl => exact .refl _ _
  | @child parent t t₁ t₂ place d inner rest ihInner ihRest =>
    have added : Kept parent t (t.add parent place d) := .add known
    have below := ihInner (by rw [size_add known]; omega)
    -- what grows below the new entry leaves the entries before it alone
    have through : Kept parent t t₁ := by
      refine ⟨Nat.le_trans added.size_le below.size_le, fun i old other => ?_, ?_⟩
      · rw [below.other i (by rw [size_add known]; omega) (by omega), added.other i old other]
      · obtain ⟨more, found⟩ := added.parent
        exact ⟨more, by rw [below.other parent (by rw [size_add known]; omega) (by omega), found]⟩
    exact through.trans (ihRest (Nat.lt_of_lt_of_le known through.size_le))

theorem Kept.childrenOf (kept : Kept parent t t') {i : Nat} (old : i < t.entries.size)
    (other : i ≠ parent) : t'.childrenOf i = t.childrenOf i := by
  rw [childrenOf_eq, childrenOf_eq, kept.other i old other]

/-- Where an entry was read never changes, nor what it says of itself. -/
theorem Kept.get?_old (kept : Kept parent t t') {i : Nat} {e : Entry} (found : t.get? i = some e) :
    ∃ added, t'.get? i = some { e with children := e.children ++ added } := by
  by_cases same : i = parent
  · obtain ⟨added, grown⟩ := kept.parent
    exact ⟨added, by rw [same, grown, ← same, found]; rfl⟩
  · exact ⟨#[], by rw [kept.other i (lt_size_of_get? found) same, found]; simp⟩

/-! ### The order of the listing -/

/-- The entries below an entry depend on nothing but the children from it on. -/
theorem preorder_congr {i : Nat} (inside : i < t.entries.size)
    (same : ∀ j, i ≤ j → j < t.entries.size → t'.childrenOf j = t.childrenOf j) :
    t'.preorder i = t.preorder i := by
  induction h : t.entries.size - i using Nat.strongRecOn generalizing i with
  | ind n ih =>
    subst h
    rw [preorder_eq, preorder_eq t, same i (Nat.le_refl _) inside]
    congr 1
    apply List.flatMap_congr
    intro c mem
    have place := childrenOf_gt mem
    exact ih _ (by omega) place.2 (fun j above => same j (by omega)) rfl

/-- What grows below an entry is listed below it in the order in which it was added. -/
theorem Grown.preorder (grown : Grown parent t t') (known : parent < t.entries.size) :
    ∃ added, t'.childrenOf parent = t.childrenOf parent ++ added ∧
      added.flatMap t'.preorder =
        List.range' t.entries.size (t'.entries.size - t.entries.size) := by
  induction grown with
  | refl => exact ⟨[], by simp⟩
  | @child parent t t₁ t₂ place d inner rest ihInner ihRest =>
    have size : (t.add parent place d).entries.size = t.entries.size + 1 := size_add known
    have keptInner := inner.kept (by rw [size]; omega)
    have keptRest := rest.kept (Nat.lt_of_lt_of_le (by rw [size]; omega) keptInner.size_le)
    obtain ⟨below, belowChildren, belowListed⟩ := ihInner (by rw [size]; omega)
    obtain ⟨after, afterChildren, afterListed⟩ :=
      ihRest (Nat.lt_of_lt_of_le (by rw [size]; omega) keptInner.size_le)
    have sizeInner := keptInner.size_le
    have sizeRest := keptRest.size_le
    rw [size] at belowListed sizeInner
    -- the new entry had no children before anything grew below it
    have alone : (t.add parent place d).childrenOf t.entries.size = [] := by
      rw [childrenOf_eq, get?_add_new known]
      rfl
    rw [alone, List.nil_append] at belowChildren
    have first : t₂.preorder t.entries.size =
        List.range' t.entries.size (t₁.entries.size - t.entries.size) := by
      have same : t₂.preorder t.entries.size = t₁.preorder t.entries.size :=
        preorder_congr (by omega) fun j above inside => keptRest.childrenOf inside (by omega)
      rw [same, preorder_eq, belowChildren, belowListed, ← List.range'_succ]
      congr 1
      omega
    refine ⟨t.entries.size :: after, ?_, ?_⟩
    · rw [afterChildren, keptInner.childrenOf (by rw [size]; omega) (by omega),
        childrenOf_add known, if_pos rfl, List.append_assoc]
      rfl
    · rw [List.flatMap_cons, first, afterListed]
      have joined : t₁.entries.size =
          t.entries.size + 1 * (t₁.entries.size - t.entries.size) := by omega
      conv_lhs => rw [joined]
      rw [show t.entries.size + 1 * (t₁.entries.size - t.entries.size) - t.entries.size =
        t₁.entries.size - t.entries.size by omega, List.range'_append]
      congr 1
      omega

/-- A tree that has grown from the root lists its entries in the order in which they were added. -/
theorem Grown.listing_eq (grown : Grown 0 empty t) : t.listing = List.range' 1 t.size := by
  obtain ⟨added, children, listed⟩ := grown.preorder (by exact empty.rooted)
  have root : empty.childrenOf 0 = [] := rfl
  rw [root, List.nil_append] at children
  rw [listing, units, children, listed]
  rfl

end DebugScopes.ScopeTree
