import DebugScopes.Proofs.Tree.Renaming

/-!
# Names handed on along references

Entries that complete others take their names, one entry after the other in the order of the
listing. So an entry that refers back takes the name that the other one has in the end, an entry
that refers to itself or further on takes the name that the other one had at first, and nothing but
names changes.

* `ScopeTree.Completed`: one tree is another with the names handed on;
* `ScopeTree.nameOf_completeIn`: the name that an entry has when a row of entries is completed;
* `ScopeTree.completed_complete`: completing a tree hands the names on.
-/

namespace DebugScopes.ScopeTree

variable {t t' : ScopeTree} {i j : Nat}

/-- The address of the entry that an entry completes. -/
def targetOf (t : ScopeTree) (i : Nat) : Option Int := (t.get? i).bind (·.target)

/-- One tree is another with the names handed on. The trees differ in names alone. An entry that
completes none of those listed keeps its name. An entry that completes another takes its name: the
final one if the other is listed before it, and else the one that the other had at first. -/
structure Completed (t t' : ScopeTree) : Prop where
  renamed : Renamed t t'
  listed : t'.listing = t.listing
  kept : ∀ i ∈ t.listing, (∀ target ∈ t.targetOf i, ∀ j ∈ t.listing, t.addrOf j ≠ some target) →
    t'.nameOf i = t.nameOf i
  taken : ∀ {k l i j : Nat} {target : Int}, t.listing[k]? = some i → t.listing[l]? = some j →
    t.targetOf i = some target → t.addrOf j = some target →
      t'.nameOf i = if l < k then t'.nameOf j else t.nameOf j

/-! ### Where references lead -/

/-- The entry whose name an entry takes. -/
def sourceOf (t : ScopeTree) (i : Nat) : Option Nat :=
  (t.referenceOf i).bind fun reference => t.entryAt? reference.2

theorem referenceOf_eq (t : ScopeTree) (i : Nat) :
    t.referenceOf i = (t.addrOf i).bind fun addr => (t.targetOf i).map fun target =>
      (addr, target) := by
  unfold referenceOf addrOf targetOf
  cases t.get? i with
  | none => rfl
  | some e =>
    show (e.addr?.bind fun addr => e.target.bind fun target => some (addr, target)) =
      e.addr?.bind fun addr => e.target.map fun target => (addr, target)
    cases e.addr? with
    | none => rfl
    | some addr => cases e.target <;> rfl

namespace Renamed

theorem addrOf (renamed : Renamed t t') (i : Nat) : t'.addrOf i = t.addrOf i := by
  obtain ⟨name, found⟩ := renamed.get? i
  rw [ScopeTree.addrOf, ScopeTree.addrOf, found]
  cases t.get? i <;> rfl

theorem targetOf (renamed : Renamed t t') (i : Nat) : t'.targetOf i = t.targetOf i := by
  obtain ⟨name, found⟩ := renamed.get? i
  rw [ScopeTree.targetOf, ScopeTree.targetOf, found]
  cases t.get? i <;> rfl

theorem entryAt? (renamed : Renamed t t') (addr : Int) : t'.entryAt? addr = t.entryAt? addr :=
  entryAt?_congr renamed.addrOf addr

theorem sourceOf (renamed : Renamed t t') (i : Nat) : t'.sourceOf i = t.sourceOf i := by
  unfold ScopeTree.sourceOf
  rw [referenceOf_eq, referenceOf_eq, renamed.addrOf, renamed.targetOf]
  simp only [renamed.entryAt?]

end Renamed

/-! ### Completing a row of entries -/

theorem completeOne_eq (t : ScopeTree) (i : Nat) :
    (t.completeOne i).1 =
      (t.sourceOf i).elim t fun j => t.update i fun d => { d with name := t.nameOf j } := by
  unfold completeOne sourceOf
  cases t.referenceOf i with
  | none => rfl
  | some reference =>
    obtain ⟨addr, target⟩ := reference
    simp only [Option.bind_some]
    cases t.entryAt? target <;> rfl

theorem nameOf_update (t : ScopeTree) (name : Option String) {i : Nat} {e : Entry}
    (found : t.get? i = some e) (j : Nat) :
    (t.update i fun d => { d with name := name }).nameOf j =
      if j = i then name else t.nameOf j := by
  rw [nameOf, get?_update]
  by_cases same : i = j
  · rw [if_pos same, if_pos same.symm, ← same, found]
    rfl
  · rw [if_neg same, if_neg (Ne.symm same)]
    rfl

/-- Completing an entry gives it the name of the one that it completes, and no other a new name. -/
theorem nameOf_completeOne (t : ScopeTree) (i j : Nat) :
    (t.completeOne i).1.nameOf j =
      if j = i then (t.sourceOf i).elim (t.nameOf i) t.nameOf else t.nameOf j := by
  rw [completeOne_eq]
  cases source : t.sourceOf i with
  | none =>
    by_cases same : j = i
    · rw [if_pos same, same]
      rfl
    · rw [if_neg same]
      rfl
  | some k =>
    obtain ⟨e, found⟩ : ∃ e, t.get? i = some e := by
      cases found : t.get? i with
      | none =>
        rw [sourceOf, referenceOf, found] at source
        cases source
      | some e => exact ⟨e, rfl⟩
    exact nameOf_update t (t.nameOf k) found j

theorem completeIn_append (t : ScopeTree) (before after : List Nat) :
    (t.completeIn (before ++ after)).1 = ((t.completeIn before).1.completeIn after).1 := by
  induction before generalizing t with
  | nil => rfl
  | cons i before ih => exact ih (t.completeOne i).1

/-- An entry out of the row keeps its name. -/
theorem nameOf_completeIn_of_notMem {row : List Nat} (apart : i ∉ row) :
    (t.completeIn row).1.nameOf i = t.nameOf i := by
  induction row generalizing t with
  | nil => rfl
  | cons k row ih =>
    obtain ⟨other, apart⟩ := not_or.1 (mt List.mem_cons.2 apart)
    exact (ih apart).trans ((nameOf_completeOne t k i).trans (if_neg other))

/-- The name that an entry has when a row of entries is completed: that of the entry which it
completes, as it is in the end if that one stands before it in the row, and as it was if not. -/
theorem nameOf_completeIn {before after : List Nat} (once : (before ++ i :: after).Nodup) :
    (t.completeIn (before ++ i :: after)).1.nameOf i =
      (t.sourceOf i).elim (t.nameOf i) fun j =>
        if j ∈ before then (t.completeIn (before ++ i :: after)).1.nameOf j else t.nameOf j := by
  obtain ⟨-, rest, apart⟩ := List.nodup_append.1 once
  obtain ⟨last, -⟩ := List.nodup_cons.1 rest
  have untouched : i ∉ before := fun mem => apart i mem i List.mem_cons_self rfl
  -- the name that an entry of the row before has by then is its final one
  have final : ∀ j ∈ before, (t.completeIn (before ++ i :: after)).1.nameOf j =
      (t.completeIn before).1.nameOf j := by
    intro j mem
    rw [completeIn_append]
    exact nameOf_completeIn_of_notMem fun later => apart j mem j later rfl
  have own : (t.completeIn (before ++ i :: after)).1.nameOf i =
      ((t.completeIn before).1.completeOne i).1.nameOf i := by
    rw [completeIn_append]
    exact nameOf_completeIn_of_notMem last
  rw [own, nameOf_completeOne, if_pos rfl, (renamed_completeIn t before).sourceOf]
  cases t.sourceOf i with
  | none => exact nameOf_completeIn_of_notMem untouched
  | some j =>
    show (t.completeIn before).1.nameOf j = if _ then _ else _
    split
    · next mem => exact (final j mem).symm
    · next absent => exact nameOf_completeIn_of_notMem absent

/-! ### Completing a tree -/

theorem mem_take_iff {α : Type} {xs : List α} {k l : Nat} {x : α} (once : xs.Nodup)
    (found : xs[l]? = some x) : x ∈ xs.take k ↔ l < k := by
  obtain ⟨inside, rfl⟩ := List.getElem?_eq_some_iff.1 found
  rw [List.mem_take_iff_getElem]
  constructor
  · rintro ⟨m, short, same⟩
    obtain rfl := (once.getElem_inj_iff).1 same
    omega
  · intro less
    exact ⟨l, by omega, rfl⟩

/-- Completing a tree hands the names on, if every entry has an address of its own. -/
theorem completed_complete (once : t.listing.Nodup) (placed : ∀ i ∈ t.listing, (t.addrOf i).isSome)
    (unique : ∀ {addr : Int} {i : Nat},
      t.entryAt? addr = some i ↔ i ∈ t.listing ∧ t.addrOf i = some addr) :
    Completed t t.complete.1 := by
  have source : ∀ i ∈ t.listing, t.sourceOf i = (t.targetOf i).bind t.entryAt? := by
    intro i mem
    obtain ⟨addr, there⟩ := Option.isSome_iff_exists.1 (placed i mem)
    rw [sourceOf, referenceOf_eq, there]
    cases t.targetOf i <;> rfl
  have name : ∀ {k i : Nat}, t.listing[k]? = some i →
      t.complete.1.nameOf i = (t.sourceOf i).elim (t.nameOf i) fun j =>
        if j ∈ t.listing.take k then t.complete.1.nameOf j else t.nameOf j := by
    intro k i found
    obtain ⟨inside, rfl⟩ := List.getElem?_eq_some_iff.1 found
    have parts : t.listing = t.listing.take k ++ t.listing[k] :: t.listing.drop (k + 1) := by
      rw [← List.drop_eq_getElem_cons inside, List.take_append_drop]
    have row := nameOf_completeIn (t := t) (parts ▸ once)
    rw [← parts] at row
    exact row
  have renamed := renamed_complete t
  refine ⟨renamed, renamed.listing, fun i mem absent => ?_,
    fun {k l i j target} here there refers stands => ?_⟩
  · obtain ⟨k, here⟩ := List.mem_iff_getElem?.1 mem
    rw [name here, source i mem]
    cases refers : t.targetOf i with
    | none => rfl
    | some target =>
      rw [Option.bind_some]
      cases found : t.entryAt? target with
      | none => rfl
      | some j =>
        obtain ⟨listed, stands⟩ := unique.1 found
        exact absurd stands (absent target refers j listed)
  · have found : t.entryAt? target = some j :=
      unique.2 ⟨List.mem_of_getElem? there, stands⟩
    rw [name here, source i (List.mem_of_getElem? here), refers, Option.bind_some, found]
    show (if j ∈ t.listing.take k then _ else _) = _
    simp only [mem_take_iff once there]

theorem Completed.of_startingAt {start : Nat} (completed : Completed (t.startingAt start) t') :
    Completed t t' := by
  have started := renamed_startingAt t start
  have listed : (t.startingAt start).listing = t.listing := started.listing
  obtain ⟨renamed, same, kept, taken⟩ := completed
  rw [listed] at same kept
  refine ⟨started.trans renamed, same, kept, fun here there => ?_⟩
  rw [← listed] at here there
  exact taken here there

end DebugScopes.ScopeTree
