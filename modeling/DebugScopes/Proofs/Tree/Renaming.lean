import DebugScopes.Decode.References
import DebugScopes.Proofs.Tree.Growth

/-!
# Trees that differ in names alone

Following the references of a tree gives entries other names, and changes nothing else: neither
where they stand, nor where they were read, nor their tags and ranges.

* `ScopeTree.Renamed`: two trees differ in names alone, and so have the same parents, children,
  listing and addresses;
* `ScopeTree.renamed_complete`: completing a tree only renames entries.
-/

namespace DebugScopes.ScopeTree

variable {t t' : ScopeTree}

/-- The entry under another name. -/
def named (name : Option String) (e : Entry) : Entry := { e with name := name }

/-- Two trees differ in names alone. -/
structure Renamed (t t' : ScopeTree) : Prop where
  size : t'.entries.size = t.entries.size
  get? : ∀ i, ∃ name, t'.get? i = (t.get? i).map (named name)

theorem Renamed.refl (t : ScopeTree) : Renamed t t := by
  refine ⟨rfl, fun i => ?_⟩
  cases found : t.get? i with
  | none => exact ⟨none, rfl⟩
  | some e => exact ⟨e.name, rfl⟩

theorem Renamed.trans {t₁ : ScopeTree} (first : Renamed t t₁) (second : Renamed t₁ t') :
    Renamed t t' := by
  refine ⟨second.size.trans first.size, fun i => ?_⟩
  obtain ⟨name, found⟩ := first.get? i
  obtain ⟨other, renamed⟩ := second.get? i
  refine ⟨other, ?_⟩
  rw [renamed, found]
  cases t.get? i <;> rfl

namespace Renamed

theorem childrenOf (renamed : Renamed t t') (i : Nat) : t'.childrenOf i = t.childrenOf i := by
  obtain ⟨name, found⟩ := renamed.get? i
  rw [childrenOf_eq, childrenOf_eq, found]
  cases t.get? i <;> rfl

theorem parentOf (renamed : Renamed t t') (i : Nat) : t'.parentOf i = t.parentOf i := by
  obtain ⟨name, found⟩ := renamed.get? i
  rw [parentOf_eq, parentOf_eq, found]
  cases t.get? i <;> rfl

theorem units (renamed : Renamed t t') : t'.units = t.units := renamed.childrenOf 0

theorem listing (renamed : Renamed t t') : t'.listing = t.listing := by
  rw [ScopeTree.listing, ScopeTree.listing, renamed.units]
  apply List.flatMap_congr
  intro c mem
  exact preorder_congr (childrenOf_gt mem).2 fun j _ _ => renamed.childrenOf j

/-- An entry of the renamed tree was there before, under some name. -/
theorem get?_inv (renamed : Renamed t t') {i : Nat} {e : Entry} (found : t'.get? i = some e) :
    ∃ old, t.get? i = some old ∧ e = named e.name old := by
  obtain ⟨name, same⟩ := renamed.get? i
  rw [found] at same
  obtain ⟨old, there, rfl⟩ := Option.map_eq_some_iff.1 same.symm
  exact ⟨old, there, rfl⟩

theorem placeOf (renamed : Renamed t t') (i : Nat) : t'.placeOf i = t.placeOf i := by
  obtain ⟨name, found⟩ := renamed.get? i
  rw [ScopeTree.placeOf, ScopeTree.placeOf, found]
  cases t.get? i <;> rfl

theorem linked (renamed : Renamed t t') (linked : Linked t) : Linked t' := by
  refine ⟨fun i c => ?_, fun i => ?_, fun i inside => ?_⟩
  · rw [renamed.childrenOf, renamed.parentOf, linked.child_iff]
  · rw [renamed.childrenOf]
    exact linked.once i
  · rw [renamed.parentOf]
    exact linked.root_iff i (renamed.size ▸ inside)

end Renamed

/-! ### Completing a tree -/

theorem renamed_startingAt (t : ScopeTree) (i : Nat) : Renamed t (t.startingAt i) :=
  ⟨rfl, (Renamed.refl t).get?⟩

theorem get?_update (t : ScopeTree) (i j : Nat) (f : Description → Description) :
    (t.update i f).get? j = if i = j then (t.get? j).map (redescribed f) else t.get? j := by
  unfold get? update
  rw [Array.getElem?_modify]

theorem renamed_update (t : ScopeTree) (i : Nat) (name : Option String) :
    Renamed t (t.update i fun d => { d with name := name }) := by
  refine ⟨Array.size_modify, fun j => ?_⟩
  rw [get?_update]
  split
  · exact ⟨name, rfl⟩
  · exact (Renamed.refl t).get? j

theorem renamed_completeOne (t : ScopeTree) (i : Nat) : Renamed t (t.completeOne i).1 := by
  unfold completeOne
  split
  · exact .refl t
  · split
    · exact .refl t
    · exact renamed_update ..

theorem renamed_completeIn (t : ScopeTree) (entries : List Nat) :
    Renamed t (t.completeIn entries).1 := by
  induction entries generalizing t with
  | nil => exact .refl t
  | cons i rest ih => exact (renamed_completeOne t i).trans (ih _)

/-- Completing a tree only renames entries. -/
theorem renamed_complete (t : ScopeTree) : Renamed t t.complete.1 := renamed_completeIn t _

end DebugScopes.ScopeTree
