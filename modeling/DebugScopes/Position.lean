/-!
# Positions in a row

The items of a row are counted from zero. A negative number counts from the end: `-1` is the last
item. `position?` is the index that is meant, and `position?_eq_some_iff` says which one that is.
-/

namespace DebugScopes

/-- The index that a number means in a row of `size` items, if it means one. -/
def position? (size : Nat) (i : Int) : Option Nat :=
  let index := if i < 0 then i + size else i
  if 0 ≤ index ∧ index < size then some index.toNat else none

theorem position?_eq_some_iff {size index : Nat} {i : Int} :
    position? size i = some index ↔ index < size ∧ (i = index ∨ i = index - size) := by
  simp only [position?]
  split <;> split <;> simp <;> omega

/-- The index of an item means that item. -/
theorem position?_natCast {size index : Nat} (inside : index < size) :
    position? size index = some index :=
  position?_eq_some_iff.2 ⟨inside, .inl rfl⟩

end DebugScopes
