import DebugScopes.Failure.Trail

/-!
# Slots

A table of descriptors is asked two things: which slot an address has, and what stands in a slot.
`Slots` is a table as far as it can answer them, whatever its rows are.

* `Slots.slotOf` and `Slots.inSlot` ask for something that has to be there;
* `Slots.map` changes the rows; `inSlot_map` and `slotOf_map` say that it changes nothing else.
-/

namespace DebugScopes

/-- A table: the number of its slots, the slot of an address, and the row in a slot. -/
structure Slots (α : Type) where
  count : Nat
  slot? : Int → Option Nat
  row? : Nat → Option α

namespace Slots

variable {α β : Type}

/-- The slot of an address, which has to have a row. -/
def slotOf (t : Slots α) (addr : Int) : Except Damage Nat :=
  match t.slot? addr with
  | some slot => .ok slot
  | none => .error (.noDescriptorAt addr)

/-- The row in a slot, which has to be one of the table's. -/
def inSlot (t : Slots α) (slot : Int) : Except Damage α :=
  if slot < 0 then .error (.noSlot slot t.count)
  else
    match t.row? slot.toNat with
    | some row => .ok row
    | none => .error (.noSlot slot t.count)

/-- The table with its rows changed. -/
def map (f : α → β) (t : Slots α) : Slots β := ⟨t.count, t.slot?, fun slot => (t.row? slot).map f⟩

theorem slotOf_map (f : α → β) (t : Slots α) (addr : Int) : (t.map f).slotOf addr = t.slotOf addr :=
  rfl

theorem inSlot_map (f : α → β) (t : Slots α) (slot : Int) :
    (t.map f).inSlot slot = (t.inSlot slot).map f := by
  unfold inSlot map
  split
  · rfl
  · cases found : t.row? slot.toNat <;> simp [found, Except.map]

end Slots

end DebugScopes
