import DebugScopes.Image.SymbolTable
import DebugScopes.Value.Printer

/-!
# Items

An item of the data segment as it is described in a file: address and size are values, whatever they
hold. A file that was written by the program has integers there; a snapshot that somebody has edited
may have anything.
-/

namespace DebugScopes

/-- The description of an item: where it starts, and how wide it was declared. -/
structure Item where
  addr : Value
  size : Value

namespace Item

/-- The item of a descriptor. -/
def ofDescriptor (d : Descriptor) : Item := ⟨.int d.addr, .int d.size⟩

end Item

/-- The items of a table. -/
def SymbolTable.items (t : SymbolTable) : Slots Item := t.slots.map .ofDescriptor

end DebugScopes
