import DebugScopes.Abbreviation.Index

/-!
# Reading a table aside

A table is scanned from the position of a reader, and its declarations are read by any reader of the
data. Both work on a position of their own, and leave the reader where it is, whatever comes of it.

* `Index.scanHere` makes the index of the table at the position;
* `Index.declareHere` gives a declaration, wherever the position is.
-/

namespace DebugScopes

/-- What is found out with a position of its own, which may start at the one at hand. -/
def Segment.aside {α : Type} (elsewhere : Int → Except Failure α) : Read α := fun pos =>
  match elsewhere pos with
  | .ok a => .ok a pos
  | .error e => .error e pos

namespace Abbreviation.Index

/-- The index of the table at the position. -/
def scanHere (s : Segment) : Read Index := Segment.aside (scan s)

/-- The declaration in a place of the table, and the index that keeps it. -/
def declareHere (index : Index) (s : Segment) (place : Fin index.table.size) :
    Read (Declaration × Index) :=
  Segment.aside fun _ => index.declare s place

end Abbreviation.Index

end DebugScopes
