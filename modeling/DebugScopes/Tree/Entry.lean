import DebugScopes.Dwarf.Tag
import DebugScopes.Tree.CodeRange

/-!
# Entries of a source tree

An entry stands for a construct of the source: a unit, a method, a block, a class. What the entry
says of itself is its `Description`; where it was read and how it hangs in the tree is the rest of
`Entry`. The root alone was read nowhere and has no parent.
-/

namespace DebugScopes

/-- Where an entry was read: its address, that of the unit's header, and its abbreviation code. -/
structure Place where
  addr : Int
  unit : Int
  code : Int
deriving DecidableEq, Repr

/-- What an entry says of itself. `target` is the address of the entry that it completes. -/
structure Description where
  tag : Option Int
  name : Option String
  ranges : List CodeRange
  target : Option Int
deriving DecidableEq, Repr

namespace Description

/-- Nothing is said. -/
def blank : Description := ⟨none, none, [], none⟩

/-- Whether the entry is a unit. -/
def isUnit (d : Description) : Bool := d.tag = some Dwarf.Tag.compileUnit

/-- The first range that is still open. -/
def pending? (d : Description) : Option CodeRange := d.ranges.find? (·.isOpen)

/-- Whether some range includes a program counter. -/
def covers (d : Description) (pc : Int) : Bool := d.ranges.any (·.includes pc)

/-- The name, unless it is empty. -/
def name? (d : Description) : Option String :=
  match d.name with
  | some "" => none
  | name => name

end Description

/-- An entry in a tree. Other entries are named by their index. -/
structure Entry extends Description where
  place : Option Place
  parent : Option Nat
  children : Array Nat
deriving DecidableEq, Repr

namespace Entry

/-- The root of a tree. -/
def root : Entry := ⟨.blank, none, none, #[]⟩

/-- Whether the entry is the root. -/
def isRoot (e : Entry) : Bool := e.parent.isNone

/-- The address of the entry. -/
def addr? (e : Entry) : Option Int := e.place.map (·.addr)

/-- The name of the entry's tag. -/
def tagName (e : Entry) : String := Dwarf.Tag.name e.tag

/-- An entry as text. -/
def text (e : Entry) : String :=
  let name := match e.name? with
    | some name => " " ++ name
    | none => ""
  let addr := match e.addr? with
    | some addr => " @" ++ Numeral.hex addr
    | none => ""
  let ranges := if e.ranges.isEmpty then "" else " " ++ ", ".intercalate (e.ranges.map (·.text))
  "<" ++ e.tagName ++ name ++ addr ++ ranges ++ ">"

end Entry

end DebugScopes
