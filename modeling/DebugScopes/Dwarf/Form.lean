import DebugScopes.Dwarf.Tag

/-!
# Forms

The form of an attribute says how its data is laid out: how wide a value is that is read
(`width?`), what is stepped over when it is not read (`advance`), and what a reference counts from
(`referenceBase?`).
-/

namespace DebugScopes.Dwarf.Form

/-- The codes of the forms and their names. -/
def table : List (Nat × String) := [
    (0x0, "null"), (0x1, "addr"), (0x2, "ref"), (0x3, "block2"), (0x4, "block4"), (0x5, "data2"),
    (0x6, "data4"), (0x7, "data8"), (0x8, "string"), (0x9, "block"), (0xa, "block1"),
    (0xb, "data1"), (0xc, "flag"), (0xd, "sdata"), (0xe, "strp"), (0xf, "udata"),
    (0x10, "ref_addr"), (0x11, "ref1"), (0x12, "ref2"), (0x13, "ref4"), (0x14, "ref8"),
    (0x15, "ref_udata"), (0x16, "indirect"), (0x17, "sec_offset"), (0x18, "exprloc"),
    (0x19, "flag_present"), (0x1a, "strx"), (0x1b, "addrx"), (0x1c, "ref_sup4"),
    (0x1d, "strp_sup"), (0x1e, "data16"), (0x1f, "line_strp"), (0x20, "ref_sig8"),
    (0x21, "implicit_const"), (0x22, "loclistx"), (0x23, "rnglistx"), (0x24, "ref_sup8"),
    (0x25, "strx1"), (0x26, "strx2"), (0x27, "strx3"), (0x28, "strx4"), (0x29, "addrx1"),
    (0x2a, "addrx2"), (0x2b, "addrx3"), (0x2c, "addrx4"), (0x1f01, "GNU_addr_index"),
    (0x1f02, "GNU_str_index"), (0x1f20, "GNU_ref_alt"), (0x1f21, "GNU_strp_alt")]

/-- The name of a form. -/
def name (code : Int) : String := nameIn table "DW_FORM_" code

/-- An address. -/
def address : Int := 0x1

/-- The address of a text. -/
def textAddress : Int := 0xE

/-- The width of a value that can be read, for the forms that have one. -/
def width? (code : Int) : Option Int :=
  if code = 0x1 ∨ code = 0x6 ∨ code = 0xE ∨ code = 0x10 ∨ code = 0x13 ∨ code = 0x17 then some 4
  else if code = 0x5 ∨ code = 0x12 then some 2
  else if code = 0xB ∨ code = 0x11 ∨ code = 0xC then some 1
  else none

/-- What the address in a reference counts from. -/
inductive ReferenceBase
  /-- The start of the section. -/
  | sectionStart
  /-- The header of the unit. -/
  | unitHeader
deriving DecidableEq, Repr

/-- What a reference of the form counts from; other forms cannot be followed. -/
def referenceBase? (code : Int) : Option ReferenceBase :=
  if code = 0x10 then some .sectionStart
  else if code = 0x11 ∨ code = 0x12 ∨ code = 0x13 then some .unitHeader
  else none

/-- What is left to step over in the entry once an attribute has been decoded. -/
inductive Skipped
  /-- Nothing. -/
  | nothing
  /-- One item, unless the attribute has been read. -/
  | item
  /-- A block behind its length. -/
  | block
deriving DecidableEq, Repr

/-- The number of a way to step. -/
def Skipped.code : Skipped → Int
  | nothing => 0
  | item => 1
  | block => 2

/-- How far an attribute moves the cursors: what is left of its bytes, and its descriptors in the
symbol table (those of a block's bytes apart). -/
structure Advance where
  skipped : Skipped
  slots : Int
deriving DecidableEq, Repr

/-- How far an attribute of the form moves the cursors. -/
def advance (code : Int) : Advance :=
  if code = 0x18 ∨ code = 0x9 ∨ code = 0xA ∨ code = 0x3 ∨ code = 0x4 then ⟨.block, 1⟩
  else if code = 0x19 then ⟨.nothing, 0⟩
  else ⟨.item, 1⟩

/-- An advance as text. -/
def Advance.text (a : Advance) : String :=
  "FormAdvance(entry=" ++ Numeral.decimal a.skipped.code ++ ", slots=" ++
    Numeral.decimal a.slots ++ ")"

end DebugScopes.Dwarf.Form
