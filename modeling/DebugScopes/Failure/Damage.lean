import DebugScopes.Dwarf.Attribute
import DebugScopes.Dwarf.Form
import DebugScopes.Text.Words

/-!
# Damaged debug information

`Damage` lists everything that can be wrong with the debug information of an image. Each constructor
keeps what its message has to name; `Damage.kind` sorts the damages into seven kinds, and
`Damage.message` words them, which takes the integers in them to be legible (`Damage.isLegible`).
-/

namespace DebugScopes

/-- What is wrong with the debug information of an image. -/
inductive Damage
  /-- A read leaves the usable data. -/
  | readPastEnd (count start length : Int)
  /-- The address of a text lies outside the usable data. -/
  | textOutside (addr length : Int)
  /-- A text has no end inside the usable data. -/
  | textUnterminated (addr : Int)
  /-- An entry would start outside the section. -/
  | entryOutside (pos infoStart abbrevStart : Int)
  /-- No abbreviation has the code. -/
  | noAbbreviation (code : Int)
  /-- No descriptor stands at the address. -/
  | noDescriptorAt (addr : Int)
  /-- The symbol table has no such slot. -/
  | noSlot (slot : Int) (size : Nat)
  /-- No descriptor stands at the first item of an entry. -/
  | noEntryDescriptor (addr : Int)
  /-- A range starts while another one is open. -/
  | lowWhileOpen (entry : Int)
  /-- A range ends that has not been started. -/
  | highWithoutLow (entry : Int)
  /-- A list of ranges runs off the symbol table. -/
  | listUnterminated (entry list : Int)
  /-- No entry of that name has code. -/
  | noEntryPoint (name : Words)
  /-- An item is neither one, two nor four bytes wide. -/
  | itemWidth (pos size : Int)
  /-- A snapshot has something else than an integer for the width of an item. -/
  | oddWidth (pos : Int) (size : Words)
  /-- A read leaves the usable data, and its width is no integer in the snapshot. -/
  | oddRead (count : String) (start length : Int)
  /-- A name is laid out in a form that is not read. -/
  | nameForm (entry form : Int)
  /-- A reference is laid out in a form that cannot be followed. -/
  | referenceForm (entry form : Int)
  /-- A value is laid out in a form without a width. -/
  | valueForm (entry form attr : Int)
  /-- The header of a unit has a version that is not read. -/
  | unitVersion (version unit : Int)
  /-- The header of a unit has addresses of another width. -/
  | addressWidth (width : Int)
deriving DecidableEq, Repr

namespace Damage

/-- The kinds of damage. -/
inductive Kind
  | overrun
  | lookup
  | malformedRange
  | missingEntryPoint
  | itemWidth
  | unsupportedForm
  | unsupportedVersion
deriving DecidableEq, Repr

/-- The kind of a damage. -/
def kind : Damage → Kind
  | readPastEnd .. | oddRead .. | textOutside .. | textUnterminated .. | entryOutside .. => .overrun
  | noAbbreviation .. | noDescriptorAt .. | noSlot .. | noEntryDescriptor .. => .lookup
  | lowWhileOpen .. | highWithoutLow .. | listUnterminated .. => .malformedRange
  | noEntryPoint .. => .missingEntryPoint
  | itemWidth .. | oddWidth .. => .itemWidth
  | nameForm .. | referenceForm .. | valueForm .. => .unsupportedForm
  | unitVersion .. | addressWidth .. => .unsupportedVersion

/-- The start of a message about an entry. -/
def ofEntry (addr : Int) : String := "Entry at " ++ Numeral.markedHex addr ++ ": "

/-- The wording of a read that leaves the usable data. -/
def pastEnd (count : String) (start length : Int) : String :=
  "Read of " ++ count ++ " byte(s) at " ++ Numeral.markedHex start ++
    " runs past end of data (" ++ Numeral.markedHex length ++ ")"

/-- The wording of a width that no item has. -/
def badWidth (pos : Int) (size : Words) : Words :=
  "Debug data item at " ++ Numeral.markedHex pos ++ " has invalid size " ++ size ++
    " (should be 1, 2, or 4)"

/-- The wording of a damage. -/
def message : Damage → Words
  | readPastEnd count start length => pastEnd (Numeral.decimal count) start length
  | oddRead count start length => pastEnd count start length
  | textOutside addr length =>
    "String offset " ++ Numeral.markedHex addr ++ " lies outside data (" ++
      Numeral.markedHex length ++ ")"
  | textUnterminated addr => "Unterminated string at " ++ Numeral.markedHex addr
  | entryOutside pos infoStart abbrevStart =>
    "Debug entry at " ++ Numeral.markedHex pos ++ " lies outside .debug_info [" ++
      Numeral.markedHex infoStart ++ ", " ++ Numeral.markedHex abbrevStart ++ ")"
  | noAbbreviation code => "No abbreviation declared for code " ++ Numeral.decimal code
  | noDescriptorAt addr => "No debug data symbol at address " ++ Numeral.markedHex addr
  | noSlot slot size =>
    "Debug data symbol slot " ++ Numeral.decimal slot ++ " is outside symbol table (size " ++
      Numeral.decimal size ++ ")"
  | noEntryDescriptor addr => "No debug data symbol for entry at " ++ Numeral.markedHex addr
  | lowWhileOpen entry =>
    ofEntry entry ++ "DW_AT_low_pc while an earlier range is still open"
  | highWithoutLow entry =>
    ofEntry entry ++ "invalid or inverted PC ranges (DW_AT_high_pc without DW_AT_low_pc)"
  | listUnterminated entry list =>
    ofEntry entry ++ "range list at " ++ Numeral.markedHex list ++
      " has no terminating (0, 0) pair"
  | noEntryPoint name =>
    "Found no \"" ++ name ++ "\" routine with a PC range. Was the program compiled with -g?"
  | itemWidth pos size => badWidth pos (Numeral.decimal size)
  | oddWidth pos size => badWidth pos size
  | nameForm entry form =>
    ofEntry entry ++ "cannot read DW_AT_name encoded as " ++ Dwarf.Form.name form
  | referenceForm entry form =>
    ofEntry entry ++ "cannot follow reference encoded as " ++ Dwarf.Form.name form
  | valueForm entry form attr =>
    ofEntry entry ++ "unhandled form " ++ Dwarf.Form.name form ++ " for " ++
      Dwarf.Attribute.name attr
  | unitVersion version unit =>
    "Debug data compiled with unsupported DWARF version number (" ++ Numeral.decimal version ++
      ") in unit at " ++ Numeral.markedHex unit
  | addressWidth width =>
    "Debug data uses " ++ Numeral.decimal width ++
      "-byte addresses; only 4-byte addresses are supported"

/-- Whether the wording of a damage names no integer that has too many digits for base ten. -/
def isLegible : Damage → Bool
  | readPastEnd count .. => Numeral.isLegible count
  | noAbbreviation code => Numeral.isLegible code
  | noSlot slot size => Numeral.isLegible slot && Numeral.isLegible size
  | itemWidth _ size => Numeral.isLegible size
  | unitVersion version _ => Numeral.isLegible version
  | addressWidth width => Numeral.isLegible width
  | _ => true

end Damage

end DebugScopes
