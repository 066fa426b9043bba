import DebugScopes.Proofs.Assembly.Piece
import DebugScopes.Proofs.Bytes.LongNumbers
import DebugScopes.Proofs.Decoding.Step
import DebugScopes.Proofs.Text.Encoding

/-!
# Programs to assemble

A program is what the debug information of a data segment says, before it is laid out: the rows of
the abbreviation table, and for each unit a tree of entries with what their attributes hold. It is
laid out in the order of an assembler: bytes of something else, the units with their entries in
preorder, the abbreviation table, the texts, and the lists of ranges. The texts and lists are laid
out last, so the places that refer to them depend on the size of everything before.

* `Program.pieces`: how a program is laid out;
* `Program.Valid`: what is asked of a program;
* `Program.tree`: the tree that the program describes.
-/

namespace DebugScopes.Assembly

open Dwarf

/-! ### What entries hold -/

/-- A number, and the width in which it is laid out. -/
structure Bound where
  value : Nat
  width : Nat
deriving DecidableEq, Repr

/-- Pairs of a low and a high bound, and the widths of the two zeros that close the list. -/
structure RangeList where
  pairs : List (Bound × Bound)
  lowWidth : Nat
  highWidth : Nat
deriving DecidableEq, Repr

/-- What an attribute of an entry holds. -/
inductive Datum
  /-- A text, which is laid out elsewhere. -/
  | name (text : String)
  /-- Where a range of code starts. -/
  | low (n : Nat)
  /-- Where the open range ends, or how long it is. -/
  | high (n : Nat)
  /-- A list of ranges, which is laid out elsewhere. -/
  | ranges (list : RangeList)
  /-- How far off the entry is that this one completes. -/
  | reference (n : Nat)
  /-- An item that nobody reads. -/
  | item (bytes : List UInt8)
  /-- A block behind its length. -/
  | block (width : Nat) (bytes : List UInt8)
  /-- Nothing. -/
  | absent
deriving DecidableEq, Repr

/-- An attribute with its form, and what it holds. -/
structure Field where
  attr : Nat
  form : Nat
  datum : Datum
deriving DecidableEq, Repr

/-- A row of the abbreviation table. -/
structure Row extends Declaration where
  code : Nat
deriving DecidableEq, Repr

/-- An entry without those below it: its row of the table, and its attributes. -/
structure Record where
  row : Row
  fields : List Field
deriving DecidableEq, Repr

/-- Entries side by side, each with those below it. -/
inductive Forest
  | nil
  | node (record : Record) (below rest : Forest)
deriving DecidableEq, Repr

/-- A unit: the version of its layout, and its entry with those below it, if it has one. -/
structure CompileUnit where
  version : Nat
  entry : Option (Record × Forest)
deriving DecidableEq, Repr

/-- The debug information of a data segment, and the bytes in front of it. -/
structure Program where
  leadIn : List UInt8
  rows : List Row
  units : List CompileUnit
deriving DecidableEq, Repr

/-! ### Sizes -/

/-- The width of a number in the form of its attribute. -/
def formWidth (form : Nat) : Nat := ((Form.width? form).getD 0).toNat

/-- The number of bytes in the entry. -/
def Field.size (f : Field) : Nat :=
  match f.datum with
  | .name _ | .low _ | .high _ | .ranges _ | .reference _ => formWidth f.form
  | .item bytes => bytes.length
  | .block width bytes => width + bytes.length
  | .absent => 0

def RangeList.size (l : RangeList) : Nat :=
  (l.pairs.map fun p => p.1.width + p.2.width).sum + l.lowWidth + l.highWidth

/-- The number of bytes in the entries of some attributes. -/
def fieldsSize (fields : List Field) : Nat := (fields.map (·.size)).sum

/-- The number of bytes of an entry: its code, and its attributes. -/
def Record.size (record : Record) : Nat := 1 + fieldsSize record.fields

/-- The zero behind the entries below one that has them. -/
def Record.closing (record : Record) : Nat := if record.row.hasChildren then 1 else 0

def Forest.size : Forest → Nat
  | .nil => 0
  | .node record below rest => record.size + below.size + record.closing + rest.size

/-- The number of bytes behind the header of a unit. -/
def CompileUnit.bodySize (u : CompileUnit) : Nat :=
  match u.entry with
  | some (record, below) => record.size + below.size + record.closing
  | none => 1

/-- The number of bytes of a unit, the header's with them. -/
def CompileUnit.size (u : CompileUnit) : Nat := 11 + u.bodySize

/-! ### What is laid out elsewhere -/

def Field.texts (f : Field) : List String :=
  match f.datum with
  | .name text => [text]
  | _ => []

def Field.lists (f : Field) : List RangeList :=
  match f.datum with
  | .ranges list => [list]
  | _ => []

def Record.texts (record : Record) : List String := record.fields.flatMap (·.texts)

def Record.lists (record : Record) : List RangeList := record.fields.flatMap (·.lists)

def Forest.texts : Forest → List String
  | .nil => []
  | .node record below rest => record.texts ++ below.texts ++ rest.texts

def Forest.lists : Forest → List RangeList
  | .nil => []
  | .node record below rest => record.lists ++ below.lists ++ rest.lists

def CompileUnit.texts (u : CompileUnit) : List String :=
  match u.entry with
  | some (record, below) => record.texts ++ below.texts
  | none => []

def CompileUnit.lists (u : CompileUnit) : List RangeList :=
  match u.entry with
  | some (record, below) => record.lists ++ below.lists
  | none => []

/-- The number of bytes of lists that are laid out one behind the other. -/
def listsSize (lists : List RangeList) : Nat := (lists.map (·.size)).sum

/-! ### How a program is laid out -/

/-- The order of the bytes in numbers, and where the texts stand. -/
structure Plan where
  order : ByteOrder
  textAddr : String → Nat

def Bound.piece (order : ByteOrder) (b : Bound) : Piece := .number order b.width b.value

/-- The pieces of a list, two zeros behind its pairs. -/
def RangeList.pieces (order : ByteOrder) (l : RangeList) : List Piece :=
  (l.pairs.flatMap fun p => [p.1.piece order, p.2.piece order]) ++
    [.number order l.lowWidth 0, .number order l.highWidth 0]

/-- The pieces of an attribute. The lists of ranges from here on are laid out from an address on. -/
def Field.pieces (plan : Plan) (listAddr : Nat) (f : Field) : List Piece :=
  match f.datum with
  | .name text => [.number plan.order (formWidth f.form) (plan.textAddr text)]
  | .ranges _ => [.number plan.order (formWidth f.form) listAddr]
  | .low n | .high n | .reference n => [.number plan.order (formWidth f.form) n]
  | .item bytes => [.item bytes]
  | .block width bytes =>
    .number plan.order width bytes.length :: bytes.map fun b => .item [b]
  | .absent => []

def fieldsPieces (plan : Plan) (listAddr : Nat) : List Field → List Piece
  | [] => []
  | f :: rest => f.pieces plan listAddr ++ fieldsPieces plan (listAddr + listsSize f.lists) rest

def Record.pieces (plan : Plan) (listAddr : Nat) (record : Record) : List Piece :=
  .number plan.order 1 record.row.code :: fieldsPieces plan listAddr record.fields

/-- The zero behind the entries below one that has them. -/
def Record.closingPieces (plan : Plan) (record : Record) : List Piece :=
  if record.row.hasChildren then [.number plan.order 1 0] else []

/-- The pieces of entries, each followed by those below it. -/
def Forest.pieces (plan : Plan) : Nat → Forest → List Piece
  | _, .nil => []
  | listAddr, .node record below rest =>
    record.pieces plan listAddr ++
      (below.pieces plan (listAddr + listsSize record.lists) ++
        (record.closingPieces plan ++
          rest.pieces plan (listAddr + listsSize record.lists + listsSize below.lists)))

/-- The pieces of a unit's header. It says how many bytes follow its first number; the start of the
abbreviation table is left open, and addresses are four bytes wide. -/
def CompileUnit.header (plan : Plan) (u : CompileUnit) : List Piece :=
  [.number plan.order 4 (7 + u.bodySize), .number plan.order 2 u.version, .number plan.order 4 0,
    .number plan.order 1 UnitHeader.width]

/-- The pieces behind the header of a unit; a zero stands for no entry. -/
def CompileUnit.body (plan : Plan) (listAddr : Nat) (u : CompileUnit) : List Piece :=
  match u.entry with
  | some (record, below) =>
    record.pieces plan listAddr ++
      (below.pieces plan (listAddr + listsSize record.lists) ++ record.closingPieces plan)
  | none => [.number plan.order 1 0]

def CompileUnit.pieces (plan : Plan) (listAddr : Nat) (u : CompileUnit) : List Piece :=
  u.header plan ++ u.body plan listAddr

def unitsPieces (plan : Plan) (listAddr : Nat) : List CompileUnit → List Piece
  | [] => []
  | u :: rest => u.pieces plan listAddr ++ unitsPieces plan (listAddr + listsSize u.lists) rest

/-- The bytes of a row of the table: code, tag, whether there are children, and the attributes with
their forms, closed by two zeros. -/
def Row.bytes (row : Row) : List UInt8 :=
  [UInt8.ofNat row.code, UInt8.ofNat row.tag, if row.hasChildren then 1 else 0] ++
    ((row.attributes.flatMap fun p => septets p.1 ++ septets p.2) ++ [0, 0])

/-- The bytes of an abbreviation table. -/
def tableBytes (rows : List Row) : List UInt8 := rows.flatMap (·.bytes) ++ [0]

/-- The bytes of a text, closed by a zero. -/
def textBytes (text : String) : List UInt8 := Utf8.encode text ++ [0]

/-- Where a text stands among texts that are laid out from an address on. -/
def addressIn (start : Nat) : List String → String → Nat
  | [], _ => start
  | first :: rest, text =>
    if first = text then start else addressIn (start + (textBytes first).length) rest text

namespace Program

variable (program : Program)

/-- Where the units start. -/
def infoStart : Nat := program.leadIn.length

/-- Where the abbreviation table starts. -/
def abbrevStart : Nat := program.infoStart + (program.units.map (·.size)).sum

/-- The texts, each of them once, in the order in which they come up. -/
def texts : List String := (program.units.flatMap (·.texts)).eraseDups

/-- The lists of ranges, in the order in which they come up. -/
def lists : List RangeList := program.units.flatMap (·.lists)

/-- Where the texts start. -/
def textStart : Nat := program.abbrevStart + (tableBytes program.rows).length

/-- Where the lists of ranges start. -/
def listStart : Nat :=
  program.textStart + (program.texts.map fun text => (textBytes text).length).sum

/-- The number of bytes of everything. -/
def size : Nat := program.listStart + listsSize program.lists

variable (order : ByteOrder)

/-- Where the program's texts stand. -/
def plan : Plan := ⟨order, addressIn program.textStart program.texts⟩

/-- The program as an assembler lays it out. The abbreviation table alone has no descriptors. -/
def pieces : List Piece :=
  program.leadIn.map (fun b => .item [b]) ++
    (unitsPieces (program.plan order) program.listStart program.units ++
      (⟨tableBytes program.rows, false⟩ ::
        (program.texts.map (fun text => .item (textBytes text)) ++
          program.lists.flatMap (·.pieces order))))

/-- The program as an image. -/
def image : Image := Assembly.image (program.pieces order) program.infoStart program.abbrevStart

end Program

/-! ### What is asked of a program -/

/-- The number fits its width. -/
def Bound.Fits (b : Bound) : Prop := Segment.IsWidth b.width ∧ b.value < 256 ^ b.width

/-- No pair but the last is a pair of zeros. -/
structure RangeList.Valid (l : RangeList) : Prop where
  fits : ∀ p ∈ l.pairs, p.1.Fits ∧ p.2.Fits
  nonzero : ∀ p ∈ l.pairs, ¬ (p.1.value = 0 ∧ p.2.value = 0)
  lowWidth : Segment.IsWidth l.lowWidth
  highWidth : Segment.IsWidth l.highWidth

/-- The form is one of a number that can be read, and the number fits. -/
def Carries (form n : Nat) : Prop := ∃ width : Nat, Form.width? form = some width ∧ n < 256 ^ width

/-- The attribute and its form go with what the attribute holds. -/
def Field.Valid (f : Field) : Prop :=
  match f.datum with
  | .name _ => Attribute.role f.attr = .name ∧ (f.form : Int) = Form.textAddress
  | .low n => Attribute.role f.attr = .lowPc ∧ Carries f.form n
  | .high n => Attribute.role f.attr = .highPc ∧ Carries f.form n
  | .ranges list => Attribute.role f.attr = .ranges ∧ Form.width? f.form = some 4 ∧ list.Valid
  | .reference n =>
    Attribute.role f.attr = .reference ∧ (Form.referenceBase? f.form).isSome ∧ Carries f.form n
  | .item bytes =>
    Attribute.role f.attr = .other ∧ (Form.advance f.form).skipped = .item ∧ bytes ≠ []
  | .block width bytes =>
    Attribute.role f.attr = .other ∧ (Form.advance f.form).skipped = .block ∧
      (⟨bytes.length, width⟩ : Bound).Fits
  | .absent =>
    Attribute.role f.attr = .absent ∨
      Attribute.role f.attr = .other ∧ (Form.advance f.form).skipped = .nothing

/-- A range is only started when none is open, and only ended when one is. -/
def Orderly (isOpen : Bool) : List Field → Prop
  | [] => True
  | f :: rest =>
    match f.datum with
    | .low _ => isOpen = false ∧ Orderly true rest
    | .high _ => isOpen = true ∧ Orderly false rest
    | _ => Orderly isOpen rest

/-- Code and tag are bytes, the code is not zero, and no attribute or form is. -/
structure Row.Valid (row : Row) : Prop where
  positive : row.code ≠ 0
  code : row.code < 256
  tag : row.tag < 256
  attributes : ∀ p ∈ row.attributes, p.1 ≠ 0 ∧ p.2 ≠ 0

/-- The attributes are those of a row of the table. -/
structure Record.Valid (rows : List Row) (record : Record) : Prop where
  row : record.row ∈ rows
  attributes : record.row.attributes = record.fields.map fun f => (f.attr, f.form)
  fields : ∀ f ∈ record.fields, f.Valid
  orderly : Orderly false record.fields

/-- An entry without children has none below it. -/
def Record.Allows (record : Record) (below : Forest) : Prop :=
  record.row.hasChildren = false → below = .nil

def Forest.Valid (rows : List Row) : Forest → Prop
  | .nil => True
  | .node record below rest =>
    record.Valid rows ∧ record.Allows below ∧ below.Valid rows ∧ rest.Valid rows

structure CompileUnit.Valid (rows : List Row) (u : CompileUnit) : Prop where
  version : u.version ∈ UnitHeader.versions
  record : ∀ record below, u.entry = some (record, below) →
    record.Valid rows ∧ record.Allows below ∧ below.Valid rows

/-- The codes of the table differ, its rows and the units are as they should be, and addresses fit
four bytes. -/
structure Program.Valid (program : Program) : Prop where
  rows : ∀ row ∈ program.rows, row.Valid
  codes : (program.rows.map (·.code)).Nodup
  units : ∀ u ∈ program.units, u.Valid program.rows
  small : program.size < 2 ^ 32

/-! ### What a program describes -/

/-- The ranges of a list, which count from a base. -/
def RangeList.ranges (base : Int) (l : RangeList) : List CodeRange :=
  l.pairs.map fun p => ⟨p.1.value + base, some (p.2.value + base)⟩

/-- The range, ended if it is open: an address ends it, any other number is its length. -/
def ended (form n : Nat) (r : CodeRange) : CodeRange :=
  if r.isOpen then { r with high := some (if (form : Int) = Form.address then n else r.low + n) }
  else r

/-- What a reference counts from. -/
def referenceStart (infoStart unit : Int) (form : Nat) : Int :=
  match Form.referenceBase? form with
  | some .sectionStart => infoStart
  | _ => unit

/-- What is known of an entry once an attribute is taken in. -/
def Field.describe (infoStart : Int) (subject : Subject) (d : Description) (f : Field) :
    Description :=
  match f.datum with
  | .name text => { d with name := some (Utf8.upToZero text) }
  | .low n => { d with ranges := d.ranges ++ [⟨n, none⟩] }
  | .high n => { d with ranges := d.ranges.map (ended f.form n) }
  | .ranges list => { d with ranges := d.ranges ++ list.ranges subject.base }
  | .reference n => { d with target := some (n + referenceStart infoStart subject.unit f.form) }
  | .item _ | .block _ _ | .absent => d

/-- What an entry says of itself. -/
def Record.about (infoStart : Int) (subject : Subject) (record : Record) : Description :=
  record.fields.foldl (Field.describe infoStart subject) (.tagged record.row.tag)

/-- The tree with entries added below a frame's, from an address on. -/
def Forest.grow (infoStart unit : Int) : Frame → Nat → Forest → ScopeTree → ScopeTree
  | _, _, .nil, t => t
  | frame, pos, .node record below rest, t =>
    let about := record.about infoStart ⟨pos, unit, frame.base⟩
    let inner := (Building.opening frame record.row.toDeclaration about t.entries.size).frame
    let entered := t.add frame.entry ⟨pos, unit, record.row.code⟩ (Building.told frame about)
    rest.grow infoStart unit frame (pos + (record.size + below.size + record.closing))
      (below.grow infoStart unit inner (pos + record.size) entered)

/-- The tree with the entries of a unit at an address. -/
def CompileUnit.grow (infoStart : Int) (pos : Nat) (u : CompileUnit) (t : ScopeTree) : ScopeTree :=
  match u.entry with
  | some (record, below) => (Forest.node record below .nil).grow infoStart pos .root (pos + 11) t
  | none => t

def unitsGrow (infoStart : Int) : Nat → List CompileUnit → ScopeTree → ScopeTree
  | _, [], t => t
  | pos, u :: rest, t => unitsGrow infoStart (pos + u.size) rest (u.grow infoStart pos t)

/-- The tree that a program describes. -/
def Program.tree (program : Program) : ScopeTree :=
  unitsGrow program.infoStart program.infoStart program.units .empty

/-! ### Units behind which nothing follows -/

/-- The unit has nothing with a descriptor behind the code of its entry. -/
def CompileUnit.bare (u : CompileUnit) : Bool :=
  match u.entry with
  | some (record, _) => !record.row.hasChildren && record.fields.all (·.datum = .absent)
  | none => false

/-- The address of the last unit's entry, if the unit is bare. -/
def bareEnd? (pos : Nat) : List CompileUnit → Option Nat
  | [] => none
  | [u] => if u.bare then some (pos + 11) else none
  | u :: next :: rest => bareEnd? (pos + u.size) (next :: rest)

end DebugScopes.Assembly
