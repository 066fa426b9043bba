import DebugScopes.Bytes.Measured
import DebugScopes.Image.Basic
import DebugScopes.Image.Item

/-!
# What is decoded

`Source` is an image as far as the decoder sees it: the data with its byte order, where the section
of the entries starts and ends, and the items of the data. `Source.of` makes one of an image. In the
snapshot of an image the items may be described by something else than integers, and the usable
length may be a float; no text can be searched up to one.
-/

namespace DebugScopes

/-- What the decoder sees of an image. -/
structure Source where
  segment : Segment
  infoStart : Int
  abbrevStart : Int
  items : Slots Item
  /-- Whether the usable length is an integer. -/
  wholeLength : Bool

namespace Source

/-- An image, read in a byte order. -/
def of (image : Image) (order : Except OrderFault ByteOrder) : Source :=
  ⟨image.segment order, image.infoStart, image.abbrevStart, image.symbols.items, true⟩

/-- The text at an address. -/
def textAt (src : Source) (addr : Int) : Except Failure String :=
  if src.wholeLength ∨ addr < 0 ∨ src.segment.length ≤ addr then
    (src.segment.textAt addr).mapError .ofDamage
  else .error (.ofCause .wrongKind)

theorem textAt_of (image : Image) (order : Except OrderFault ByteOrder) (addr : Int) :
    (Source.of image order).textAt addr = ((image.segment order).textAt addr).mapError .ofDamage :=
  if_pos (.inl rfl)

/-- The item in a slot is the one that is described there. -/
theorem inSlot_of (image : Image) (order : Except OrderFault ByteOrder) (slot : Int) :
    (Source.of image order).items.inSlot slot = (image.symbols.inSlot slot).map Item.ofDescriptor :=
  Slots.inSlot_map Item.ofDescriptor image.symbols.slots slot

/-- Why an item whose address is no integer cannot be read. -/
def oddAddress (src : Source) (item : Item) : Cause :=
  match item.addr with
  | .float x =>
    match (Segment.width? item.size).filter fun width => Segment.widths.contains width with
    | some width => src.segment.faultAt x width
    | none => .digitless "float"
  | _ => .wrongKind

end Source

end DebugScopes
