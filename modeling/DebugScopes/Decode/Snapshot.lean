import DebugScopes.Decode.Tree
import DebugScopes.Image.Snapshot

/-!
# Decoding snapshots

A snapshot that holds integers is decoded like the image that it stands for
(`Snapshot.decoder_ofImage`). One that was written by hand may hold anything else, and decoding goes
as far as that is not needed. A missing start counts as zero until it is compared with something.
Nothing can be read at a float, but a section that starts at one behind the table is just empty. A
float for the usable length keeps the texts from being read, and cannot be named in base sixteen.
-/

namespace DebugScopes.Snapshot

open Building

/-! ### The parts of a snapshot -/

/-- Whether an item stands at an address. -/
def standsAt (addr : Int) (item : Item) : Bool :=
  match item.addr with
  | .int i => i == addr
  | v => v.same (.int addr)

/-- The items of a snapshot. -/
def slots (s : Snapshot) : Slots Item :=
  ⟨s.items.size, fun addr => s.items.findIdx? (standsAt addr), fun slot => s.items[slot]?⟩

/-- The greatest integer that is not above a float; a negative one is as good as any other. -/
def floor (x : Float) : Int := if x < 0 then -1 else x.floor.toUInt64.toNat

/-- The usable length, and whether it is an integer. -/
def extent (s : Snapshot) : Int × Bool :=
  match s.length.int?, s.length with
  | some length, _ => (length, true)
  | none, .float x => (floor x, false)
  | none, _ => (0, true)

/-- A snapshot with the starts of its two parts. -/
def source (s : Snapshot) (order : Except OrderFault ByteOrder) (infoStart abbrevStart : Int) :
    Source :=
  ⟨⟨s.data, s.extent.1, order⟩, infoStart, abbrevStart, s.slots, s.extent.2⟩

/-! ### Decoding -/

/-- Fails for another reason than damage. -/
def fail {α : Type} (cause : Cause) : Building α := throw (.ofCause cause)

/-- Decodes a snapshot whose table has its place. -/
def sections (s : Snapshot) (order : Except OrderFault ByteOrder) (abbrevStart : Int)
    (entryPoint : Value) : Building Unit :=
  let src := s.source order 0 abbrevStart
  match s.infoStart.int?, s.infoStart with
  | some infoStart, _ => program (s.source order infoStart abbrevStart) entryPoint
  | none, .null => do
    table src
    if 0 < abbrevStart then do
      let _ ← within .unitHeader (reading (UnitHeader.read src.segment))
      fail .wrongKind
    else finish entryPoint
  | none, .float x => do
    table src
    if (Value.Numeric.float x).compare? (.int abbrevStart) = some .lt then
      fail (src.segment.faultAt x 4)
    else finish entryPoint
  | none, _ => do
    table src
    fail .wrongKind

/-- Decodes a snapshot. -/
def everything (s : Snapshot) (order : Except OrderFault ByteOrder) (entryPoint : Value) :
    Building Unit :=
  let src := s.source order 0 0
  match s.abbrevStart.int?, s.abbrevStart with
  | some abbrevStart, _ => s.sections order abbrevStart entryPoint
  | none, .null => do
    tableNoting none src
    fail .wrongKind
  | none, .float x => fail (src.segment.faultAt x 1)
  | none, _ => fail .wrongKind

/-- A failure as it is told of a snapshot: a usable length that is a float cannot be named. -/
def told (s : Snapshot) (failure : Failure) : Failure :=
  match s.extent.2, failure.damage? with
  | false, some (.readPastEnd ..) | false, some (.oddRead ..) | false, some (.textOutside ..) =>
    .ofCause (.digitless "float")
  | _, _ => failure

/-- Where the decoding of a snapshot starts. -/
def start (s : Snapshot) (order : Except OrderFault ByteOrder) : Progress :=
  .start (s.source order (s.infoStart.int?.getD 0) (s.abbrevStart.int?.getD 0))

/-- Decodes a snapshot. -/
def decoder (s : Snapshot) : Decoder := fun order entryPoint =>
  let (result, notices) := outcome (s.everything order entryPoint) (s.start order)
  (result.mapError s.told, notices)

/-! ### The snapshot of an image -/

theorem slots_ofImage (image : Image) : (ofImage image).slots = image.symbols.items := by
  unfold slots ofImage SymbolTable.items Slots.map SymbolTable.slots SymbolTable.slot?
  congr 1
  · exact Array.size_map
  · funext addr
    rw [Array.findIdx?_map]
    rfl
  · funext slot
    exact Array.getElem?_map

theorem source_ofImage (image : Image) (order : Except OrderFault ByteOrder) :
    (ofImage image).source order image.infoStart image.abbrevStart = .of image order := by
  unfold source
  rw [slots_ofImage]
  rfl

/-- The snapshot of an image is decoded like the image. -/
theorem decoder_ofImage (image : Image) : (ofImage image).decoder = image.decoder := by
  funext order entryPoint
  have told : (ofImage image).told = id := by
    funext failure
    rfl
  have start : (ofImage image).start order = .start (.of image order) := by
    rw [← source_ofImage]
    rfl
  have everything : (ofImage image).everything order entryPoint =
      program (.of image order) entryPoint := by
    rw [← source_ofImage]
    rfl
  unfold decoder Image.decoder ScopeTree.decode
  rw [told, start, everything]
  generalize outcome (program (.of image order) entryPoint) (.start (.of image order)) = decoded
  obtain ⟨result, notices⟩ := decoded
  cases result <;> rfl

end DebugScopes.Snapshot
