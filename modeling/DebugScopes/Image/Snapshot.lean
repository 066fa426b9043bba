import DebugScopes.Image.Basic
import DebugScopes.Image.Item
import DebugScopes.MapFile.Loader
import DebugScopes.Value.Order

/-!
# Image snapshots

An image is saved as a map file and can be loaded again, so that its debug information can be
decoded without the program. The map names the schema that it follows; a newer one is not read.

* `Snapshot.ofImage` is the snapshot of an image, and `Snapshot.draft` the file that holds it;
* `Snapshot.loadOn` reads one, and `Snapshot.load` does so if it is a file of assignments. The map
  may have been written by hand: the data may be a row of numbers or a number of zero bytes, the
  length may be missing, and what the rest is worth shows when it is used. Only the addresses of the
  items have to be ordered.
-/

namespace DebugScopes

/-- An image as a file holds it: the data, and values in the place of everything else. -/
structure Snapshot where
  data : Array UInt8
  length : Value
  items : Array Item
  infoStart : Value
  abbrevStart : Value

namespace Snapshot

/-- The name of the map. -/
def mapName : String := "image"

def dataKey : String := "data"
def lengthKey : String := "length"
def symbolsKey : String := "symbols"
def infoStartKey : String := "debug_info_start"
def abbrevStartKey : String := "debug_abbrev_start"
def schemaKey : String := "image_schema"

/-- The schema that is written, and the newest that is read. -/
def schema : Int := 1

/-! ### Saving -/

/-- The snapshot of an image. -/
def ofImage (image : Image) : Snapshot where
  data := image.data
  length := .int image.length
  items := image.symbols.rows.map .ofDescriptor
  infoStart := .int image.infoStart
  abbrevStart := .int image.abbrevStart

/-- A snapshot as a map. -/
def entries (s : Snapshot) : Entries := [
  (.text dataKey, .bytes s.data.toList),
  (.text lengthKey, s.length),
  (.text symbolsKey, .list (s.items.toList.map fun item => .list [item.addr, item.size])),
  (.text infoStartKey, s.infoStart),
  (.text abbrevStartKey, s.abbrevStart),
  (.text schemaKey, .int schema)]

/-- The file that holds an image. -/
def draft (image : Image) : MapFile.Draft := MapFile.draft mapName (ofImage image).entries

/-! ### Faults -/

/-- Why a snapshot cannot be loaded. -/
inductive Fault
  /-- The file holds no image. -/
  | noImage (file : String)
  /-- The image follows a newer schema. -/
  | newerSchema (version : String)
  /-- An integer that has to be named has too many digits. -/
  | illegible
  /-- The map lacks a key. -/
  | missingKey (key : String)
  /-- A number among the data is no byte. -/
  | noByte
  /-- The data is a negative number of bytes. -/
  | negativeCount
  /-- The data is a number of bytes that no byte string can have. -/
  | tooManyBytes
  /-- The data is a number of bytes that do not fit. -/
  | noMemory
  /-- A descriptor has fewer than two parts. -/
  | shortDescriptor (parts : Nat)
  /-- A descriptor has more than two parts. -/
  | longDescriptor
  /-- A value is of a kind that has no place there. -/
  | wrongKind
  /-- Running the file does not come back. -/
  | stopped (stop : MapFile.Stop)
deriving DecidableEq, Repr

/-- The wording of a fault; a value of the wrong kind, data that are too long and a file that does
not come back are not described. -/
def Fault.message : Fault → String
  | noImage file => "File '" ++ file ++ "' does not contain a program image"
  | newerSchema version => "Cannot load image schema with version=" ++ version
  | illegible => Numeral.illegible
  | missingKey key => (Value.text key).written
  | noByte => "bytes must be in range(0, 256)"
  | negativeCount => "negative count"
  | shortDescriptor parts =>
    "not enough values to unpack (expected 2, got " ++ Numeral.decimal parts ++ ")"
  | longDescriptor => "too many values to unpack (expected 2)"
  | tooManyBytes | noMemory | wrongKind | stopped _ => ""

/-! ### The data and their length -/

/-- The byte that a value stands for. -/
def byte (v : Value) : Except Fault UInt8 :=
  match v.int? with
  | some i => if 0 ≤ i ∧ i < 256 then .ok (UInt8.ofNat i.toNat) else .error .noByte
  | none => .error .wrongKind

/-- The most bytes that a byte string can have. -/
def longestCount : Int := Int.pow 2 63 - 34

/-- The most bytes that fit. -/
def memory : Int := Int.pow 2 35

/-- That many zero bytes. -/
def zeros (count : Int) : Except Fault (Array UInt8) :=
  if longestCount < count ∨ count < -Int.pow 2 63 then .error .tooManyBytes
  else if count < 0 then .error .negativeCount
  else if memory < count then .error .noMemory
  else .ok (Array.replicate count.toNat 0)

/-- The data of an image: a byte string, a row of numbers, or a number of zero bytes. -/
def bytes (v : Value) : Except Fault (Array UInt8) :=
  match v with
  | .bytes b | .buffer b => .ok b.toArray
  | .text _ | .halves _ => .error .wrongKind
  | v =>
    match v.int?, v.items? with
    | some count, _ => zeros count
    | none, some items => do pure (← items.mapM byte).toArray
    | none, none => .error .wrongKind

/-- The usable length: null stands for all of the data, and a length past their end is cut. -/
def usable (size : Nat) (v : Value) : Except Fault Value :=
  match v, v.numeric? with
  | .null, _ => .ok (.int size)
  | v, some length =>
    if (Value.Numeric.int size).compare? length = some .lt then .ok (.int size) else .ok v
  | _, none => .error .wrongKind

/-! ### The items -/

/-- An item: an address and a size. -/
def item (v : Value) : Except Fault Item :=
  match v.items? with
  | none => .error .wrongKind
  | some [addr, size] => .ok ⟨addr, size⟩
  | some (_ :: _ :: _ :: _) => .error .longDescriptor
  | some few => .error (.shortDescriptor few.length)

/-- Where an address belongs among those from one place to before another; none if it cannot be
compared with one of them. -/
def placeFor (items : Array Item) (addr : Value) (low high : Nat) : Option Nat :=
  if low < high then
    let middle := (low + high) / 2
    match items[middle]? with
    | none => none
    | some there =>
      match addr.less? there.addr with
      | none => none
      | some true => placeFor items addr low middle
      | some false => placeFor items addr (middle + 1) high
  else some low
termination_by high - low

/-- Whether an address is an integer behind that of the last item, and so behind all of them. -/
def isNext (items : Array Item) (addr : Value) : Bool :=
  match addr, items.back? with
  | .int _, none => true
  | .int i, some ⟨.int last, _⟩ => last < i
  | _, _ => false

/-- Puts an item in its place. -/
def place (items : Array Item) (new : Item) : Except Fault (Array Item) :=
  let tried :=
    match items.back? with
    | none => some 0
    | some last =>
      match new.addr.less? last.addr with
      | some false => some items.size
      | some true => placeFor items new.addr 0 items.size
      | none => none
  match tried with
  | some i => .ok (items.extract 0 i ++ #[new] ++ items.extract i items.size)
  | none => .error .wrongKind

/-- Takes an item in; the first one of an address stays. -/
def insert (items : Array Item) (new : Item) : Except Fault (Array Item) :=
  if isNext items new.addr then .ok (items.push new)
  else if !new.addr.hashable then .error .wrongKind
  else if items.any fun there => there.addr.same new.addr then .ok items
  else place items new

/-- The items of an image; whatever is false stands for none. -/
def itemsOf (v : Value) : Except Fault (Array Item) :=
  if !v.isTrue then .ok #[]
  else
    match v.items? with
    | none => .error .wrongKind
    | some rows => rows.foldlM (fun items row => do insert items (← item row)) #[]

/-! ### Loading -/

/-- The value of a key that has to be there. -/
def required (map : Entries) (key : String) : Except Fault Value :=
  match map.find? (.text key) with
  | some v => .ok v
  | none => .error (.missingKey key)

/-- Checks the schema of a map. -/
def checkSchema (file : String) (map : Entries) : Except Fault Unit :=
  match (map.find? (.text schemaKey)).getD .null with
  | .null => .error (.noImage file)
  | version =>
    match version.numeric? with
    | none => .error .wrongKind
    | some number =>
      if number.compare? (.int schema) = some .gt then
        if version.legible then .error (.newerSchema version.written) else .error .illegible
      else .ok ()

/-- The snapshot in a map. -/
def ofEntries (file : String) (map : Entries) : Except Fault Snapshot := do
  checkSchema file map
  let data ← required map dataKey
  let symbols ← required map symbolsKey
  let infoStart ← required map infoStartKey
  let abbrevStart ← required map abbrevStartKey
  let data ← bytes data
  let length ← usable data.size ((map.find? (.text lengthKey)).getD .null)
  let items ← itemsOf symbols
  pure ⟨data, length, items, infoStart, abbrevStart⟩

/-- The snapshot in the text of a file, and what loading it reports. -/
def loadOn (machine : MapFile.Machine) (file text : String) :
    Except Fault Snapshot × List Console.Message :=
  match MapFile.loadOn machine file mapName [] text with
  | .ok (map, messages) => (ofEntries file map, messages)
  | .error .illegibleVersion => (.error .illegible, [])
  | .error (.stopped stop) => (.error (.stopped stop), [])

/-- The snapshot in a file of assignments, and what loading it reports. -/
def load (file text : String) : Except Fault Snapshot × List Console.Message :=
  loadOn .plain file text

theorem load_of_map {file text : String} {map : Entries} {messages : List Console.Message}
    (loaded : MapFile.load file mapName [] text = .ok (map, messages)) :
    load file text = (ofEntries file map, messages) := by
  rw [MapFile.load] at loaded
  rw [load, loadOn, loaded]

/-! ### A snapshot as text -/

/-- A number in base sixteen behind its mark, unless its kind has none. -/
def hexText (v : Value) : Except Cause String :=
  match v.int?, v with
  | some i, _ => .ok (Numeral.markedHex i)
  | none, .float _ => .error (.digitless "float")
  | none, .complex .. => .error (.digitless "complex")
  | none, .text _ | none, .halves _ => .error (.digitless "str")
  | none, _ => .error .wrongKind

/-- A snapshot as text. -/
def text (s : Snapshot) : Except Cause String := do
  let length ← hexText s.length
  let infoStart ← hexText s.infoStart
  let abbrevStart ← hexText s.abbrevStart
  pure ("ProgramImage(len=" ++ length ++ ", .debug_info@" ++ infoStart ++ ", .debug_abbrev@" ++
    abbrevStart ++ ", " ++ Numeral.decimal s.items.size ++ " symbols)")

theorem text_ofImage (image : Image) : (ofImage image).text = .ok image.text := by
  have size : (ofImage image).items.size = image.symbols.size := Array.size_map
  unfold text
  rw [size]
  rfl

end Snapshot

end DebugScopes
