import DebugScopes.Bytes.Segment
import DebugScopes.Image.SymbolTable

/-!
# Program images

An image is the data segment of a loaded program: its bytes, how many of them are usable, the
descriptors of its items, and where in it the entries and the abbreviation table start. The entries
end where the table starts. The usable length never exceeds the data, which is part of the type.
-/

namespace DebugScopes

/-- The data segment of a loaded program. -/
structure Image where
  data : Array UInt8
  length : Int
  symbols : SymbolTable
  infoStart : Int
  abbrevStart : Int
  length_le : length ≤ data.size

namespace Image

/-- The image with these parts. Without a length all of the data is usable; a length past its end is
cut. -/
def ofParts (data : Array UInt8) (symbols : SymbolTable) (infoStart abbrevStart : Int)
    (length : Option Int) : Image where
  data := data
  length := min (length.getD data.size) data.size
  symbols := symbols
  infoStart := infoStart
  abbrevStart := abbrevStart
  length_le := Int.min_le_right ..

/-- The data of an image as a segment in a byte order. -/
def segment (image : Image) (order : Except OrderFault ByteOrder) : Segment :=
  ⟨image.data, image.length, order⟩

/-- An image as text. -/
def text (image : Image) : String :=
  "ProgramImage(len=" ++ Numeral.markedHex image.length ++ ", .debug_info@" ++
    Numeral.markedHex image.infoStart ++ ", .debug_abbrev@" ++
    Numeral.markedHex image.abbrevStart ++ ", " ++ Numeral.decimal image.symbols.size ++
    " symbols)"

end Image

end DebugScopes
