/-!
# UTF-8 with replacement

Text in the data segment is UTF-8, and damaged text is still shown: every ill-formed sequence is
replaced by U+FFFD, one replacement for each longest prefix that some well-formed sequence starts
with (and for each byte that starts none).

`Utf8.decode` walks the bytes once. Its state is a character that is still owed continuation bytes
(`Pending`), with the bounds the next byte has to keep. A byte outside the bounds ends the pending
character with a replacement and is then read afresh, so nothing is skipped.
-/

namespace DebugScopes.Utf8

/-- A character that lacks `owed + 1` continuation bytes, the next of them between `least` and
`most`; `value` holds the bits so far. -/
structure Pending where
  owed : Nat
  least : Nat
  most : Nat
  value : Nat
deriving DecidableEq, Repr

/-- What one byte is at the start of a character. -/
inductive Opening
  /-- A whole character. -/
  | whole (c : Char)
  /-- The first byte of a longer one. -/
  | more (p : Pending)
  /-- A byte that starts no well-formed sequence. -/
  | invalid

/-- What stands for an ill-formed sequence. -/
def replacement : Char := '\uFFFD'

/-- Reads a byte at the start of a character. The narrower second bytes after `E0`, `ED`, `F0` and
`F4` keep out overlong forms, surrogates and values past `10FFFF`. -/
def start (byte : UInt8) : Opening :=
  let b := byte.toNat
  if b < 0x80 then .whole (Char.ofNat b)
  else if b < 0xC2 then .invalid
  else if b < 0xE0 then .more ⟨0, 0x80, 0xBF, b - 0xC0⟩
  else if b = 0xE0 then .more ⟨1, 0xA0, 0xBF, 0⟩
  else if b = 0xED then .more ⟨1, 0x80, 0x9F, 0x0D⟩
  else if b < 0xF0 then .more ⟨1, 0x80, 0xBF, b - 0xE0⟩
  else if b = 0xF0 then .more ⟨2, 0x90, 0xBF, 0⟩
  else if b < 0xF4 then .more ⟨2, 0x80, 0xBF, b - 0xF0⟩
  else if b = 0xF4 then .more ⟨2, 0x80, 0x8F, 4⟩
  else .invalid

/-- The bits of a pending character with those of one more continuation byte. -/
def Pending.extended (p : Pending) (byte : UInt8) : Nat :=
  p.value * 64 + (byte.toNat - 0x80)

/-- Reads the bytes behind the pending character, if there is one. -/
def decodeFrom : Option Pending → List UInt8 → List Char
  | none, [] => []
  | some _, [] => [replacement]
  | none, byte :: rest =>
    match start byte with
    | .whole c => c :: decodeFrom none rest
    | .more p => decodeFrom (some p) rest
    | .invalid => replacement :: decodeFrom none rest
  | some p, byte :: rest =>
    if p.least ≤ byte.toNat ∧ byte.toNat ≤ p.most then
      match p.owed with
      | 0 => Char.ofNat (p.extended byte) :: decodeFrom none rest
      | owed + 1 => decodeFrom (some ⟨owed, 0x80, 0xBF, p.extended byte⟩) rest
    else
      replacement ::
        match start byte with
        | .whole c => c :: decodeFrom none rest
        | .more p => decodeFrom (some p) rest
        | .invalid => replacement :: decodeFrom none rest

/-- The characters of a byte string, with a replacement for every ill-formed sequence. -/
def decode (bytes : List UInt8) : String :=
  String.ofList (decodeFrom none bytes)

end DebugScopes.Utf8
