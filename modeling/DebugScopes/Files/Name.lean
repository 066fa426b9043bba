import DebugScopes.Text.Utf8
import DebugScopes.Value.Printer

/-!
# Naming a file by a value

A file is named by its path, as text or as bytes, or by the number that it has while it is open. A
path has to be encoded, which half of a surrogate pair cannot be, unless it stands for a byte.

* `FileName.ofValue` is the name that a value is.
-/

namespace DebugScopes

/-- The name of a file. -/
inductive FileName
  | path (path : String)
  | number (number : Nat)
deriving DecidableEq, Repr

namespace FileName

/-- Why a value names no file. -/
inductive Fault
  /-- Values of that kind name none. -/
  | wrongKind
  /-- No file has a negative number. -/
  | negative
  /-- A character of the path cannot be encoded, or those from one to another. -/
  | unencodable (code first last : Nat)
deriving DecidableEq, Repr

/-- The wording of a fault; a value of the wrong kind is not described. -/
def Fault.message : Fault → String
  | wrongKind => ""
  | negative => "negative file descriptor"
  | unencodable code first last =>
    let place :=
      if first = last then
        "character '" ++ String.ofList (Quoted.escapeHalf code) ++ "' in position " ++
          Numeral.decimal first
      else "characters in position " ++ Numeral.decimal first ++ "-" ++ Numeral.decimal last
    "'utf-8' codec can't encode " ++ place ++ ": surrogates not allowed"

/-- The byte that half of a surrogate pair stands for. -/
def byte? (code : Nat) : Option UInt8 :=
  if 0xDC80 ≤ code ∧ code ≤ 0xDCFF then some (UInt8.ofNat (code - 0xDC00)) else none

/-- The bytes of a path that is given by its codes, the first of which has the given place. -/
def encode (place : Nat) : List Nat → Except Fault (List UInt8)
  | [] => .ok []
  | code :: rest =>
    if code.isValidChar then do
      .ok ((String.ofList [Char.ofNat code]).toUTF8.toList ++ (← encode (place + 1) rest))
    else
      match byte? code with
      | some byte => do .ok (byte :: (← encode (place + 1) rest))
      | none =>
        .error (.unencodable code place
          (place + (rest.takeWhile fun code => !code.isValidChar).length))

/-- The numbers that an open file can have are below this one. -/
def numberLimit : Int := Int.pow 2 31

/-- The name that a value is. -/
def ofValue (v : Value) : Except Fault FileName :=
  match v with
  | .text name => .ok (.path name)
  | .bytes name => .ok (.path (Utf8.decode name))
  | .halves codes => do .ok (.path (Utf8.decode (← encode 0 codes)))
  | v =>
    match v.int? with
    | none => .error .wrongKind
    | some n =>
      if n < -numberLimit ∨ numberLimit ≤ n then .error .wrongKind
      else if n < 0 then .error .negative
      else .ok (.number n.toNat)

end FileName

end DebugScopes
