import DebugScopes.Text.Quoted
import DebugScopes.Text.Words
import DebugScopes.Value.Basic

/-!
# How a value is written

`Value.written` is the form that a file can hold: text is quoted, a tuple of one has a comma, a
dictionary stands in braces. `Value.shown` is the form inside a sentence; it differs for text alone,
which stands there as it is, halves of surrogate pairs included. So it is `Words`, and no string.

A float has as many digits as it takes to read it back. It is positional for exponents from `-4` to
`15` and always keeps a digit behind the point; otherwise its exponent has a sign and two digits.
The parts of a complex number need no digit behind the point.

An integer with too many digits for base ten cannot be written, nor can what holds one:
`Value.legible` says whether a value can, and `Value.shown?` is its form if it can.
-/

namespace DebugScopes.Value

/-- The digits of a float as text. -/
def digitsText (d : Decimal.Digits) : String :=
  let row := d.digits.toList
  let exponent := d.point - 1
  if -4 ≤ exponent ∧ exponent < 16 then
    if d.point ≤ 0 then "0." ++ String.ofList (List.replicate (-d.point).toNat '0') ++ d.digits
    else
      let whole := d.point.toNat
      let ahead := row.take whole ++ List.replicate (whole - row.length) '0'
      let behind := row.drop whole
      String.ofList ahead ++ "." ++ if behind.isEmpty then "0" else String.ofList behind
  else
    let fraction := row.drop 1
    let mantissa := String.ofList (row.take 1) ++
      if fraction.isEmpty then "" else "." ++ String.ofList fraction
    let size := Numeral.decimal exponent.natAbs
    let size := if size.length < 2 then "0" ++ size else size
    mantissa ++ "e" ++ (if exponent < 0 then "-" else "+") ++ size

/-- A float as text. Infinities and the undefined float have names, which no file can hold. -/
def floatText (x : Float) : String :=
  if x.isNaN then "nan"
  else
    let sign := if x.toBits.toNat < Nat.pow 2 63 then "" else "-"
    if x.isInf then sign ++ "inf"
    else sign ++ digitsText (Decimal.Binary.ofFloat x).shortest

/-- A part of a complex number as text. -/
def partText (x : Float) : String :=
  let text := (floatText x).toList
  String.ofList (if ['.', '0'].isSuffixOf text then text.dropLast.dropLast else text)

/-- A complex number as text. A real part that is zero is left out. -/
def complexText (re im : Float) : String :=
  let imaginary := partText im ++ "j"
  if re.toBits = 0 then imaginary
  else
    let sign := if imaginary.startsWith "-" then "" else "+"
    "(" ++ partText re ++ sign ++ imaginary ++ ")"

mutual

/-- A value as a file holds it. -/
def written : Value → String
  | null => "None"
  | bool b => if b then "True" else "False"
  | int i => Numeral.decimal i
  | float x => floatText x
  | complex re im => complexText re im
  | text s => Quoted.ofText s
  | halves codes => Quoted.ofCodes codes
  | bytes b => Quoted.ofBytes b
  | buffer b => "bytearray(" ++ Quoted.ofBytes b ++ ")"
  | list xs => "[" ++ ", ".intercalate (writtenItems xs) ++ "]"
  | tuple [x] => "(" ++ written x ++ ",)"
  | tuple xs => "(" ++ ", ".intercalate (writtenItems xs) ++ ")"
  | set [] => "set()"
  | set xs => "\x7b" ++ ", ".intercalate (writtenItems xs) ++ "\x7d"
  | frozen [] => "frozenset()"
  | frozen xs => "frozenset(\x7b" ++ ", ".intercalate (writtenItems xs) ++ "\x7d)"
  | range start stop => "range(" ++ Numeral.decimal start ++ ", " ++ Numeral.decimal stop ++ ")"
  | dict entries => "\x7b" ++ ", ".intercalate (writtenEntries entries) ++ "\x7d"
  | foreign kind => "<" ++ kind ++ ">"

/-- The items of a list, each as a file holds it. -/
def writtenItems : List Value → List String
  | [] => []
  | x :: xs => written x :: writtenItems xs

/-- The entries of a dictionary, each key before its value. -/
def writtenEntries : List (Value × Value) → List String
  | [] => []
  | (k, v) :: rest => (written k ++ ": " ++ written v) :: writtenEntries rest

end

/-- A value inside a sentence. -/
def shown : Value → Words
  | text s => s
  | halves codes => ⟨codes⟩
  | v => v.written

/-- Words as a value. -/
def ofWords (words : Words) : Value := .ofCodes words.codes

/-! ### What can be written -/

mutual

/-- Whether all integers in a value can be written. -/
def legible : Value → Bool
  | int i => Numeral.isLegible i
  | list xs | tuple xs | set xs | frozen xs => allLegible xs
  | range start stop => Numeral.isLegible start && Numeral.isLegible stop
  | dict entries => entriesLegible entries
  | _ => true

/-- Whether all items can be written. -/
def allLegible : List Value → Bool
  | [] => true
  | x :: xs => legible x && allLegible xs

/-- Whether all keys and values can be written. -/
def entriesLegible : List (Value × Value) → Bool
  | [] => true
  | (k, v) :: rest => legible k && legible v && entriesLegible rest

end

/-- A value inside a sentence, if it can be written. -/
def shown? (v : Value) : Option Words := if v.legible then some v.shown else none

end DebugScopes.Value
