/-!
# Numerals

Integers as the reports write them. The sign comes first, then the base mark, then the digits:
`-0x1f`. In a padded numeral the sign counts as one of the places: `-001` has four.

* `Numeral.decimal`, `Numeral.hex`: plain digits in base ten and sixteen;
* `Numeral.markedHex`: base sixteen behind `0x`;
* `Numeral.paddedHex`: base sixteen, filled up with zeros to a least number of places.

In base ten an integer may have `longestDecimal` digits; `isLegible` says whether it has no more.
-/

namespace DebugScopes.Numeral

/-- The digits of a natural number, most significant first; zero has one digit. -/
def digits (base n : Nat) : String :=
  String.ofList (Nat.toDigits base n)

/-- The sign of a numeral: nothing unless the number is negative. -/
def sign (n : Int) : String :=
  if n < 0 then "-" else ""

/-- Base ten. -/
def decimal (n : Int) : String :=
  sign n ++ digits 10 n.natAbs

/-- The most digits of an integer in base ten. -/
def longestDecimal : Nat := 4300

/-- Whether an integer has no more digits in base ten than are written. Hardly any comes near the
bound, so a small one is tried first. -/
def isLegible (n : Int) : Bool := n.natAbs < Nat.pow 2 64 || n.natAbs < Nat.pow 10 longestDecimal

/-- What is said of an integer that has more digits. -/
def illegible : String :=
  "Exceeds the limit (" ++ decimal longestDecimal ++ " digits) for integer string conversion; " ++
    "use sys.set_int_max_str_digits() to increase the limit"

/-- Base sixteen, without a mark. -/
def hex (n : Int) : String :=
  sign n ++ digits 16 n.natAbs

/-- Base sixteen behind the mark `0x`. -/
def markedHex (n : Int) : String :=
  sign n ++ "0x" ++ digits 16 n.natAbs

/-- Base sixteen in at least `places` places, the sign included; zeros fill what is left. -/
def paddedHex (places : Nat) (n : Int) : String :=
  let body := digits 16 n.natAbs
  let filled := places - (sign n).length - body.length
  sign n ++ String.ofList (List.replicate filled '0') ++ body

end DebugScopes.Numeral
