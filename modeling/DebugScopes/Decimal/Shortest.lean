import DebugScopes.Text.Numeral

/-!
# Binary fractions and their shortest decimals

A double is a natural number times a power of two (`Binary`). It is written with the fewest decimal
digits that read back as the same double: for one digit, two digits and so on, the two neighbours of
the value on that decimal grid are tried, and of two that read back the nearer is taken, the even
one if they are equally near. All of it is exact arithmetic on natural numbers.

* `Binary.ofFloat` takes a finite double apart;
* `Binary.shortest` gives its digits and the place of the point;
* `Binary.compareInt` compares its value with an integer.
-/

namespace DebugScopes.Decimal

/-- The magnitude `mantissa * 2 ^ exponent`. `tight` holds where the doubles below lie twice as
close as those above, at a power of two. -/
structure Binary where
  mantissa : Nat
  exponent : Int
  tight : Bool
deriving DecidableEq, Repr

/-- The digits of a decimal, most significant first, and the place of its point:
`0.d₁d₂… * 10 ^ point`. -/
structure Digits where
  digits : String
  point : Int
deriving DecidableEq, Repr

/-- The positive part of an exponent. -/
def raised (e : Int) : Nat := e.toNat

/-- The negative part of an exponent. -/
def lowered (e : Int) : Nat := (-e).toNat

namespace Binary

/-- The magnitude of a finite double. -/
def ofFloat (x : Float) : Binary :=
  let bits : Nat := x.toBits.toNat
  let fraction : Nat := bits % Nat.pow 2 52
  let field : Nat := bits / Nat.pow 2 52 % Nat.pow 2 11
  if field = 0 then ⟨fraction, -1074, false⟩
  else ⟨Nat.pow 2 52 + fraction, (field : Int) - 1075, fraction = 0 && 1 < field⟩

/-- The magnitude as a quotient: numerator and denominator. -/
def quotient (v : Binary) : Nat × Nat :=
  (v.mantissa * Nat.pow 2 (raised v.exponent), Nat.pow 2 (lowered v.exponent))

/-- The number of digits before the point; not above zero for a magnitude below one. -/
def places (v : Binary) : Int :=
  let (n, d) := v.quotient
  if d ≤ n then (Nat.toDigits 10 (n / d)).length
  else
    let l := (Nat.toDigits 10 (d / n)).length
    if d = n * Nat.pow 10 (l - 1) then 2 - (l : Int) else 1 - (l : Int)

/-- Whether `count * 10 ^ place` reads back as this double: it lies between the midpoints to the
neighbours, and a midpoint itself reads back when the mantissa is even. -/
def readsBack (v : Binary) (count : Nat) (place : Int) : Bool :=
  let tested := 4 * count * Nat.pow 10 (raised place) * Nat.pow 2 (lowered v.exponent)
  let unit := Nat.pow 2 (raised v.exponent) * Nat.pow 10 (lowered place)
  let low := (4 * v.mantissa - if v.tight then 1 else 2) * unit
  let high := (4 * v.mantissa + 2) * unit
  if v.mantissa % 2 = 0 then low ≤ tested && tested ≤ high else low < tested && tested < high

/-- The number of whole steps `10 ^ place` in the magnitude. -/
def steps (v : Binary) (place : Int) : Nat :=
  let (n, d) := v.quotient
  n * Nat.pow 10 (lowered place) / (d * Nat.pow 10 (raised place))

/-- Of the two neighbours on the grid `10 ^ place`, the one that reads back and is nearer. -/
def onGrid (v : Binary) (place : Int) : Option Nat :=
  let low := v.steps place
  let high := low + 1
  match v.readsBack low place, v.readsBack high place with
  | false, false => none
  | true, false => some low
  | false, true => some high
  | true, true =>
    let (n, d) := v.quotient
    match compare (2 * n * Nat.pow 10 (lowered place))
        ((low + high) * d * Nat.pow 10 (raised place)) with
    | .lt => some low
    | .gt => some high
    | .eq => some (if low % 2 = 0 then low else high)

/-- Tries grids of `tried`, `tried + 1`, … digits, `left` of them at most. -/
def search (v : Binary) (tried : Nat) : (left : Nat) → Option (Nat × Int)
  | 0 => none
  | left + 1 =>
    let place := v.places - tried
    match v.onGrid place with
    | some count => some (count, place)
    | none => search v (tried + 1) left

/-- Takes the zeros off the end of a row of digits; one digit is kept. -/
def trimZeros (digits : List Char) : List Char :=
  match (digits.reverse.dropWhile (· == '0')).reverse with
  | [] => ['0']
  | kept => kept

/-- The fewest digits that read back. Seventeen always do. -/
def shortest (v : Binary) : Digits :=
  if v.mantissa = 0 then ⟨"0", 1⟩
  else
    match v.search 1 17 with
    | some (count, place) =>
      let row := Nat.toDigits 10 count
      ⟨String.ofList (trimZeros row), row.length + place⟩
    | none => ⟨"0", 1⟩

/-- Compares the magnitude, with a sign in front, with an integer. -/
def compareInt (v : Binary) (negative : Bool) (i : Int) : Ordering :=
  let (n, d) := v.quotient
  compare (if negative then -(n : Int) else n) (i * d)

end Binary

end DebugScopes.Decimal
