import DebugScopes.Value.Basic

/-!
# Hashes of values

The members of a set stand in an order that comes of their hashes. Numbers that are equal have the
same hash, whatever their kind: it is the number modulo a prime, and a fraction is one there too,
since two has an inverse. The hash of a tuple mixes those of its items.

* `Value.hash?` is the hash of a value. Text and byte strings have one that differs from run to run,
  unless they are empty, and so it is not known here; neither are those of the other values.
-/

namespace DebugScopes.Value

/-- The prime by which numbers are hashed. -/
def hashPrime : Nat := Nat.pow 2 61 - 1

/-- A hash is never the last code; the one before it stands in. -/
def settled (h : UInt64) : UInt64 := if h = 0 - 1 then 0 - 2 else h

/-- The hash of a number with a sign. -/
def hashSigned (negative : Bool) (n : Nat) : UInt64 :=
  let h := UInt64.ofNat (n % hashPrime)
  settled (if negative then 0 - h else h)

/-- The hash of an integer. -/
def hashInt (i : Int) : UInt64 := hashSigned (i < 0) i.natAbs

/-- The hash of an infinity, without its sign. -/
def hashInfinity : UInt64 := 314159

/-- The hash of a float; the undefined one has none of its own. A power of two depends on the
exponent modulo 61 only. -/
def hashFloat? (x : Float) : Option UInt64 :=
  if x.isNaN then none
  else if x.isInf then some (if x < 0 then 0 - hashInfinity else hashInfinity)
  else
    let v := Decimal.Binary.ofFloat x
    some (hashSigned (x < 0) (v.mantissa * Nat.pow 2 (v.exponent % 61).toNat))

/-- The hash of a complex number. -/
def hashComplex? (re im : Float) : Option UInt64 := do
  some (settled ((← hashFloat? re) + 1000003 * (← hashFloat? im)))

/-! ### Tuples -/

def tuplePrime₁ : UInt64 := 11400714785074694791
def tuplePrime₂ : UInt64 := 14029467366897019727
def tuplePrime₅ : UInt64 := 2870177450012600261

/-- Mixes the hash of one more item in. -/
def mixed (sum item : UInt64) : UInt64 :=
  let sum := sum + item * tuplePrime₂
  ((sum <<< 31) ||| (sum >>> 33)) * tuplePrime₁

/-- The hash of a tuple with that many items, which are mixed in. -/
def hashMixed (items : Nat) (sum : UInt64) : UInt64 :=
  let h := sum + ((UInt64.ofNat items) ^^^ (tuplePrime₅ ^^^ 3527539))
  if h = 0 - 1 then 1546275796 else h

mutual

/-- The hash of a value, if it is known. -/
def hash? : Value → Option UInt64
  | bool b => some (hashInt (if b then 1 else 0))
  | int i => some (hashInt i)
  | float x => hashFloat? x
  | complex re im => hashComplex? re im
  | text s => if s.isEmpty then some 0 else none
  | bytes b => if b.isEmpty then some 0 else none
  | tuple xs => (mixItems? tuplePrime₅ xs).map (hashMixed xs.length)
  | _ => none

/-- Mixes the hashes of all items in. -/
def mixItems? (sum : UInt64) : List Value → Option UInt64
  | [] => some sum
  | x :: xs =>
    match hash? x with
    | some h => mixItems? (mixed sum h) xs
    | none => none

end

end DebugScopes.Value
