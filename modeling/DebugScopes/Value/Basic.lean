import DebugScopes.Decimal.Shortest

/-!
# Values of settings files

Settings and image snapshots are stored as values of this type, and messages show them. Numbers are
compared by what they denote: `true` equals `1` equals `1.0`, and an integer is never rounded for a
comparison. A dictionary keeps the order in which its keys came in; a key that equals one already
there keeps the old key and takes the new value.

* `Value.same` is equality, `Value.isTrue` the truth value of a setting;
* `Value.hashable` says which values may be keys;
* `Entries.find?` and `Entries.insert` look a key up and put one in.
-/

namespace DebugScopes

/-- A value of a settings file. `halves` is a text, given by its codes, in which halves of surrogate
pairs stand alone; no string holds it. A `buffer` is a byte string that may still change, as a `set`
may and a `frozen` set may not. A `range` holds the integers from its start to before its end. A
`foreign` value belongs to the program that made it, and only the name of its kind is known. -/
inductive Value
  | null
  | bool (b : Bool)
  | int (i : Int)
  | float (x : Float)
  | complex (re im : Float)
  | text (s : String)
  | halves (codes : List Nat)
  | bytes (b : List UInt8)
  | buffer (b : List UInt8)
  | list (items : List Value)
  | tuple (items : List Value)
  | set (members : List Value)
  | frozen (members : List Value)
  | range (start stop : Int)
  | dict (entries : List (Value × Value))
  | foreign (kind : String)
deriving Inhabited, Repr

/-- The keys and values of a dictionary, in the order in which the keys came in. -/
abbrev Entries := List (Value × Value)

namespace Value

/-- What a numeric value denotes. -/
inductive Numeric
  | int (i : Int)
  | float (x : Float)

/-- The number that a value denotes; a truth value denotes zero or one. -/
def numeric? : Value → Option Numeric
  | bool b => some (.int (if b then 1 else 0))
  | int i => some (.int i)
  | float x => some (.float x)
  | _ => none

/-- The order of two numbers, without rounding; none if one of them is not a number. -/
def Numeric.compare? : Numeric → Numeric → Option Ordering
  | .int i, .int j => some (compare i j)
  | .float x, .float y =>
    if x < y then some .lt else if x == y then some .eq else if y < x then some .gt else none
  | .float x, .int i => against x i
  | .int i, .float x => (against x i).map Ordering.swap
where
  /-- Compares a double with an integer. -/
  against (x : Float) (i : Int) : Option Ordering :=
    if x.isNaN then none
    else if x.isInf then some (if x < 0 then .lt else .gt)
    else some ((Decimal.Binary.ofFloat x).compareInt (x < 0) i)

/-- The bytes of a byte string, fixed or not. -/
def byteString? : Value → Option (List UInt8)
  | bytes b | buffer b => some b
  | _ => none

/-- The members of a set, fixed or not. -/
def members? : Value → Option (List Value)
  | set xs | frozen xs => some xs
  | _ => none

/-- The text with these codes. -/
def ofCodes (codes : List Nat) : Value :=
  if codes.all (·.isValidChar) then text (String.ofList (codes.map Char.ofNat)) else halves codes

/-! ### Equality, truth, keys -/

/-- Whether a value denotes the given number. -/
def sameNumber (x : Numeric) (y : Value) : Bool :=
  match y with
  | complex re im => im == 0 && x.compare? (.float re) == some .eq
  | y =>
    match y.numeric? with
    | some y => x.compare? y == some .eq
    | none => false

mutual

/-- Equality of values. Dictionaries are equal when they hold the same keys with the same values, in
whatever order, and sets when they have the same members. Foreign values equal none. -/
def same : Value → Value → Bool
  | null, null => true
  | text s, text t => s == t
  | halves s, halves t => s == t
  | list xs, list ys => sameItems xs ys
  | tuple xs, tuple ys => sameItems xs ys
  | dict xs, dict ys => xs.length == ys.length && sameEntries xs ys
  | set xs, y | frozen xs, y =>
    match y.members? with
    | some ys => xs.length == ys.length && allAmong xs ys
    | none => false
  | range a b, range c d => (b ≤ a && d ≤ c) || (a == c && b == d)
  | bytes b, y => y.byteString? == some b
  | buffer b, y => y.byteString? == some b
  | bool b, y => sameNumber (.int (if b then 1 else 0)) y
  | int i, y => sameNumber (.int i) y
  | float x, y => sameNumber (.float x) y
  | complex re im, complex re' im' => re == re' && im == im'
  | complex re im, y => im == 0 && sameNumber (.float re) y
  | _, _ => false
termination_by structural v => v

/-- Whether two lists are equal item by item. -/
def sameItems : List Value → List Value → Bool
  | [], [] => true
  | x :: xs, y :: ys => same x y && sameItems xs ys
  | _, _ => false
termination_by structural xs => xs

/-- Whether every key of the first dictionary stands in the second, with an equal value. -/
def sameEntries : List (Value × Value) → List (Value × Value) → Bool
  | [], _ => true
  | (k, v) :: rest, ys => ys.any (fun (l, w) => same k l && same v w) && sameEntries rest ys
termination_by structural xs => xs

/-- Whether all items stand among others. -/
def allAmong : List Value → List Value → Bool
  | [], _ => true
  | x :: xs, ys => ys.any (fun y => same x y) && allAmong xs ys
termination_by structural xs => xs

end

/-- The truth value of a setting: null, zero and what is empty are false. -/
def isTrue : Value → Bool
  | null => false
  | bool b => b
  | int i => i != 0
  | float x => !(x == 0)
  | complex re im => !(re == 0 && im == 0)
  | text s => !s.isEmpty
  | halves codes => !codes.isEmpty
  | bytes b | buffer b => !b.isEmpty
  | list xs | tuple xs | set xs | frozen xs => !xs.isEmpty
  | range start stop => start < stop
  | dict entries => !entries.isEmpty
  | foreign _ => true

mutual

/-- Whether a value may be a key: nothing in it can change. -/
def hashable : Value → Bool
  | list _ | dict _ | buffer _ | set _ => false
  | tuple xs => allHashable xs
  | _ => true

/-- Whether all items may be keys. -/
def allHashable : List Value → Bool
  | [] => true
  | x :: xs => hashable x && allHashable xs

end

/-- The integer of a value that counts as one; truth values do. -/
def int? : Value → Option Int
  | int i => some i
  | bool b => some (if b then 1 else 0)
  | _ => none

/-- The items that a value is made of: those of a list or a set, the keys of a dictionary, the
letters of a text, the numbers of a byte string or a range. -/
def items? : Value → Option (List Value)
  | list xs | tuple xs | set xs | frozen xs => some xs
  | dict entries => some (entries.map (·.1))
  | text s => some (s.toList.map fun c => text (String.ofList [c]))
  | halves codes => some (codes.map fun code => ofCodes [code])
  | bytes b | buffer b => some (b.map fun byte => int byte.toNat)
  | range start stop =>
    some ((List.range (stop - start).toNat).map fun (k : Nat) => int (start + k))
  | _ => none

end Value

/-! ### Dictionaries -/

namespace Entries

/-- The value of a key. -/
def find? (entries : Entries) (key : Value) : Option Value :=
  (List.find? (fun entry => entry.1.same key) entries).map (·.2)

/-- Puts a key in at the end, or gives a key that is there a new value. -/
def insert (entries : Entries) (key value : Value) : Entries :=
  match entries with
  | [] => [(key, value)]
  | (k, v) :: rest => if k.same key then (k, value) :: rest else (k, v) :: insert rest key value

/-- Puts in all entries of the second dictionary, in their order. -/
def overlay (entries above : Entries) : Entries :=
  above.foldl (fun found entry => Entries.insert found entry.1 entry.2) entries

/-- The dictionary of a row of keys and values. -/
def ofList (rows : List (Value × Value)) : Entries :=
  overlay [] rows

end Entries

end DebugScopes
