import DebugScopes.Value.Hash

/-!
# The members of a set

A set keeps its members in a table of places, and they are written in the order of the places. The
hash of a member says which place is tried first. From there the next few are tried, as far as the
table goes on, and then those from another place on, which the hash decides too. A table that is
full by three fifths is replaced by one four times as large.

* `Members.ofList` are the members of a set that is written with these items.

A set that is made of another one keeps the order. Where the hash of a member is not known, the
order is that of the items.
-/

namespace DebugScopes.Members

/-- The places of a table, with the members that stand in them and their hashes. -/
abbrev Table := Array (Option (UInt64 × Value))

namespace Table

/-- A table without members. -/
def empty (size : Nat) : Table := Array.replicate size none

/-- The least size of a table. -/
def leastSize : Nat := 8

/-- The size of a table that has to have more places than a number: a power of two. -/
def sizeAbove (n : Nat) : Nat := max leastSize (Nat.pow 2 (Nat.log2 n + 1))

/-- The number of places behind the first one that are tried in a row. -/
def reach : Nat := 9

/-- The first free place in a row of them. -/
def free? (t : Table) (first : Nat) : Option Nat :=
  let count := if first + reach < t.size then reach + 1 else 1
  (List.range' first count).find? fun i => t[i]? matches some none

/-- The place for a hash: a row that has no free place is left for another one, which what is left
of the hash decides. -/
def placeFor (t : Table) (first : Nat) (left : UInt64) : (tries : Nat) → Option Nat
  | 0 => none
  | tries + 1 =>
    match t.free? first with
    | some i => some i
    | none =>
      let left := left >>> 5
      t.placeFor ((first * 5 + 1 + left.toNat) % t.size) left tries

/-- The number of rows that are tried: nothing is left of a hash after thirteen, and from then on
every place comes first in a row once. -/
def tries (t : Table) : Nat := t.size + 13

/-- Puts a member in its place. -/
def put (t : Table) (hash : UInt64) (v : Value) : Table :=
  match t.placeFor (hash.toNat % t.size) hash t.tries with
  | some i => t.setIfInBounds i (some (hash, v))
  | none => t

/-- The table of another size with the same members. -/
def resized (t : Table) (size : Nat) : Table :=
  t.foldl
    (fun found place =>
      match place with
      | some (hash, v) => found.put hash v
      | none => found)
    (empty size)

/-- Whether a table with that many members is too full for its size. -/
def isFull (size members : Nat) : Bool := 3 * (size - 1) ≤ 5 * members

/-- The number of members from which on a table grows more slowly. -/
def large : Nat := 50000

/-- Puts a member in a table with that many members, which may have to grow. -/
def add (t : Table) (members : Nat) (hash : UInt64) (v : Value) : Table :=
  let found := t.put hash v
  let count := members + 1
  if isFull t.size count then
    found.resized (sizeAbove (if large < count then count * 2 else count * 4))
  else found

/-- The table of a row of members. -/
def ofRow (t : Table) (members : Nat) : List (UInt64 × Value) → Table
  | [] => t
  | (hash, v) :: rest => (t.add members hash v).ofRow (members + 1) rest

/-- The table of a set that is made of the one with this table. -/
def copied (t : Table) (members : Nat) : Table :=
  let size := if isFull leastSize members then sizeAbove (members * 2) else leastSize
  if size = t.size then t else t.resized size

/-- The members by their places, with their hashes. -/
def rows (t : Table) : List (UInt64 × Value) := t.toList.filterMap id

/-- The members by their places. -/
def members (t : Table) : List Value := t.rows.map (·.2)

end Table

/-- Puts a member in at the end, unless it is there. -/
def insert (members : List Value) (v : Value) : List Value :=
  if members.any fun w => w.same v then members else members ++ [v]

/-- The members with their hashes, if these are known. -/
def hashed? (members : List Value) : Option (List (UInt64 × Value)) :=
  members.mapM fun v => v.hash?.map fun hash => (hash, v)

/-- The table of a set into which the members are put one by one. -/
def gathered (rows : List (UInt64 × Value)) : Table := (Table.empty Table.leastSize).ofRow 0 rows

/-- The most items that are put into their set at once. More are gathered in another one first, and
those from there in a second one, of which the set is made. -/
def fewItems : Nat := 2

/-- The members of a set that is written with these items. -/
def ofList (items : List Value) : List Value :=
  let members := items.foldl insert []
  match hashed? members with
  | none => members
  | some rows =>
    if items.length ≤ fewItems then (gathered rows).members
    else ((gathered (gathered rows).rows).copied rows.length).members

end DebugScopes.Members
