import DebugScopes.Abbreviation.Declaration

/-!
# The index of an abbreviation table

One scan over the table notes where each declaration starts, without reading it: behind the code
come two bytes of any value, and then bytes up to two zeros in a row. A zero in the place of a code
ends the table. Declarations are read when they are first asked for, and kept.

* `Index.scan` makes the index;
* `Index.lookup` finds a code, for which the first declaration counts;
* `Index.declare` gives a declaration, and the index that keeps it.
-/

namespace DebugScopes

/-- A declared code, where its declaration starts, and the declaration once it has been read. -/
structure Abbreviation where
  code : Nat
  offset : Int
  declaration : Option Declaration
deriving DecidableEq, Repr

/-- An abbreviation as text. -/
def Abbreviation.text (a : Abbreviation) : String :=
  "Abbreviation(code=" ++ Numeral.decimal a.code ++ ", offset=" ++
    Numeral.markedHex a.offset ++ ")"

/-- The abbreviations of a table in their order, and where the table ends. -/
structure Abbreviation.Index where
  table : Array Abbreviation
  stop : Int
deriving DecidableEq, Repr

namespace Abbreviation.Index

/-! ### Scanning -/

/-- Moves behind the next two zeros in a row; `afterZero` says that one has just been read. -/
def skipBody (s : Segment) (afterZero : Bool) : Read Unit := fun pos =>
  match _read : within .tableBody s.byte pos with
  | .error e after => .error e after
  | .ok b after =>
    if b = 0 ∧ afterZero then .ok () after else skipBody s (b == 0) after
termination_by pos => (s.length - pos).toNat
decreasing_by
  have moved := Segment.byte_ok (Segment.within_ok _read)
  omega

theorem skipBody_ok {s : Segment} {afterZero : Bool} {pos after : Int}
    (read : skipBody s afterZero pos = .ok () after) : pos < after ∧ after ≤ s.length := by
  fun_induction skipBody s afterZero pos generalizing after with
  | case1 => cases read
  | case2 afterZero pos b between found closed =>
    have moved := Segment.byte_ok (Segment.within_ok found)
    cases read; omega
  | case3 afterZero pos b between found goes_on ih =>
    have moved := Segment.byte_ok (Segment.within_ok found)
    have further := ih read
    omega

/-- The code of a declaration; behind it the position is at the next one. A zero ends the table. -/
def scanOne (s : Segment) : Read Nat := do
  let code ← within .tableCode s.byte
  if code = 0 then pure 0
  else
    let _ ← s.byte
    let _ ← s.byte
    skipBody s false
    pure code

theorem scanOne_ok {s : Segment} {pos after : Int} {code : Nat}
    (read : scanOne s pos = .ok code after) : pos < after ∧ pos < s.length := by
  obtain ⟨found, between, first, read⟩ := Segment.bind_ok read
  have moved := Segment.byte_ok (Segment.within_ok first)
  by_cases ended : found = 0
  · rw [if_pos ended] at read
    cases read; omega
  · rw [if_neg ended] at read
    obtain ⟨_, _, second, read⟩ := Segment.bind_ok read
    obtain ⟨_, _, third, read⟩ := Segment.bind_ok read
    obtain ⟨_, _, body, read⟩ := Segment.bind_ok read
    have second := Segment.byte_ok second
    have third := Segment.byte_ok third
    have body := skipBody_ok body
    cases read; omega

/-- The abbreviations from a position on. -/
def scanFrom (s : Segment) : Read (List Abbreviation) := fun pos =>
  match _read : scanOne s pos with
  | .error e after => .error e after
  | .ok code after =>
    if code = 0 then .ok [] after
    else
      match scanFrom s after with
      | .error e after => .error e after
      | .ok rest after => .ok (⟨code, pos, none⟩ :: rest) after
termination_by pos => (s.length - pos).toNat
decreasing_by
  have moved := scanOne_ok _read
  omega

/-- The index of the table that starts at a position. -/
def scan (s : Segment) (start : Int) : Except Failure Index :=
  match scanFrom s start with
  | .ok rows stop => .ok ⟨rows.toArray, stop⟩
  | .error e _ => .error e

/-! ### Looking up -/

/-- The number of declarations. -/
def size (index : Index) : Nat := index.table.size

/-- The place of the first declaration of a code. -/
def find? (index : Index) (code : Int) : Option (Fin index.table.size) :=
  index.table.findFinIdx? fun a => (a.code : Int) == code

/-- Whether a code is declared. -/
def contains (index : Index) (code : Int) : Bool := (index.find? code).isSome

/-- The place of a code, which has to be declared. -/
def lookup (index : Index) (code : Int) : Except Damage (Fin index.table.size) :=
  match index.find? code with
  | some place => .ok place
  | none => .error (.noAbbreviation code)

/-- The declarations of codes that stand in the table before. -/
def duplicatesAfter (seen : List Nat) : List Abbreviation → List Abbreviation
  | [] => []
  | a :: rest =>
    if seen.contains a.code then a :: duplicatesAfter seen rest
    else duplicatesAfter (a.code :: seen) rest

/-- The declarations that do not count, since their code has been declared before. -/
def duplicates (index : Index) : List Abbreviation := duplicatesAfter [] index.table.toList

/-! ### Declarations -/

/-- Reads the declaration of an abbreviation, unless it has been read before. A failure leaves
nothing behind. -/
def declareOne (s : Segment) (a : Abbreviation) : Except Failure (Declaration × Abbreviation) :=
  match a.declaration with
  | some d => .ok (d, a)
  | none =>
    match Declaration.read s a.offset with
    | .ok d _ => .ok (d, { a with declaration := some d })
    | .error e _ => .error e

/-- The declaration in a place of the table, and the index that keeps it. -/
def declare (index : Index) (s : Segment) (place : Fin index.table.size) :
    Except Failure (Declaration × Index) :=
  match declareOne s index.table[place] with
  | .ok (d, a) => .ok (d, { index with table := index.table.set place a })
  | .error e => .error e

end Abbreviation.Index

end DebugScopes
