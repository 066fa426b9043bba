import DebugScopes.Text.Numeral

/-!
# Ranges of code

A range holds the program counters from its low bound up to its high bound, which is not in it. A
range is open while its high bound is not known; it then holds nothing.
-/

namespace DebugScopes

/-- A range of program counters. It is open while `high` is missing. -/
structure CodeRange where
  low : Int
  high : Option Int
deriving DecidableEq, Repr

namespace CodeRange

/-- Whether the high bound is not known yet. -/
def isOpen (r : CodeRange) : Bool := r.high.isNone

/-- Whether a program counter lies in the range. -/
def includes (r : CodeRange) (pc : Int) : Bool :=
  match r.high with
  | some high => r.low ≤ pc && pc < high
  | none => false

/-- A range as text. -/
def text (r : CodeRange) : String :=
  match r.high with
  | some high => "[" ++ Numeral.hex r.low ++ ".." ++ Numeral.hex high ++ ")"
  | none => "[" ++ Numeral.hex r.low ++ "..?)"

end CodeRange

end DebugScopes
