import DebugScopes.Text.DecimalDigit
import DebugScopes.Text.Numeral

/-!
# Integers as people write them

An integer may have blanks around it, a sign, and a mark of its base: `0x`, `0o` or `0b`. Single
underscores may stand between digits and behind the mark. Without a mark the base is ten, and then
no zero leads unless there is nothing but zeros. The digits may be those of any script.

* `Integer.ofText?` reads such an integer.
-/

namespace DebugScopes.Integer

/-- The character with the same meaning among the ASCII ones, where there is one. -/
def plain (c : Char) : Char :=
  if c.toNat < 127 then c
  else if DecimalDigit.isBlank c then ' '
  else
    match DecimalDigit.value? c with
    | some d => Char.ofNat ('0'.toNat + d)
    | none => c

/-- The value of a digit in some base of at most sixteen. -/
def digit? (base : Nat) (c : Char) : Option Nat :=
  let value :=
    if '0' ≤ c ∧ c ≤ '9' then some (c.toNat - '0'.toNat)
    else if 'a' ≤ c ∧ c ≤ 'f' then some (c.toNat - 'a'.toNat + 10)
    else if 'A' ≤ c ∧ c ≤ 'F' then some (c.toNat - 'A'.toNat + 10)
    else none
  value.filter (· < base)

/-- The digits of a number, between which single underscores may stand. -/
def digits? (base : Nat) : List Char → Option (List Nat)
  | [] => none
  | [c] => (digit? base c).map ([·])
  | c :: '_' :: rest => do
    let d ← digit? base c
    pure (d :: (← digits? base rest))
  | c :: rest => do
    let d ← digit? base c
    pure (d :: (← digits? base rest))

/-- The number that digits spell, the most significant first. -/
def ofDigits (base : Nat) (digits : List Nat) : Nat :=
  digits.foldl (fun n d => n * base + d) 0

/-- A number behind the mark of its base; one underscore may stand between them. -/
def marked? (base : Nat) : List Char → Option Nat
  | '_' :: rest => (digits? base rest).map (ofDigits base)
  | rest => (digits? base rest).map (ofDigits base)

/-- A number in base ten. -/
def unmarked? (s : List Char) : Option Nat := do
  let digits ← digits? 10 s
  let n := ofDigits 10 digits
  if digits.length ≤ Numeral.longestDecimal ∧ (digits.head? ≠ some 0 ∨ n = 0) then pure n else none

/-- A number without a sign. -/
def natural? : List Char → Option Nat
  | '0' :: mark :: rest =>
    if mark = 'x' ∨ mark = 'X' then marked? 16 rest
    else if mark = 'o' ∨ mark = 'O' then marked? 8 rest
    else if mark = 'b' ∨ mark = 'B' then marked? 2 rest
    else unmarked? ('0' :: mark :: rest)
  | s => unmarked? s

/-- A number with or without a sign. -/
def signed? : List Char → Option Int
  | '-' :: rest => (natural? rest).map fun n => -(n : Int)
  | '+' :: rest => (natural? rest).map Int.ofNat
  | s => (natural? s).map Int.ofNat

/-- Whether a character is an ASCII blank. -/
def isBlank (c : Char) : Bool := c == ' ' || (0x09 ≤ c.toNat && c.toNat ≤ 0x0D)

/-- The text without the blanks around it. -/
def trim (s : List Char) : List Char :=
  ((s.dropWhile isBlank).reverse.dropWhile isBlank).reverse

/-- The integer that a text spells. -/
def ofText? (text : String) : Option Int := signed? (trim (text.toList.map plain))

end DebugScopes.Integer
