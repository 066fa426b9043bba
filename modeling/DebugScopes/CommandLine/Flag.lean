import DebugScopes.Text.DecimalDigit

/-!
# Flags

The command line is a row of arguments. One that starts with a dash is a flag, unless it is a lone
dash, looks like a negative number or has a space in it. A long flag may be cut short as long as it
stays clear which one is meant. A value can be attached to its flag, behind a sign (`--pc=7`) or, if
the flag is short, without one (`-ix`).

* `Piece.read` says what one argument is;
* `Piece.readAll` reads all arguments; everything behind `--` is plain.
-/

namespace DebugScopes.CommandLine

/-- A flag. -/
inductive Flag
  | help
  | image
  | graph
  | counter
  | list
  | verbose
  | version
deriving DecidableEq, Repr

namespace Flag

/-- All spellings of flags. -/
def spellings : List (String × Flag) := [
  ("-h", help), ("--help", help), ("-i", image), ("--image", image), ("--dot", graph),
  ("--pc", counter), ("--list", list), ("-v", verbose), ("--verbose", verbose),
  ("--version", version)]

/-- The flag of a spelling. -/
def ofSpelling? (s : List Char) : Option Flag :=
  (spellings.find? fun row => row.1.toList == s).map (·.2)

/-- The flags whose spelling starts in this way. -/
def startingWith (s : List Char) : List Flag :=
  (spellings.filter fun row => s.isPrefixOf row.1.toList).map (·.2)

/-- Whether a flag takes a value. -/
def takesValue : Flag → Bool
  | image | graph | counter => true
  | _ => false

end Flag

/-- What an argument is. A flag may have a text attached. -/
inductive Piece
  | plain (text : String)
  /-- The mark behind which everything is plain. -/
  | stop
  | flag (flag : Flag) (short : Bool) (attached : Option (List Char))
  /-- A flag that does not exist. -/
  | unknown
deriving DecidableEq, Repr

namespace Piece

/-! ### One argument -/

/-- Whether the characters are decimal digits, and not none. -/
def isNumber (s : List Char) : Bool := !s.isEmpty && s.all DecimalDigit.isDigit

/-- The text without the line end at its end. -/
def dropLineEnd (s : List Char) : List Char :=
  if s.getLast? = some '\n' then s.dropLast else s

/-- Whether what follows a dash makes it a negative number: digits, perhaps with a point before the
last of them. -/
def isNegative (s : List Char) : Bool :=
  let s := dropLineEnd s
  isNumber s ||
    match s.dropWhile DecimalDigit.isDigit with
    | '.' :: fraction => isNumber fraction
    | _ => false

/-- A text up to the first sign, and what is attached behind it. -/
def cut (s : List Char) : List Char × Option (List Char) :=
  match s.dropWhile (· != '=') with
  | [] => (s, none)
  | _ :: behind => (s.takeWhile (· != '='), some behind)

/-- The readings of an argument as a flag that is cut short, or as a short one with a value. -/
def readings (s : List Char) : List Piece :=
  match s with
  | '-' :: '-' :: _ =>
    let (front, attached) := cut s
    (Flag.startingWith front).map fun f => .flag f false attached
  | '-' :: c :: behind =>
    match Flag.ofSpelling? ['-', c] with
    | some f => [.flag f true (some behind)]
    | none => []
  | _ => []

/-- Whether a spelling is a short one. -/
def isShort (s : List Char) : Bool := s.length == 2

/-- What an argument is, spelled out. -/
def spelled? (s : List Char) : Option Piece :=
  match Flag.ofSpelling? s with
  | some f => some (.flag f (isShort s) none)
  | none =>
    match cut s with
    | (front, some attached) =>
      (Flag.ofSpelling? front).map fun f => .flag f (isShort front) (some attached)
    | _ => none

/-- What an argument is, or nothing if it may be several flags. -/
def read (arg : String) : Option Piece :=
  match arg.toList with
  | [] | ['-'] => some (.plain arg)
  | c :: behind =>
    if c ≠ '-' then some (.plain arg)
    else
      match spelled? (c :: behind) with
      | some piece => some piece
      | none =>
        match readings (c :: behind) with
        | [piece] => some piece
        | [] =>
          if isNegative behind || behind.contains ' ' then some (.plain arg) else some .unknown
        | _ => none

/-! ### All arguments -/

/-- What the arguments are, or nothing if one may be several flags. -/
def readAll : List String → Option (List Piece)
  | [] => some []
  | "--" :: rest => some (.stop :: rest.map .plain)
  | arg :: rest => do
    let piece ← read arg
    pure (piece :: (← readAll rest))

end Piece

end DebugScopes.CommandLine
