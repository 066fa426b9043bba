import DebugScopes.Text.Numeral
import DebugScopes.Text.Printable

/-!
# Quoted text and bytes

Stored files write text and byte strings between quotation marks. The mark is the apostrophe, or
the double quote for a string that holds apostrophes and no double quote. A backslash escapes the
mark and itself; tab, line feed and return have letters of their own; any other character that is
not shown is written by its code, in the shortest of the widths two, four and eight.

* `Quoted.encode` writes a string with its marks;
* `Quoted.decodeBody` reads up to the closing mark. It knows more escapes than `encode` writes, and
  more marks, since a file may have been edited by hand.

A byte string is handled as the characters with the codes of its bytes (`Alphabet.bytes`): it shows
ASCII only and has no escapes wider than two digits. What is read is a row of codes, since an escape
may stand for half of a surrogate pair, which is no character.
-/

namespace DebugScopes.Quoted

/-- What a quoted string is made of. -/
inductive Alphabet
  | text
  | bytes
deriving DecidableEq, Repr

/-- Whether a character is written as itself (the mark and the backslash apart). -/
def Alphabet.shows : Alphabet → Char → Bool
  | .text, c => Printable.isPrintable c
  | .bytes, c => 0x20 ≤ c.toNat && c.toNat < 0x7F

/-! ### Writing -/

/-- The quotation mark for a string. -/
def markFor (s : List Char) : Char :=
  if s.contains '\'' && !s.contains '"' then '"' else '\''

/-- A character that is not shown, by its code. -/
def escapeCode (c : Char) : List Char :=
  let n := c.toNat
  if n < 0x100 then '\\' :: 'x' :: (Numeral.paddedHex 2 n).toList
  else if n < 0x10000 then '\\' :: 'u' :: (Numeral.paddedHex 4 n).toList
  else '\\' :: 'U' :: (Numeral.paddedHex 8 n).toList

/-- One character of a string, as it stands between the marks. -/
def escape (alphabet : Alphabet) (mark c : Char) : List Char :=
  if c = mark ∨ c = '\\' then ['\\', c]
  else if c = '\t' then ['\\', 't']
  else if c = '\n' then ['\\', 'n']
  else if c = '\r' then ['\\', 'r']
  else if alphabet.shows c then [c]
  else escapeCode c

/-- A string between its marks. -/
def encode (alphabet : Alphabet) (s : List Char) : List Char :=
  let mark := markFor s
  mark :: (s.flatMap (escape alphabet mark) ++ [mark])

/-- A text between its marks. -/
def ofText (s : String) : String :=
  String.ofList (encode .text s.toList)

/-- A code that is no character. -/
def escapeHalf (code : Nat) : List Char := '\\' :: 'u' :: (Numeral.paddedHex 4 code).toList

/-- A text between its marks, given by its codes. -/
def ofCodes (codes : List Nat) : String :=
  let mark := markFor ((codes.filter (·.isValidChar)).map Char.ofNat)
  let one (code : Nat) : List Char :=
    if code.isValidChar then escape .text mark (Char.ofNat code) else escapeHalf code
  String.ofList (mark :: (codes.flatMap one ++ [mark]))

/-- A byte string between its marks, behind the letter that tells it from text. -/
def ofBytes (bytes : List UInt8) : String :=
  String.ofList ('b' :: encode .bytes (bytes.map fun b => Char.ofNat b.toNat))

/-! ### Reading -/

/-- The value of a digit in base sixteen, in either case. -/
def hexDigit? (c : Char) : Option Nat :=
  if '0' ≤ c ∧ c ≤ '9' then some (c.toNat - '0'.toNat)
  else if 'a' ≤ c ∧ c ≤ 'f' then some (c.toNat - 'a'.toNat + 10)
  else if 'A' ≤ c ∧ c ≤ 'F' then some (c.toNat - 'A'.toNat + 10)
  else none

/-- The value of a digit in base eight. -/
def octalDigit? (c : Char) : Option Nat :=
  if '0' ≤ c ∧ c ≤ '7' then some (c.toNat - '0'.toNat) else none

/-- The number that the first `count` characters spell in base sixteen, and what follows. -/
def hexNumber? : (count : Nat) → (value : Nat) → List Char → Option (Nat × List Char)
  | 0, value, s => some (value, s)
  | count + 1, value, c :: rest =>
    match hexDigit? c with
    | some d => hexNumber? count (value * 16 + d) rest
    | none => none
  | _ + 1, _, [] => none

/-- Up to `count` further digits in base eight, and what follows. -/
def octalNumber : (count : Nat) → (value : Nat) → List Char → Nat × List Char
  | count + 1, value, c :: rest =>
    match octalDigit? c with
    | some d => octalNumber count (value * 8 + d) rest
    | none => (value, c :: rest)
  | _, value, s => (value, s)

/-- How many codes there are. -/
def codeCount : Nat := 0x110000

/-- The letter escapes of both alphabets. -/
def letterEscape? : Char → Option Char
  | '\\' => some '\\'
  | '\'' => some '\''
  | '"' => some '"'
  | 'a' => some '\x07'
  | 'b' => some '\x08'
  | 'f' => some '\x0c'
  | 'n' => some '\n'
  | 'r' => some '\r'
  | 't' => some '\t'
  | 'v' => some '\x0b'
  | _ => none

/-- Reads an escape behind its backslash: the codes that it stands for, and what follows. An
escaped line end stands for nothing, and an unknown letter for itself with the backslash. Text has
no names for characters here, so `\N` is refused, and bytes have only ASCII letters. -/
def readEscape (alphabet : Alphabet) : List Char → Option (List Nat × List Char)
  | [] => none
  | c :: rest =>
    match letterEscape? c, octalDigit? c with
    | some meant, _ => some ([meant.toNat], rest)
    | none, some d =>
      let (n, rest) := octalNumber 2 d rest
      some ([if alphabet = .bytes then n % 0x100 else n], rest)
    | none, none =>
      let coded (count : Nat) : Option (List Nat × List Char) := do
        let (n, rest) ← hexNumber? count 0 rest
        if n < codeCount then some ([n], rest) else none
      if c = '\n' then some ([], rest)
      else if c = 'x' then coded 2
      else if alphabet = .text ∧ c = 'u' then coded 4
      else if alphabet = .text ∧ c = 'U' then coded 8
      else if alphabet = .text ∧ c = 'N' then none
      else if alphabet = .bytes ∧ 0x80 ≤ c.toNat then none
      else some (['\\'.toNat, c.toNat], rest)

theorem hexNumber?_length {count value n : Nat} {s rest : List Char}
    (read : hexNumber? count value s = some (n, rest)) : rest.length ≤ s.length := by
  induction count generalizing value s with
  | zero => simp [hexNumber?] at read; simp [read.2]
  | succ count ih =>
    cases s with
    | nil => simp [hexNumber?] at read
    | cons c s =>
      simp only [hexNumber?] at read
      split at read
      · exact Nat.le_succ_of_le (ih read)
      · simp at read

theorem octalNumber_length (count value : Nat) (s : List Char) :
    (octalNumber count value s).2.length ≤ s.length := by
  induction count generalizing value s with
  | zero => simp [octalNumber]
  | succ count ih =>
    cases s with
    | nil => simp [octalNumber]
    | cons c s =>
      simp only [octalNumber]
      split
      · exact Nat.le_succ_of_le (ih _ _)
      · simp

/-- An escape takes at least its letter. -/
theorem readEscape_length {alphabet : Alphabet} {s rest : List Char} {meant : List Nat}
    (read : readEscape alphabet s = some (meant, rest)) : rest.length < s.length := by
  cases s with
  | nil => simp [readEscape] at read
  | cons c s =>
    simp only [readEscape] at read
    have coded : ∀ count : Nat, (do
        let (n, rest) ← hexNumber? count 0 s
        if n < codeCount then some ([n], rest) else none : Option (List Nat × List Char)) =
          some (meant, rest) → rest.length ≤ s.length := by
      intro count found
      obtain ⟨⟨n, after⟩, number, found⟩ := Option.bind_eq_some_iff.1 found
      dsimp only at found
      split at found
      · cases found
        exact hexNumber?_length number
      · cases found
    split at read
    · cases read; simp
    · next d _ _ =>
      cases read
      exact Nat.lt_succ_of_le (octalNumber_length 2 d s)
    · repeat' split at read
      all_goals first
        | cases read; exact Nat.lt_succ_self _
        | exact Nat.lt_succ_of_le (coded _ read)
        | cases read

/-- What closes a string: a quotation mark, or three in a row. -/
structure Closing where
  mark : Char
  triple : Bool
deriving DecidableEq, Repr

/-- What follows the closing of a string, if it stands here. -/
def Closing.behind? (closing : Closing) : List Char → Option (List Char)
  | [] => none
  | c :: rest =>
    if c ≠ closing.mark then none
    else if !closing.triple then some rest
    else
      match rest with
      | d :: e :: rest => if d = closing.mark ∧ e = closing.mark then some rest else none
      | _ => none

theorem Closing.behind?_length {closing : Closing} {s rest : List Char}
    (found : closing.behind? s = some rest) : rest.length < s.length := by
  unfold behind? at found
  split at found
  · cases found
  · split at found
    · cases found
    · split at found
      · cases found; simp
      · split at found
        · split at found
          · cases found; simp only [List.length_cons]; omega
          · cases found
        · cases found

/-- Reads up to the closing: the codes of the string, and what follows the closing. A bare line end
breaks a string off that is closed by a single mark, and bytes are written in ASCII. -/
def decodeBody (alphabet : Alphabet) (closing : Closing) (s : List Char) :
    Option (List Nat × List Char) :=
  match closing.behind? s with
  | some rest => some ([], rest)
  | none =>
    match s with
    | [] => none
    | c :: rest =>
      if c = '\n' ∧ !closing.triple then none
      else if c = '\\' then
        match read : readEscape alphabet rest with
        | none => none
        | some (meant, after) =>
          have : after.length < rest.length := readEscape_length read
          (decodeBody alphabet closing after).map fun (body, left) => (meant ++ body, left)
      else if alphabet = .bytes ∧ 0x80 ≤ c.toNat then none
      else (decodeBody alphabet closing rest).map fun (body, left) => (c.toNat :: body, left)
termination_by s.length

/-- What follows a quoted string is shorter than the string with what follows. -/
theorem decodeBody_length {alphabet : Alphabet} {closing : Closing} {s rest : List Char}
    {body : List Nat} (read : decodeBody alphabet closing s = some (body, rest)) :
    rest.length < s.length := by
  fun_induction decodeBody alphabet closing s generalizing body rest with
  | case1 s after closed => cases read; exact Closing.behind?_length closed
  | case2 => cases read
  | case3 => cases read
  | case4 => cases read
  | case5 c s _ _ meant after shorter ih =>
    obtain ⟨⟨_, _⟩, found, same⟩ := Option.map_eq_some_iff.1 read
    cases same
    have := ih found
    simp only [List.length_cons]
    omega
  | case6 => cases read
  | case7 c s _ _ _ _ ih =>
    obtain ⟨⟨_, _⟩, found, same⟩ := Option.map_eq_some_iff.1 read
    cases same
    exact Nat.lt_succ_of_lt (ih found)

end DebugScopes.Quoted
