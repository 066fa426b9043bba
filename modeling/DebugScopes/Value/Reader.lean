import DebugScopes.Text.Name
import DebugScopes.Text.Normal.Form
import DebugScopes.Text.Quoted
import DebugScopes.Value.Members

/-!
# Reading values

A settings file is a row of lines `name = value`. A value is a name for null or a truth value, a
number or a sum of numbers, a quoted string, or a display in brackets; a display may go over several
lines, hold comments and end in a comma. Strings side by side are one string. A line that holds a
value alone counts for nothing. A file with anything else in it is no such row, and nothing is said
of what it does: there is no partial result.

* `Reader.value` reads one value and returns what follows it;
* `Reader.assignments?` reads a whole file.

Each reader takes at least one character before it calls another, so the length of the text bounds
the depth of the calls; that is the bound handed down as `depth`. The number of brackets that are
open is handed down as `level`.
-/

namespace DebugScopes.Reader

/-! ### Blanks -/

/-- Drops blanks and joined lines; inside a display (`inside`) line ends and comments as well. The
first argument says that a comment is being dropped. No line can be joined to the end of the
text. -/
def skip (comment inside : Bool) : List Char → List Char
  | [] => []
  | ['\\', '\n'] => if comment then [] else ['\\', '\n']
  | '\\' :: '\n' :: rest =>
    if comment then skip false inside rest else skip comment inside rest
  | c :: rest =>
    if comment then skip (c != '\n') inside rest
    else if c = ' ' ∨ c = '\t' ∨ c = '\x0c' then skip comment inside rest
    else if inside && c == '\n' then skip comment inside rest
    else if inside && c == '#' then skip true inside rest
    else c :: rest

/-- Drops what may stand between two parts of a value. -/
def blanks (inside : Bool) (s : List Char) : List Char := skip false inside s

/-! ### Names and numbers -/

/-- Whether a character goes on with a name. What is no name in the end is refused as a whole. -/
def isNameChar (c : Char) : Bool := c.isAlphanum || c == '_' || 0x80 ≤ c.toNat

/-- The name in front of a text as it stands there, if there is one, and what follows. -/
def name? (s : List Char) : Option (String × List Char) :=
  let front := s.takeWhile isNameChar
  if Name.isName front then some (String.ofList front, s.dropWhile isNameChar) else none

/-- The names that have a meaning of their own and cannot be assigned. -/
def reserved : List String :=
  ["False", "None", "True", "and", "as", "assert", "async", "await", "break", "class", "continue",
    "def", "del", "elif", "else", "except", "finally", "for", "from", "global", "if", "import",
    "in", "is", "lambda", "nonlocal", "not", "or", "pass", "raise", "return", "try", "while",
    "with", "yield"]

/-- A name that has a value and cannot be assigned, in whatever variant it is written. -/
def fixedName : String := "__debug__"

/-- The values that have names. -/
def named? (name : String) : Option Value :=
  if name = "None" then some .null
  else if name = "True" ∨ name = fixedName then some (.bool true)
  else if name = "False" then some (.bool false)
  else none

/-- The names that can be called. -/
def callable : List String := ["set", "frozenset", "bytearray", "range"]

/-- The values that are written as a name with others in parentheses. -/
def called? (name : String) (arguments : List Value) : Option Value :=
  match name, arguments with
  | "set", [] => some (.set [])
  | "frozenset", [] => some (.frozen [])
  | "frozenset", [.set members] => some (.frozen members)
  | "bytearray", [.bytes b] => some (.buffer b)
  | "range", [start, stop] => do some (.range (← start.int?) (← stop.int?))
  | _, _ => none

/-- A run of digits: its value on top of `total`, the number of digits on top of `count`, and what
follows. One underscore may stand before a digit, except at the very front if `count` is zero. -/
def digitRun (digit? : Char → Option Nat) (base : Nat) (total count : Nat) :
    List Char → Nat × Nat × List Char
  | [] => (total, count, [])
  | '_' :: c :: rest =>
    match digit? c with
    | some d =>
      if count = 0 then (total, count, '_' :: c :: rest)
      else digitRun digit? base (total * base + d) (count + 1) rest
    | none => (total, count, '_' :: c :: rest)
  | c :: rest =>
    match digit? c with
    | some d => digitRun digit? base (total * base + d) (count + 1) rest
    | none => (total, count, c :: rest)

/-- The value of a decimal digit. -/
def decimalDigit? (c : Char) : Option Nat :=
  if c.isDigit then some (c.toNat - '0'.toNat) else none

/-- The value of a binary digit. -/
def binaryDigit? (c : Char) : Option Nat :=
  if c = '0' then some 0 else if c = '1' then some 1 else none

/-- An integer behind its base mark, where an underscore may stand in front. -/
def marked (digit? : Char → Option Nat) (base : Nat) (s : List Char) :
    Option (Value × List Char) :=
  let s := match s with
    | '_' :: rest => rest
    | _ => s
  match digitRun digit? base 0 0 s with
  | (_, 0, _) => none
  | (n, _, rest) => some (.int n, rest)

/-- The double nearest to `mantissa * 10 ^ exponent`. Beyond the range of doubles it is infinite,
and below it zero. -/
def nearest (mantissa : Nat) (exponent : Int) : Float :=
  let size : Int := (Nat.toDigits 10 mantissa).length
  if mantissa = 0 then 0.0
  else if 400 < size + exponent then Float.ofScientific 1 false 400
  else if size + exponent < -400 then 0.0
  else Float.ofScientific mantissa (exponent < 0) exponent.natAbs

/-- The exponent of a float, if one follows. -/
def exponent? : List Char → Option (Int × List Char)
  | e :: rest =>
    if e = 'e' ∨ e = 'E' then
      let (negative, rest) := match rest with
        | '-' :: rest => (true, rest)
        | '+' :: rest => (false, rest)
        | rest => (false, rest)
      match digitRun decimalDigit? 10 0 0 rest with
      | (_, 0, _) => none
      | (n, _, rest) => some (if negative then -(n : Int) else n, rest)
    else none
  | [] => none

/-- A number in base ten: an integer, which has no zero in front unless it is zero, a float, which
has a point or an exponent, or an imaginary number, which ends in a mark. -/
def decimalNumber (s : List Char) : Option (Value × List Char) :=
  let (whole, wholeCount, rest) := digitRun decimalDigit? 10 0 0 s
  let (all, count, rest, pointed) := match rest with
    | '.' :: '_' :: rest => (whole, 0, '_' :: rest, true)
    | '.' :: rest =>
      let (fraction, count, rest) := digitRun decimalDigit? 10 0 0 rest
      (whole * Nat.pow 10 count + fraction, count, rest, true)
    | rest => (whole, 0, rest, false)
  let (power, rest) := match exponent? rest with
    | some (e, rest) => (some e, rest)
    | none => (none, rest)
  let near := nearest all (power.getD 0 - count)
  if wholeCount + count = 0 then none
  else
    match rest with
    | 'j' :: rest | 'J' :: rest => some (.complex 0 near, rest)
    | _ =>
      if pointed || power.isSome then some (.float near, rest)
      else if whole = 0 then some (.int 0, rest)
      else if s.head? = some '0' ∨ Numeral.longestDecimal < wholeCount then none
      else some (.int whole, rest)

/-- A number without a sign. -/
def number : List Char → Option (Value × List Char)
  | '0' :: 'x' :: rest | '0' :: 'X' :: rest => marked Quoted.hexDigit? 16 rest
  | '0' :: 'o' :: rest | '0' :: 'O' :: rest => marked Quoted.octalDigit? 8 rest
  | '0' :: 'b' :: rest | '0' :: 'B' :: rest => marked binaryDigit? 2 rest
  | s => decimalNumber s

/-- The value with the other sign. Only numbers have one. -/
def negated : Value → Option Value
  | .int i => some (.int (-i))
  | .bool b => some (.int (if b then -1 else 0))
  | .float x => some (.float (-x))
  | .complex re im => some (.complex (-re) (-im))
  | _ => none

/-- The value with a plus in front. Only numbers may have one. -/
def affirmed : Value → Option Value
  | .bool b => some (.int (if b then 1 else 0))
  | .int i => some (.int i)
  | .float x => some (.float x)
  | .complex re im => some (.complex re im)
  | _ => none

/-- The double nearest to an integer, unless the integer is too large for one. -/
def toFloat? (i : Int) : Option Float :=
  let size := nearest i.natAbs 0
  if size.isInf then none else some (if i < 0 then -size else size)

/-- A number as a real part and an imaginary one, if it has any. -/
def realParts? : Value → Option (Float × Option Float)
  | .float x => some (x, none)
  | .complex re im => some (re, some im)
  | v =>
    match v.int? with
    | some i => (toFloat? i).map (·, none)
    | none => none

/-- The sum of two numbers, or their difference. A sum with an imaginary part is complex, and one of
a float is a float. -/
def added (minus : Bool) (v w : Value) : Option Value :=
  match v.int?, w.int? with
  | some i, some j => some (.int (if minus then i - j else i + j))
  | _, _ =>
    match realParts? v, realParts? w with
    | some (a, b), some (c, d) =>
      let join (x y : Float) : Float := if minus then x - y else x + y
      match b, d with
      | none, none => some (.float (join a c))
      | b, d => some (.complex (join a c) (join (b.getD 0) (d.getD 0)))
    | _, _ => none

/-! ### Strings -/

/-- What closes a string that opens with a mark, and what follows the opening: three marks in a row
are closed by three. -/
def opened (mark : Char) : List Char → Quoted.Closing × List Char
  | c :: d :: rest =>
    if c = mark ∧ d = mark then (⟨mark, true⟩, rest) else (⟨mark, false⟩, c :: d :: rest)
  | rest => (⟨mark, false⟩, rest)

/-- A quoted string over an alphabet: its codes, and what follows. -/
def quotedOver? (alphabet : Quoted.Alphabet) : List Char →
    Option (Quoted.Alphabet × List Nat × List Char)
  | mark :: rest =>
    if mark = '\'' ∨ mark = '"' then
      let (closing, rest) := opened mark rest
      (Quoted.decodeBody alphabet closing rest).map fun (body, rest) => (alphabet, body, rest)
    else none
  | [] => none

/-- A quoted string: its alphabet, its codes, and what follows. -/
def quoted? : List Char → Option (Quoted.Alphabet × List Nat × List Char)
  | 'b' :: rest | 'B' :: rest => quotedOver? .bytes rest
  | s => quotedOver? .text s

/-- Whether a quoted string follows. -/
def startsQuoted : List Char → Bool
  | '\'' :: _ | '"' :: _ => true
  | 'b' :: c :: _ | 'B' :: c :: _ => c == '\'' || c == '"'
  | _ => false

/-- The value of a string over an alphabet. -/
def stringValue (alphabet : Quoted.Alphabet) (codes : List Nat) : Value :=
  match alphabet with
  | .text => .ofCodes codes
  | .bytes => .bytes (codes.map UInt8.ofNat)

/-- Quoted strings side by side, which have to share one alphabet; they are one string. -/
def strings (inside : Bool) : (depth : Nat) → Quoted.Alphabet → List Nat → List Char →
    Option (Value × List Char)
  | 0, _, _, _ => none
  | depth + 1, alphabet, ahead, s =>
    let next := blanks inside s
    if startsQuoted next then
      match quoted? next with
      | some (other, body, rest) =>
        if other = alphabet then strings inside depth alphabet (ahead ++ body) rest else none
      | none => none
    else some (stringValue alphabet ahead, s)

/-! ### Values -/

/-- The most brackets that may be open at once. -/
def deepest : Nat := 200

/-- The value in parentheses: a single one without a comma is itself. -/
def grouped : List Value → Bool → Value
  | [v], false => v
  | vs, _ => .tuple vs

/-- The set with these members, if none of them can change. -/
def setOf (members : List Value) : Option Value :=
  if Value.allHashable members then some (.set (Members.ofList members)) else none

mutual

/-- Reads one value: an operand, or a sum of operands. -/
def value : (depth level : Nat) → List Char → Option (Value × List Char)
  | 0, _, _ => none
  | depth + 1, level, s =>
    match operand depth level s with
    | some (v, rest) => addends depth level v rest
    | none => none

/-- Reads what is added to a value or taken from it. -/
def addends : (depth level : Nat) → Value → List Char → Option (Value × List Char)
  | 0, _, _, _ => none
  | depth + 1, level, v, s =>
    match blanks (0 < level) s with
    | '+' :: rest => plus depth level false v (blanks (0 < level) rest)
    | '-' :: rest => plus depth level true v (blanks (0 < level) rest)
    | _ => some (v, s)

/-- Reads one operand behind its sign, and what comes after it. -/
def plus : (depth level : Nat) → (minus : Bool) → Value → List Char →
    Option (Value × List Char)
  | 0, _, _, _, _ => none
  | depth + 1, level, minus, v, s =>
    match operand depth level s with
    | none => none
    | some (w, rest) =>
      match added minus v w with
      | some sum => addends depth level sum rest
      | none => none

/-- Reads one operand. -/
def operand : (depth level : Nat) → List Char → Option (Value × List Char)
  | 0, _, _ => none
  | depth + 1, level, s =>
    match s with
    | [] => none
    | '[' :: rest => (items depth level ']' rest).map fun (vs, _, rest) => (.list vs, rest)
    | '(' :: rest =>
      match items depth level ')' rest with
      | some (vs, comma, rest) => some (grouped vs comma, rest)
      | none => none
    | '\x7b' :: rest => braces depth level (blanks true rest)
    | '-' :: rest =>
      match operand depth level (blanks (0 < level) rest) with
      | some (v, rest) => (negated v).map fun v => (v, rest)
      | none => none
    | '+' :: rest =>
      match operand depth level (blanks (0 < level) rest) with
      | some (v, rest) => (affirmed v).map fun v => (v, rest)
      | none => none
    | c :: _ =>
      if startsQuoted s then
        match quoted? s with
        | some (alphabet, codes, rest) => strings (0 < level) depth alphabet codes rest
        | none => none
      else if c.isDigit || c == '.' then number s
      else
        match name? s with
        | none => none
        | some (name, rest) =>
          match named? (Normal.form name), blanks (0 < level) rest with
          | some v, _ => some (v, rest)
          | none, '(' :: rest =>
            match items depth level ')' rest with
            | some (vs, _, rest) => (called? name vs).map fun v => (v, rest)
            | none => none
          | none, _ => none

/-- Reads the items of a display behind its opening up to its closing bracket, and whether a comma
stood there. -/
def items : (depth level : Nat) → (close : Char) → List Char →
    Option (List Value × Bool × List Char)
  | 0, _, _, _ => none
  | depth + 1, level, close, s =>
    if level < deepest then itemsFrom depth (level + 1) close s else none

/-- Reads the items of a display that are left. -/
def itemsFrom : (depth level : Nat) → (close : Char) → List Char →
    Option (List Value × Bool × List Char)
  | 0, _, _, _ => none
  | depth + 1, level, close, s =>
    match blanks true s with
    | [] => none
    | c :: rest =>
      if c = close then some ([], false, rest)
      else
        match value depth level (c :: rest) with
        | none => none
        | some (v, rest) =>
          match blanks true rest with
          | ',' :: rest =>
            (itemsFrom depth level close rest).map fun (vs, _, rest) => (v :: vs, true, rest)
          | d :: rest => if d = close then some ([v], false, rest) else none
          | [] => none

/-- Reads a display in braces behind its opening: a dictionary if a colon follows the first value, a
set otherwise. What can change is neither a key nor a member. -/
def braces : (depth level : Nat) → List Char → Option (Value × List Char)
  | 0, _, _ => none
  | _ + 1, _, [] => none
  | depth + 1, level, c :: rest =>
    if deepest ≤ level then none
    else if c = '\x7d' then some (.dict [], rest)
    else
      match value depth (level + 1) (c :: rest) with
      | none => none
      | some (first, rest) =>
        match blanks true rest with
        | ':' :: rest =>
          (entry depth (level + 1) first rest).map fun (rows, rest) =>
            (.dict (Entries.ofList rows), rest)
        | ',' :: rest =>
          match itemsFrom depth (level + 1) '\x7d' rest with
          | some (others, _, rest) => (setOf (first :: others)).map fun v => (v, rest)
          | none => none
        | '\x7d' :: rest => (setOf [first]).map fun v => (v, rest)
        | _ => none

/-- Reads the entries of a dictionary that are left, up to its closing brace. -/
def entries : (depth level : Nat) → List Char → Option (List (Value × Value) × List Char)
  | 0, _, _ => none
  | depth + 1, level, s =>
    match blanks true s with
    | [] => none
    | c :: rest =>
      if c = '\x7d' then some ([], rest)
      else
        match value depth level (c :: rest) with
        | none => none
        | some (key, rest) =>
          match blanks true rest with
          | ':' :: rest => entry depth level key rest
          | _ => none

/-- Reads the value of a key behind its colon, and the entries that are left. -/
def entry : (depth level : Nat) → Value → List Char →
    Option (List (Value × Value) × List Char)
  | 0, _, _, _ => none
  | depth + 1, level, key, s =>
    match value depth level (blanks true s) with
    | none => none
    | some (v, rest) =>
      if !key.hashable then none
      else
        match blanks true rest with
        | ',' :: rest =>
          (entries depth level rest).map fun (rows, rest) => ((key, v) :: rows, rest)
        | '\x7d' :: rest => some ([(key, v)], rest)
        | _ => none

end

/-! ### Files -/

/-- What follows the end of a line; nothing but a comment may stand before it. -/
def lineEnd? (s : List Char) : Option (List Char) :=
  match blanks false s with
  | [] => some []
  | '\n' :: rest => some rest
  | '#' :: rest => some (rest.dropWhile (· != '\n') |>.drop 1)
  | _ => none

/-- A bound on the depth of the calls that read a text. No character is taken by more than four
readers in a row. -/
def depthFor (s : List Char) : Nat := 4 * (s.length + 1)

/-- Reads the values behind the first one of a line, a comma before each, and whether there was a
comma at all. The last comma may have nothing behind it. At most `count` values are read. -/
def further : (count : Nat) → List Char → Option (List Value × Bool × List Char)
  | 0, _ => none
  | count + 1, s =>
    match blanks false s with
    | ',' :: rest =>
      let rest := blanks false rest
      if (lineEnd? rest).isSome then some ([], true, rest)
      else
        match value (depthFor rest) 0 rest with
        | some (v, rest) => (further count rest).map fun (vs, _, rest) => (v :: vs, true, rest)
        | none => none
    | _ => some ([], false, s)

/-- Reads the value of a line: one value, or a tuple without brackets. -/
def lineValue (s : List Char) : Option (Value × List Char) :=
  match value (depthFor s) 0 s with
  | none => none
  | some (v, rest) =>
    (further (rest.length + 1) rest).map fun (vs, comma, rest) => (grouped (v :: vs) comma, rest)

/-- How far in a line starts, and the line from there. A form feed goes back to the margin. Of a
line that is joined from several, the first one that is indented counts: `joined` is how far in it
was. -/
def indent (column joined : Nat) : List Char → Nat × List Char
  | [] => (if joined = 0 then column else joined, [])
  | ['\\', '\n'] => (if joined = 0 then column else joined, ['\\', '\n'])
  | '\\' :: '\n' :: rest => indent column (if joined = 0 then column else joined) rest
  | c :: rest =>
    if c = ' ' ∨ c = '\t' then indent (column + 1) joined rest
    else if c = '\x0c' then indent 0 joined rest
    else (if joined = 0 then column else joined, c :: rest)

/-- The name to which a line assigns a value, and what stands behind the sign. -/
def target? (s : List Char) : Option (String × List Char) :=
  match name? s with
  | none => none
  | some (name, rest) =>
    match blanks false rest with
    | '=' :: rest => some (name, rest)
    | _ => none

/-- Reads one line: an assignment, or a value that is not kept. It stands at the margin. -/
def line? (s : List Char) : Option (Option (String × Value) × List Char) :=
  match indent 0 0 s with
  | (_ + 1, _) => none
  | (0, s) =>
    match target? s with
    | none =>
      match lineValue s with
      | some (_, rest) => (lineEnd? rest).map fun rest => (none, rest)
      | none => none
    | some (name, rest) =>
      if reserved.contains name || Normal.form name == fixedName then none
      else
        match lineValue (blanks false rest) with
        | some (v, rest) => (lineEnd? rest).map fun rest => (some (Normal.form name, v), rest)
        | none => none

/-- Reads all lines that are left, at most `lines` of them. Blank lines count for nothing. -/
def lines? : (lines : Nat) → List Char → Option (List (String × Value))
  | 0, _ => none
  | lines + 1, s =>
    match lineEnd? s with
    | some [] => some []
    | some rest => lines? lines rest
    | none =>
      match line? s with
      | some (row, []) => some row.toList
      | some (row, rest) => (lines? lines rest).map (row.toList ++ ·)
      | none => none

/-- The text with every line end, of whatever convention, as a line feed. -/
def unifyLineEnds : List Char → List Char
  | [] => []
  | '\r' :: '\n' :: rest => '\n' :: unifyLineEnds rest
  | '\r' :: rest => '\n' :: unifyLineEnds rest
  | c :: rest => c :: unifyLineEnds rest

/-- The assignments of a file in their order, or none if any part of it is not one. -/
def assignments? (file : String) : Option (List (String × Value)) :=
  let s := unifyLineEnds file.toList
  if s.contains '\x00' then none else lines? (s.length + 1) s

end DebugScopes.Reader
