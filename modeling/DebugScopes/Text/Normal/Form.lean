import DebugScopes.Text.Normal.Classes
import DebugScopes.Text.Normal.Ideographs
import DebugScopes.Text.Normal.Pairs
import DebugScopes.Text.Normal.Variants

/-!
# Normal forms of names

Two names are the same if they differ only in variants of characters and in whether an accent is
part of its letter. A name is brought into its normal form in three steps: every character is taken
apart and replaced by what it is a variant of, the marks behind a letter are put in the order of
their classes, and letters and marks are joined again where one character stands for both.

* `Normal.form` is the normal form;
* `Normal.takeApart`, `Normal.arrange` and `Normal.join` are the three steps.

The syllables of the Korean script are made of two or three letters by a rule and need no table.
-/

namespace DebugScopes.Normal

/-! ### Korean syllables -/

/-- The first syllable, and the letters before the first one that can lead a syllable, stand in its
middle and end it. A syllable without an end counts as ending in the letter before the first. -/
def firstSyllable : Nat := 0xac00
def firstLead : Nat := 0x1100
def firstMiddle : Nat := 0x1161
def beforeEnds : Nat := 0x11a7

/-- How many letters there are for each place; the end may be missing. -/
def leads : Nat := 19
def middles : Nat := 21
def ends : Nat := 28

/-- The letters of a syllable. -/
def letters? (n : Nat) : Option (List Nat) :=
  if firstSyllable ≤ n ∧ n < firstSyllable + leads * middles * ends then
    let index := n - firstSyllable
    let lead := firstLead + index / (middles * ends)
    let middle := firstMiddle + index / ends % middles
    let last := index % ends
    some ([lead, middle] ++ if last = 0 then [] else [beforeEnds + last])
  else none

/-- The syllable of two letters, or of a syllable without an end and a letter that ends it. -/
def syllable? (a b : Nat) : Option Nat :=
  if firstLead ≤ a ∧ a < firstLead + leads ∧ firstMiddle ≤ b ∧ b < firstMiddle + middles then
    some (firstSyllable + ((a - firstLead) * middles + (b - firstMiddle)) * ends)
  else if firstSyllable ≤ a ∧ a < firstSyllable + leads * middles * ends ∧
      (a - firstSyllable) % ends = 0 ∧ beforeEnds < b ∧ b < beforeEnds + ends then
    some (a + (b - beforeEnds))
  else none

/-! ### Taking apart -/

/-- The character for which a variant in a table of ranges stands. -/
def fromRange? (table : List (Nat × Nat × Nat)) (n : Nat) : Option Nat :=
  (table.find? fun (first, last, _) => first ≤ n && n ≤ last).map fun (first, _, meant) =>
    meant + (n - first)

/-- The character for which a variant stands. -/
def plain? (n : Nat) : Option Nat :=
  fromRange? shifted n <|> (merged.find? fun (first, last, _) => first ≤ n && n ≤ last).map (·.2.2)
    <|> fromRange? ideographs n <|> fromRange? furtherIdeographs n

/-- What a character is made of, one step down; a character that is made of nothing else stays. -/
def parts (n : Nat) : List Nat :=
  match pairs.find? fun row => row.1 == n with
  | some (_, a, b) => [a, b]
  | none =>
    ((spelled.find? fun row => row.1 == n).map (·.2) <|> (plain? n).map ([·]) <|>
      letters? n).getD [n]

/-- Takes every character apart, in as many rounds as there are steps; no character has more than
four. -/
def takeApart (codes : List Nat) : List Nat :=
  [(), (), (), ()].foldl (fun codes _ => codes.flatMap parts) codes

/-! ### Putting marks in order -/

/-- Puts a character in front; a mark moves behind the marks of lower classes. -/
def insertMark (c : Nat) : List Nat → List Nat
  | [] => [c]
  | d :: rest =>
    if 0 < classOf d ∧ classOf d < classOf c then d :: insertMark c rest else c :: d :: rest

/-- Puts the marks behind every letter in the order of their classes. -/
def arrange (codes : List Nat) : List Nat := codes.foldr insertMark []

/-! ### Joining -/

/-- The character of two parts. -/
def whole? (a b : Nat) : Option Nat :=
  (pairs.find? fun row => row.2.1 == a && row.2.2 == b).map (·.1) <|> syllable? a b

/-- Joins a letter with what follows it. `held` are the marks behind the letter that could not be
joined, and `last` is the class of the last of them: marks of that class or a lower one are too far
away to be joined. -/
def joinTo (letter : Nat) (held : List Nat) (last : Nat) : List Nat → List Nat
  | [] => letter :: held
  | c :: rest =>
    match if held.isEmpty ∨ last < classOf c then whole? letter c else none with
    | some whole => joinTo whole held last rest
    | none =>
      if classOf c = 0 then letter :: held ++ joinTo c [] 0 rest
      else joinTo letter (held ++ [c]) (classOf c) rest

/-- Joins letters and marks wherever one character stands for both. -/
def join : List Nat → List Nat
  | [] => []
  | c :: rest => if classOf c = 0 then joinTo c [] 0 rest else c :: join rest

/-! ### The normal form -/

/-- The normal form of a name. ASCII characters stay what they are. -/
def form (name : String) : String :=
  if name.toList.all fun c => c.toNat < 0x80 then name
  else String.ofList ((join (arrange (takeApart (name.toList.map (·.toNat))))).map Char.ofNat)

/-- A name in ASCII is in its normal form. -/
theorem form_ascii {name : String} (ascii : name.toList.all fun c => c.toNat < 0x80) :
    form name = name := by
  rw [form, if_pos ascii]

end DebugScopes.Normal
