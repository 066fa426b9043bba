import DebugScopes.Proofs.Text.Quoting
import DebugScopes.Value.Printer

/-!
# Values without brackets, there and back

The first character of a value says what it is: a number, a name or a string. A value has been read
when a character follows that cannot go on with it.

* `Reader.operand_decimal`: integers, with their sign;
* `Reader.operand_null`, `Reader.operand_bool`: values that have a name, and
  `Reader.operand_unnamed`: names that have no value;
* `Reader.operand_quoted`, `Reader.strings_alone`: strings, which go on if another one follows.
-/

namespace DebugScopes.Reader

/-! ### Blanks -/

section Blanks

variable {inside : Bool} {c : Char} {s : List Char}

/-- The characters that are dropped between two parts of a value, or start what is dropped. -/
def blankMarks : List Char := [' ', '\t', '\x0c', '\n', '#', '\\']

/-- Nothing is dropped in front of any other character. -/
theorem blanks_cons (solid : c ∉ blankMarks) : blanks inside (c :: s) = c :: s := by
  simp only [blankMarks, List.mem_cons, List.not_mem_nil, or_false, not_or] at solid
  obtain ⟨space, tab, feed, line, comment, joint⟩ := solid
  unfold blanks skip
  split <;> simp_all

@[simp]
theorem blanks_space : blanks inside (' ' :: s) = blanks inside s := by
  simp [blanks, skip]

@[simp]
theorem blanks_line : blanks true ('\n' :: s) = blanks true s := by
  simp [blanks, skip]

end Blanks

/-! ### Numbers -/

section Numbers

variable {depth level : Nat} {c : Char} {s rest : List Char}

/-- No string starts with a digit. -/
theorem unquoted_of_isDigit (digit : c.isDigit) : startsQuoted (c :: rest) = false := by
  unfold startsQuoted
  split
  case h_5 => rfl
  all_goals next same => cases same; exact absurd digit (by decide)

/-- What starts with a digit is a number. -/
theorem operand_number (digit : c.isDigit) :
    operand (depth + 1) level (c :: rest) = number (c :: rest) := by
  unfold operand
  split
  case h_1 same => cases same
  case h_7 same => cases same; simp [unquoted_of_isDigit digit, digit]
  all_goals next same => cases same; exact absurd digit (by decide)

theorem operand_minus :
    operand (depth + 1) level ('-' :: s) =
      (operand depth level (blanks (0 < level) s)).bind fun read =>
        (negated read.1).map (·, read.2) := by
  rw [operand]
  cases operand depth level (blanks (0 < level) s) <;> rfl

theorem operand_plus :
    operand (depth + 1) level ('+' :: s) =
      (operand depth level (blanks (0 < level) s)).bind fun read =>
        (affirmed read.1).map (·, read.2) := by
  rw [operand]
  cases operand depth level (blanks (0 < level) s) <;> rfl

theorem solid_of_isDigit (digit : c.isDigit) : c ∉ blankMarks := by
  intro mark
  simp only [blankMarks, List.mem_cons, List.not_mem_nil, or_false] at mark
  rcases mark with rfl | rfl | rfl | rfl | rfl | rfl <;> exact absurd digit (by decide)

/-- The number behind a minus sign is read with the other sign. -/
theorem operand_minus_number {front : Char} (digit : front.isDigit) :
    operand (depth + 2) level ('-' :: front :: rest) =
      (number (front :: rest)).bind fun read => (negated read.1).map (·, read.2) := by
  rw [operand_minus, blanks_cons (solid_of_isDigit digit), operand_number digit]

/-- An integer that has been written is read back. -/
theorem operand_decimal {n : Int} (legible : Numeral.isLegible n) (stop : c ∈ stops) :
    operand (depth + 2) level ((Numeral.decimal n).toList ++ c :: rest) =
      some (.int n, c :: rest) := by
  obtain ⟨front, more, row⟩ :=
    List.exists_cons_of_ne_nil (Nat.toDigits_ne_nil (n := n.natAbs) (b := 10))
  have digit : front.isDigit := allDigits_toDigits n.natAbs front (by simp [row])
  have read : number (front :: (more ++ c :: rest)) = some (.int n.natAbs, c :: rest) := by
    have legible : Numeral.isLegible n.natAbs := by
      rw [Numeral.isLegible_iff] at legible ⊢
      exact legible
    rw [← List.cons_append, ← row]
    exact number_toDigits legible stop
  rcases lt_or_ge n 0 with negative | natural
  · rw [Numeral.toList_decimal_of_neg negative, row, List.cons_append, List.cons_append,
      operand_minus_number digit, read]
    have back : -(n.natAbs : Int) = n := by omega
    rw [Option.bind_some, negated, back, Option.map_some]
  · obtain ⟨m, rfl⟩ := Int.eq_ofNat_of_zero_le natural
    rw [Int.natAbs_natCast] at row read
    rw [Numeral.toList_decimal_natCast, row, List.cons_append, operand_number digit, read]

end Numbers

/-! ### Names -/

section Names

variable {depth level : Nat} {c : Char} {row rest : List Char} {v : Value}

/-- Characters that may stand in a name are taken by the reader of names. -/
theorem isNameChar_of_isPart (part : Name.isPart c) : isNameChar c := by
  unfold Name.isPart at part
  unfold isNameChar
  split_ifs at part with ascii
  · rw [part, Bool.true_or]
  · simp only [Bool.or_eq_true, decide_eq_true_eq]
    exact .inr (by omega)

theorem isPart_of_isStart (start : Name.isStart c) : Name.isPart c := by
  unfold Name.isStart at start
  unfold Name.isPart
  split_ifs at start ⊢
  · simp only [Bool.or_eq_true, beq_iff_eq] at start
    simp only [Char.isAlphanum, Bool.or_eq_true, beq_iff_eq]
    tauto
  · rw [start, Bool.true_or]

/-- All characters of a name may stand in one. -/
theorem isPart_of_isName (name : Name.isName row) : ∀ c ∈ row, Name.isPart c := by
  cases row with
  | nil => exact nofun
  | cons first row =>
    rw [Name.isName, Bool.and_eq_true, List.all_eq_true] at name
    intro c among
    rcases List.mem_cons.1 among with rfl | behind
    · exact isPart_of_isStart name.1
    · exact name.2 c behind

/-- A name ends where something else follows. -/
theorem name?_append (name : Name.isName row) (ends : isNameChar c = false) (rest : List Char) :
    name? (row ++ c :: rest) = some (String.ofList row, c :: rest) := by
  have all : ∀ d ∈ row, isNameChar d := fun d among =>
    isNameChar_of_isPart (isPart_of_isName name d among)
  have front : (row ++ c :: rest).takeWhile isNameChar = row := by
    rw [List.takeWhile_append_of_pos all, List.takeWhile_cons_of_neg (by simp [ends]),
      List.append_nil]
  have back : (row ++ c :: rest).dropWhile isNameChar = c :: rest := by
    rw [List.dropWhile_append_of_pos all, List.dropWhile_cons_of_neg (by simp [ends])]
  rw [name?, front, back, if_pos name]

theorem isNameChar_of_stop (stop : c ∈ stops) : isNameChar c = false := by
  simp only [stops, List.mem_cons, List.not_mem_nil, or_false] at stop
  rcases stop with rfl | rfl | rfl | rfl | rfl <;> rfl

/-- What starts with a letter and is no string starts with a name. -/
theorem operand_letter {front : Char} {s : List Char} (letter : front.isAlpha)
    (unquoted : startsQuoted (front :: s) = false) :
    operand (depth + 1) level (front :: s) =
      match name? (front :: s) with
      | none => none
      | some (name, rest) =>
        match named? (Normal.form name), blanks (0 < level) rest with
        | some v, _ => some (v, rest)
        | none, '(' :: rest =>
          match items depth level ')' rest with
          | some (vs, _, rest) => (called? name vs).map fun v => (v, rest)
          | none => none
        | none, _ => none := by
  have other : ¬ (front.isDigit || front == '.') := by
    rw [Bool.or_eq_true, beq_iff_eq]
    rintro (digit | rfl)
    · simp only [Char.isAlpha, Char.isUpper, Char.isLower, Char.isDigit, Bool.or_eq_true,
        Bool.and_eq_true, decide_eq_true_eq, ge_iff_le, UInt32.le_iff_toNat_le] at letter digit
      have above : '9'.val.toNat < 'A'.val.toNat ∧ '9'.val.toNat < 'a'.val.toNat := by decide
      omega
    · exact absurd letter (by decide)
  conv_lhs => unfold operand
  split
  case h_1 same => cases same
  case h_7 same => cases same; exact (if_neg (by simp [unquoted])).trans (if_neg other)
  all_goals next same => cases same; exact absurd letter (by decide)

/-- A value that has a name is read by it. -/
theorem operand_named {front : Char} (letter : front.isAlpha)
    (unquoted : ∀ s, startsQuoted (front :: s) = false) (name : Name.isName (front :: row))
    (stop : c ∈ stops) (meant : named? (Normal.form (String.ofList (front :: row))) = some v) :
    operand (depth + 1) level (front :: row ++ c :: rest) = some (v, c :: rest) := by
  have read := name?_append name (isNameChar_of_stop stop) rest
  rw [List.cons_append] at read ⊢
  rw [operand_letter letter (unquoted _), read]
  dsimp only
  rw [meant]

/-- A name that means nothing is not read, whatever follows it. -/
theorem operand_unnamed {front : Char} (letter : front.isAlpha)
    (unquoted : ∀ s, startsQuoted (front :: s) = false) (name : Name.isName (front :: row))
    (ends : isNameChar c = false)
    (meant : named? (Normal.form (String.ofList (front :: row))) = none)
    (uncalled : ∀ vs, called? (String.ofList (front :: row)) vs = none) :
    operand (depth + 1) level (front :: row ++ c :: rest) = none := by
  have read := name?_append name ends rest
  rw [List.cons_append] at read ⊢
  rw [operand_letter letter (unquoted _), read]
  dsimp only
  rw [meant]
  split
  · contradiction
  · split
    · rw [uncalled]; rfl
    · rfl
  · rfl

theorem operand_null (stop : c ∈ stops) :
    operand (depth + 1) level ("None".toList ++ c :: rest) = some (.null, c :: rest) :=
  operand_named (by decide) (fun _ => rfl) (show Name.isName ('N' :: "one".toList) by decide) stop
    (by rw [Normal.form_ascii (by decide)]; rfl)

theorem operand_bool (b : Bool) (stop : c ∈ stops) :
    operand (depth + 1) level ((Value.written (.bool b)).toList ++ c :: rest) =
      some (.bool b, c :: rest) := by
  cases b
  · have name : Name.isName ('F' :: "alse".toList) := by decide
    exact operand_named (by decide) (fun _ => rfl) name stop
      (by rw [Normal.form_ascii (by decide)]; rfl)
  · have name : Name.isName ('T' :: "rue".toList) := by decide
    exact operand_named (by decide) (fun _ => rfl) name stop
      (by rw [Normal.form_ascii (by decide)]; rfl)

end Names

/-! ### Strings -/

section Strings

variable {depth level : Nat} {s rest : List Char} {alphabet : Quoted.Alphabet} {codes : List Nat}

/-- What starts like a quoted string is one, or several side by side. -/
theorem operand_quoted (starts : startsQuoted s)
    (read : quoted? s = some (alphabet, codes, rest)) :
    operand (depth + 1) level s = strings (0 < level) depth alphabet codes rest := by
  unfold operand
  split
  case h_7 => rw [if_pos starts, read]
  all_goals exact absurd starts Bool.false_ne_true

/-- A string stands alone if no other one follows. -/
theorem strings_alone {inside : Bool} (alone : startsQuoted (blanks inside rest) = false) :
    strings inside (depth + 1) alphabet codes rest = some (stringValue alphabet codes, rest) := by
  rw [strings, alone]
  rfl

end Strings

end DebugScopes.Reader
