import DebugScopes.Value.Reader
import Mathlib

/-!
# Numerals, there and back

A numeral in base ten is read as the number that it was written for, if what follows cannot go on
with it. The reader counts digits and takes their value as it goes; a point and an exponent only
move the point.

* `Numeral.isLegible_iff`: which integers can be written;
* `Reader.number_toDigits`: the digits of a number are read back;
* `Reader.decimalNumber_positional`, `Reader.decimalNumber_exponential`: what the two forms of a
  float are read as.
-/

namespace DebugScopes

/-! ### Integers that can be written -/

namespace Numeral

/-- That a small number is tried first makes no difference below a larger power of ten. -/
theorem small_or_iff {n k : Nat} (large : 2 ^ 64 ≤ 10 ^ k) :
    (decide (n < Nat.pow 2 64) || decide (n < Nat.pow 10 k)) = true ↔ n < 10 ^ k := by
  rw [Bool.or_eq_true, decide_eq_true_iff, decide_eq_true_iff]
  exact ⟨fun small => small.elim (fun tiny => Nat.lt_of_lt_of_le tiny large) id, .inr⟩

/-- A number can be named exactly if it is below the power of ten. -/
theorem isLegible_iff {n : Int} : isLegible n ↔ n.natAbs < 10 ^ longestDecimal := by
  apply small_or_iff
  calc 2 ^ 64 ≤ 10 ^ 20 := by decide
    _ ≤ 10 ^ longestDecimal := pow_le_pow_right₀ (by decide) (show 20 ≤ longestDecimal by decide)

theorem isLegible_of_lt {n : Nat} (small : n < 2 ^ 64) : isLegible n := by
  have small : n < Nat.pow 2 64 := small
  unfold isLegible
  rw [Int.natAbs_natCast, decide_eq_true small, Bool.true_or]

/-- A number that can be written has no more digits than the bound says. -/
theorem length_toDigits_le {n : Int} (legible : isLegible n) :
    (Nat.toDigits 10 n.natAbs).length ≤ longestDecimal :=
  (Nat.length_toDigits_le_iff (by decide) (by decide)).2 (isLegible_iff.1 legible)

theorem lt_pow_length (n : Nat) : n < 10 ^ (Nat.toDigits 10 n).length :=
  (Nat.length_toDigits_le_iff (by decide) (List.length_pos_iff.2 Nat.toDigits_ne_nil)).1 le_rfl

theorem pow_length_le {n : Nat} (positive : 0 < n) :
    10 ^ ((Nat.toDigits 10 n).length - 1) ≤ n := by
  rcases Nat.lt_or_ge 1 (Nat.toDigits 10 n).length with several | single
  · by_contra less
    have := (Nat.length_toDigits_le_iff (by decide) (by omega)).2 (Nat.lt_of_not_le less)
    omega
  · rw [Nat.sub_eq_zero_of_le single, pow_zero]
    exact positive

/-- A number has no more digits than bits. -/
theorem length_le_log {n : Nat} (positive : 0 < n) :
    (Nat.toDigits 10 n).length ≤ n.log2 + 1 := by
  have low : 2 ^ ((Nat.toDigits 10 n).length - 1) ≤ n :=
    (Nat.pow_le_pow_left (by decide) _).trans (pow_length_le positive)
  have := (Nat.le_log2 positive.ne').2 low
  omega

/-- No zero stands in front of a number. -/
theorem head?_toDigits {n : Nat} (positive : 0 < n) : (Nat.toDigits 10 n).head? ≠ some '0' := by
  induction n using Nat.strong_induction_on with
  | h n ih =>
    rcases Nat.lt_or_ge n 10 with single | several
    · rw [Nat.toDigits_of_lt_base single]
      interval_cases n <;> decide
    · rw [Nat.toDigits_of_base_le (by decide) several,
        List.head?_append_of_ne_nil _ Nat.toDigits_ne_nil]
      exact ih _ (Nat.div_lt_self positive (by decide)) (Nat.div_pos several (by decide))

theorem toList_decimal_natCast (n : Nat) : (decimal n).toList = Nat.toDigits 10 n := by
  simp [decimal, sign, digits]

theorem toList_decimal_of_neg {n : Int} (negative : n < 0) :
    (decimal n).toList = '-' :: Nat.toDigits 10 n.natAbs := by
  simp [decimal, sign, digits, negative]

end Numeral

namespace Reader

/-! ### Text that a file can hold as it is -/

/-- Whether a text has no control character but the line feed. -/
def Clean (s : List Char) : Prop := ∀ c ∈ s, 0x20 ≤ c.toNat ∨ c = '\n'

@[simp]
theorem clean_append {s t : List Char} : Clean (s ++ t) ↔ Clean s ∧ Clean t :=
  List.forall_mem_append

@[simp]
theorem clean_cons {c : Char} {s : List Char} :
    Clean (c :: s) ↔ (0x20 ≤ c.toNat ∨ c = '\n') ∧ Clean s :=
  List.forall_mem_cons

@[simp]
theorem clean_nil : Clean [] := nofun

/-! ### Runs of digits -/

/-- What may stand behind a value that has been written. None of it can go on with the value. -/
def stops : List Char := [',', ':', ')', ' ', '\n']

/-- Whether a row of characters is made of decimal digits. -/
def AllDigits (row : List Char) : Prop := ∀ c ∈ row, c.isDigit

theorem allDigits_toDigits (n : Nat) : AllDigits (Nat.toDigits 10 n) :=
  fun _ among => Nat.isDigit_of_mem_toDigits (by decide) (by decide) among

theorem AllDigits.append {row more : List Char} (first : AllDigits row) (second : AllDigits more) :
    AllDigits (row ++ more) :=
  List.forall_mem_append.2 ⟨first, second⟩

theorem AllDigits.take {row : List Char} (all : AllDigits row) (n : Nat) : AllDigits (row.take n) :=
  fun c among => all c (List.mem_of_mem_take among)

theorem AllDigits.drop {row : List Char} (all : AllDigits row) (n : Nat) : AllDigits (row.drop n) :=
  fun c among => all c (List.mem_of_mem_drop among)

theorem allDigits_zeros (n : Nat) : AllDigits (List.replicate n '0') := by
  intro c among
  rw [List.eq_of_mem_replicate among]
  rfl

theorem AllDigits.clean {row : List Char} (all : AllDigits row) : Clean row := fun c among => by
  have least : 0x30 ≤ c.toNat := (Char.isDigit_iff_toNat.1 (all c among)).1
  exact .inl (by omega)

/-- Whether a character neither is a digit nor joins digits. -/
def endsDigits (c : Char) : Bool := !c.isDigit && c != '_'

theorem decimalDigit?_of_isDigit {c : Char} (digit : c.isDigit) :
    decimalDigit? c = some (c.toNat - '0'.toNat) :=
  if_pos digit

theorem ne_underscore_of_isDigit {c : Char} (digit : c.isDigit) : c ≠ '_' := by
  rintro rfl
  exact absurd digit (by decide)

/-- A run of digits ends where something else follows. -/
theorem digitRun_nil {total count : Nat} {c : Char} {rest : List Char} (ends : endsDigits c) :
    digitRun decimalDigit? 10 total count (c :: rest) = (total, count, c :: rest) := by
  obtain ⟨other, apart⟩ : c.isDigit = false ∧ c ≠ '_' := by
    simpa [endsDigits] using ends
  have none : decimalDigit? c = none := by simp [decimalDigit?, other]
  unfold digitRun
  split
  · contradiction
  · next same =>
    cases same
    exact absurd rfl apart
  · next same =>
    cases same
    rw [none]

theorem digitRun_cons {total count : Nat} {c : Char} {rest : List Char} (digit : c.isDigit) :
    digitRun decimalDigit? 10 total count (c :: rest) =
      digitRun decimalDigit? 10 (total * 10 + (c.toNat - '0'.toNat)) (count + 1) rest := by
  conv_lhs => unfold digitRun
  split
  · contradiction
  · next same =>
    cases same
    exact absurd digit (by decide)
  · next same =>
    cases same
    rw [decimalDigit?_of_isDigit digit]

/-- A run of digits is read as a whole. -/
theorem digitRun_append {row : List Char} (all : AllDigits row) {c : Char} (ends : endsDigits c)
    (total count : Nat) (rest : List Char) :
    digitRun decimalDigit? 10 total count (row ++ c :: rest) =
      (Nat.ofDigitChars 10 row total, count + row.length, c :: rest) := by
  induction row generalizing total count with
  | nil => exact digitRun_nil ends
  | cons d row ih =>
    rw [List.cons_append, digitRun_cons (all d List.mem_cons_self),
      ih (fun c among => all c (List.mem_cons_of_mem d among)), Nat.ofDigitChars_cons,
      Nat.mul_comm total, List.length_cons]
    congr 2
    omega

/-! ### Numbers in base ten -/

section Decimal

variable {row ahead behind size : List Char} {c : Char} {rest : List Char}

theorem endsDigits_of_stop (stop : c ∈ stops) : endsDigits c := by
  simp only [stops, List.mem_cons, List.not_mem_nil, or_false] at stop
  rcases stop with rfl | rfl | rfl | rfl | rfl <;> rfl

/-- Digits alone are an integer, if no zero stands in front. -/
theorem decimalNumber_digits (all : AllDigits row) (some : row ≠ []) (stop : c ∈ stops)
    (short : row.length ≤ Numeral.longestDecimal)
    (plain : row.head? = Option.some '0' → Nat.ofDigitChars 10 row 0 = 0) :
    decimalNumber (row ++ c :: rest) =
      Option.some (.int (Nat.ofDigitChars 10 row 0), c :: rest) := by
  have front : (row ++ c :: rest).head? = row.head? := List.head?_append_of_ne_nil _ some
  have counted : row.length ≠ 0 := by simpa using some
  have run := digitRun_append all (endsDigits_of_stop stop) 0 0 rest
  unfold decimalNumber
  rw [run, front]
  simp only [stops, List.mem_cons, List.not_mem_nil, or_false] at stop
  by_cases zero : Nat.ofDigitChars 10 row 0 = 0
  · rcases stop with rfl | rfl | rfl | rfl | rfl <;> simp [exponent?, counted, zero]
  · have plain : row.head? ≠ Option.some '0' := fun front => zero (plain front)
    rcases stop with rfl | rfl | rfl | rfl | rfl <;>
      simp [exponent?, counted, zero, plain, Nat.not_lt.2 short]

/-- The digits in front of a point and behind it are one number. -/
theorem ofDigitChars_joined (ahead behind : List Char) :
    Nat.ofDigitChars 10 (ahead ++ behind) 0 =
      Nat.ofDigitChars 10 ahead 0 * 10 ^ behind.length + Nat.ofDigitChars 10 behind 0 := by
  rw [Nat.ofDigitChars_append, Nat.ofDigitChars_eq_ofDigitChars_zero, Nat.mul_comm]

/-- Digits around a point are a float. -/
theorem decimalNumber_positional (first : AllDigits ahead) (second : AllDigits behind)
    (more : behind ≠ []) (stop : c ∈ stops) :
    decimalNumber (ahead ++ '.' :: (behind ++ c :: rest)) =
      Option.some (.float (nearest (Nat.ofDigitChars 10 (ahead ++ behind) 0) (-behind.length)),
        c :: rest) := by
  have run := digitRun_append second (endsDigits_of_stop stop) 0 0 rest
  unfold decimalNumber
  rw [digitRun_append first (by rfl), ofDigitChars_joined]
  obtain ⟨d, behind, rfl⟩ := List.exists_cons_of_ne_nil more
  have apart : d ≠ '_' := ne_underscore_of_isDigit (second d List.mem_cons_self)
  simp only [stops, List.mem_cons, List.not_mem_nil, or_false] at stop
  rw [List.cons_append] at run ⊢
  rcases stop with rfl | rfl | rfl | rfl | rfl <;> simp [exponent?, apart, run]

/-- The sign of an exponent that is written with one. -/
def exponentSign (negative : Bool) : Char := if negative then '-' else '+'

theorem exponent?_signed (all : AllDigits size) (some : size ≠ []) (stop : c ∈ stops)
    (negative : Bool) (rest : List Char) :
    exponent? ('e' :: exponentSign negative :: (size ++ c :: rest)) =
      Option.some (if negative then -(Nat.ofDigitChars 10 size 0 : Int)
        else Nat.ofDigitChars 10 size 0, c :: rest) := by
  have run := digitRun_append all (endsDigits_of_stop stop) 0 0 rest
  have counted : 0 + size.length ≠ 0 := by simpa using some
  cases negative <;> simp [exponent?, exponentSign, run, some]

/-- The digits behind the first one of a number with an exponent, and their point. -/
def fractionText (behind : List Char) : List Char :=
  if behind.isEmpty then [] else '.' :: behind

/-- Digits with an exponent are a float, whether there is a point among them or not. -/
theorem decimalNumber_exponential {negative : Bool} (first : AllDigits ahead)
    (second : AllDigits behind) (all : AllDigits size) (some : ahead ≠ []) (more : size ≠ [])
    (stop : c ∈ stops) :
    decimalNumber (ahead ++ (fractionText behind ++
        'e' :: exponentSign negative :: (size ++ c :: rest))) =
      Option.some (.float (nearest (Nat.ofDigitChars 10 (ahead ++ behind) 0)
        ((if negative then -(Nat.ofDigitChars 10 size 0 : Int) else Nat.ofDigitChars 10 size 0) -
          behind.length)), c :: rest) := by
  have power := exponent?_signed all more stop negative rest
  unfold decimalNumber
  cases behind with
  | nil =>
    have run := digitRun_append first (show endsDigits 'e' by rfl) 0 0
      (exponentSign negative :: (size ++ c :: rest))
    simp only [stops, List.mem_cons, List.not_mem_nil, or_false] at stop
    rcases stop with rfl | rfl | rfl | rfl | rfl <;> simp [fractionText, run, power, some]
  | cons d behind =>
    have run := digitRun_append second (show endsDigits 'e' by rfl) 0 0
      (exponentSign negative :: (size ++ c :: rest))
    have apart : d ≠ '_' := ne_underscore_of_isDigit (second d List.mem_cons_self)
    rw [fractionText, List.isEmpty_cons, if_neg Bool.false_ne_true, List.cons_append,
      digitRun_append first (by rfl), ofDigitChars_joined]
    rw [List.cons_append] at run ⊢
    simp only [stops, List.mem_cons, List.not_mem_nil, or_false] at stop
    rcases stop with rfl | rfl | rfl | rfl | rfl <;> simp [apart, run, power]

/-! ### Numbers without a mark of their base -/

/-- The letters that say the base of a number, behind a zero. -/
def baseMarks : List Char := ['x', 'X', 'o', 'O', 'b', 'B']

/-- A number is in base ten unless its second character marks another one. -/
theorem number_eq_decimalNumber {s : List Char} (plain : ∀ c ∈ s.tail.head?, c ∉ baseMarks) :
    number s = decimalNumber s := by
  unfold number
  split
  all_goals first
    | rfl
    | exact absurd (by decide) (plain _ rfl)

theorem not_mem_baseMarks_of_isDigit (digit : c.isDigit) : c ∉ baseMarks := by
  intro mark
  simp only [baseMarks, List.mem_cons, List.not_mem_nil, or_false] at mark
  rcases mark with rfl | rfl | rfl | rfl | rfl | rfl <;> exact absurd digit (by decide)

/-- Digits with whatever follows them but a letter for a base start like a number in base ten. -/
theorem plain_of_digits (all : AllDigits row) (some : row ≠ []) (other : c ∉ baseMarks) :
    ∀ d ∈ (row ++ c :: rest).tail.head?, d ∉ baseMarks := by
  intro d next
  obtain ⟨first, row, rfl⟩ := List.exists_cons_of_ne_nil some
  cases row with
  | nil =>
    cases next
    exact other
  | cons second row =>
    cases next
    exact not_mem_baseMarks_of_isDigit (all _ (by simp))

/-- The digits of a number are read as the number. -/
theorem number_toDigits {n : Nat} (legible : Numeral.isLegible n) (stop : c ∈ stops) :
    number (Nat.toDigits 10 n ++ c :: rest) = some (.int n, c :: rest) := by
  have other : c ∉ baseMarks := by
    simp only [stops, List.mem_cons, List.not_mem_nil, or_false] at stop
    rcases stop with rfl | rfl | rfl | rfl | rfl <;> decide
  rw [number_eq_decimalNumber
    (plain_of_digits (allDigits_toDigits n) Nat.toDigits_ne_nil other),
    decimalNumber_digits (allDigits_toDigits n) Nat.toDigits_ne_nil stop
      (Numeral.length_toDigits_le legible), Nat.ofDigitChars_ten_toDigits]
  intro front
  rw [Nat.ofDigitChars_ten_toDigits]
  exact Nat.eq_zero_of_not_pos fun positive => Numeral.head?_toDigits positive front

end Decimal

end Reader

end DebugScopes
