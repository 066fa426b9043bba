import DebugScopes.Proofs.Text.Numerals

/-!
# Quoted text, there and back

What stands between two marks is read character by character: each piece that was written for a
character, or for a code that is no character, is read as its code. No piece starts with the mark,
so the string ends at the mark behind the last one.

* `Quoted.decodeBody_escape`, `Quoted.decodeBody_escapeHalf`: one piece;
* `Reader.quoted?_ofText`, `Reader.quoted?_ofCodes`, `Reader.quoted?_ofBytes`: whole strings.
-/

namespace DebugScopes

namespace Quoted

/-! ### Numbers in base sixteen -/

theorem hexDigit?_digitChar {d : Nat} (digit : d < 16) : hexDigit? d.digitChar = some d := by
  interval_cases d <;> rfl

theorem hexNumber?_cons {count value d : Nat} {s : List Char} (digit : d < 16) :
    hexNumber? (count + 1) value (d.digitChar :: s) = hexNumber? count (value * 16 + d) s := by
  rw [hexNumber?, hexDigit?_digitChar digit]

/-- The digits of a number are read as the number, on top of what stands in front. -/
theorem hexNumber?_toDigits (n : Nat) {count value : Nat} {s : List Char} :
    hexNumber? ((Nat.toDigits 16 n).length + count) value (Nat.toDigits 16 n ++ s) =
      hexNumber? count (value * 16 ^ (Nat.toDigits 16 n).length + n) s := by
  induction n using Nat.strong_induction_on generalizing count s with
  | h n ih =>
    rcases Nat.lt_or_ge n 16 with single | several
    · rw [Nat.toDigits_of_lt_base single, List.length_singleton, Nat.add_comm, Nat.pow_one]
      exact hexNumber?_cons single
    · have shorter : n / 16 < n := Nat.div_lt_self (by omega) (by decide)
      rw [Nat.toDigits_of_base_le (by decide) several, List.length_append, List.length_singleton,
        List.append_assoc, Nat.add_assoc, Nat.add_comm 1, ih _ shorter, List.singleton_append,
        hexNumber?_cons (Nat.mod_lt _ (by decide)), Nat.pow_succ]
      congr 1
      rw [Nat.add_mul, Nat.mul_assoc]
      omega

theorem hexNumber?_zeros (k : Nat) {count : Nat} {s : List Char} :
    hexNumber? (k + count) 0 (List.replicate k '0' ++ s) = hexNumber? count 0 s := by
  induction k with
  | zero => rw [Nat.zero_add]; rfl
  | succ k ih => rw [Nat.succ_add, List.replicate_succ]; exact ih

theorem toList_paddedHex (places n : Nat) : (Numeral.paddedHex places n).toList =
    List.replicate (places - (Nat.toDigits 16 n).length) '0' ++ Nat.toDigits 16 n := by
  have unsigned : Numeral.sign n = "" := if_neg (by omega)
  simp [Numeral.paddedHex, unsigned, Numeral.digits]

/-- A number in base sixteen is read back, if its places are enough for it. -/
theorem hexNumber?_paddedHex {places n : Nat} {s : List Char} (positive : 0 < places)
    (fits : n < 16 ^ places) :
    hexNumber? places 0 ((Numeral.paddedHex places n).toList ++ s) = some (n, s) := by
  have short : (Nat.toDigits 16 n).length ≤ places :=
    (Nat.length_toDigits_le_iff (by decide) positive).2 fits
  have filled : places = places - (Nat.toDigits 16 n).length +
      ((Nat.toDigits 16 n).length + 0) := by omega
  rw [toList_paddedHex, List.append_assoc]
  conv_lhs => arg 1; rw [filled]
  rw [hexNumber?_zeros, hexNumber?_toDigits, hexNumber?]
  simp

/-! ### One piece -/

section Pieces

variable {alphabet : Alphabet} {mark c : Char} {s after : List Char} {meant : List Nat}

/-- The marks around a string. -/
def marks : List Char := ['\'', '"']

/-- The string with a code in front. -/
def withFront (meant : List Nat) (read : List Nat × List Char) : List Nat × List Char :=
  (meant ++ read.1, read.2)

theorem decodeBody_mark : decodeBody alphabet ⟨mark, false⟩ (mark :: s) = some ([], s) := by
  unfold decodeBody
  simp [Closing.behind?]

/-- A character that stands for itself is read as its code. -/
theorem decodeBody_shown (unmarked : c ≠ mark) (line : c ≠ '\n') (unescaped : c ≠ '\\')
    (ascii : alphabet = .bytes → c.toNat < 0x80) :
    decodeBody alphabet ⟨mark, false⟩ (c :: s) =
      (decodeBody alphabet ⟨mark, false⟩ s).map (withFront [c.toNat]) := by
  have shown : ¬ (alphabet = .bytes ∧ 0x80 ≤ c.toNat) := fun ⟨bytes, high⟩ =>
    absurd (ascii bytes) (Nat.not_lt.2 high)
  conv_lhs => unfold decodeBody
  simp only [Closing.behind?, ne_eq, unmarked, not_false_eq_true, ↓reduceIte, line, false_and,
    unescaped, shown]
  rfl

/-- An escape is read as what it stands for. -/
theorem decodeBody_escaped (mark' : mark ∈ marks)
    (read : readEscape alphabet s = some (meant, after)) :
    decodeBody alphabet ⟨mark, false⟩ ('\\' :: s) =
      (decodeBody alphabet ⟨mark, false⟩ after).map (withFront meant) := by
  have unmarked : '\\' ≠ mark := by
    rintro rfl
    exact absurd mark' (by decide)
  conv_lhs => unfold decodeBody
  simp only [Closing.behind?, ne_eq, unmarked, not_false_eq_true, ↓reduceIte]
  rw [if_neg (by decide)]
  split
  · next none => rw [read] at none; cases none
  · next some =>
    rw [read] at some
    cases some
    rfl

theorem readEscape_letter {meant : Char} (letter : letterEscape? c = some meant) :
    readEscape alphabet (c :: s) = some ([meant.toNat], s) := by
  simp only [readEscape, letter]

/-- A code in base sixteen is read as the code. -/
theorem readEscape_code {letter : Char} {places n : Nat}
    (width : letter = 'x' ∧ places = 2 ∨ alphabet = .text ∧ letter = 'u' ∧ places = 4 ∨
      alphabet = .text ∧ letter = 'U' ∧ places = 8)
    (fits : n < 16 ^ places) (code : n < codeCount) :
    readEscape alphabet (letter :: ((Numeral.paddedHex places n).toList ++ s)) =
      some ([n], s) := by
  rcases width with ⟨rfl, rfl⟩ | ⟨rfl, rfl, rfl⟩ | ⟨rfl, rfl, rfl⟩ <;>
    simp [readEscape, letterEscape?, octalDigit?, hexNumber?_paddedHex _ fits, code]

/-- A character that is written by its code is read back. -/
theorem decodeBody_escapeCode (mark' : mark ∈ marks) (byte : alphabet = .bytes → c.toNat < 0x100) :
    decodeBody alphabet ⟨mark, false⟩ (escapeCode c ++ s) =
      (decodeBody alphabet ⟨mark, false⟩ s).map (withFront [c.toNat]) := by
  have code : c.toNat < codeCount := by
    rcases c.valid with low | ⟨_, high⟩
    · exact Nat.lt_trans low (by decide)
    · exact high
  have text : ¬ c.toNat < 0x100 → alphabet = .text := by
    intro wide
    cases alphabet
    · rfl
    · exact absurd (byte rfl) wide
  unfold escapeCode
  dsimp only
  split_ifs with two four
  · exact decodeBody_escaped mark' (readEscape_code (.inl ⟨rfl, rfl⟩) two code)
  · exact decodeBody_escaped mark'
      (readEscape_code (.inr (.inl ⟨text two, rfl, rfl⟩)) four code)
  · exact decodeBody_escaped mark' (readEscape_code (.inr (.inr ⟨text two, rfl, rfl⟩))
      (Nat.lt_trans code (by decide)) code)

/-- What is written for a character is read as its code. -/
theorem decodeBody_escape (mark' : mark ∈ marks) (byte : alphabet = .bytes → c.toNat < 0x100) :
    decodeBody alphabet ⟨mark, false⟩ (escape alphabet mark c ++ s) =
      (decodeBody alphabet ⟨mark, false⟩ s).map (withFront [c.toNat]) := by
  unfold escape
  split_ifs with special tab line back shown
  · have letter : letterEscape? c = some c := by
      simp only [marks, List.mem_cons, List.not_mem_nil, or_false] at mark'
      rcases special with rfl | rfl
      · rcases mark' with rfl | rfl <;> rfl
      · rfl
    exact decodeBody_escaped mark' (readEscape_letter letter)
  · rw [tab]; exact decodeBody_escaped mark' (readEscape_letter rfl)
  · rw [line]; exact decodeBody_escaped mark' (readEscape_letter rfl)
  · rw [back]; exact decodeBody_escaped mark' (readEscape_letter rfl)
  · refine decodeBody_shown (fun same => special (.inl same)) line
      (fun same => special (.inr same)) fun bytes => ?_
    rw [bytes] at shown
    simp only [Alphabet.shows, Bool.and_eq_true, decide_eq_true_eq] at shown
    omega
  · exact decodeBody_escapeCode mark' byte

/-- What is written for a code that is no character is read as the code. -/
theorem decodeBody_escapeHalf {code : Nat} (mark' : mark ∈ marks) (small : code < 16 ^ 4) :
    decodeBody .text ⟨mark, false⟩ (escapeHalf code ++ s) =
      (decodeBody .text ⟨mark, false⟩ s).map (withFront [code]) :=
  decodeBody_escaped mark' (readEscape_code (.inr (.inl ⟨rfl, rfl, rfl⟩)) small
    (Nat.lt_trans small (by decide)))

/-- No piece starts with the mark. -/
theorem front_escape (mark' : mark ∈ marks) :
    ∃ front more, escape alphabet mark c = front :: more ∧ front ≠ mark := by
  have unmarked : '\\' ≠ mark := by
    rintro rfl
    exact absurd mark' (by decide)
  unfold escape
  split_ifs with special
  · exact ⟨_, _, rfl, unmarked⟩
  · exact ⟨_, _, rfl, unmarked⟩
  · exact ⟨_, _, rfl, unmarked⟩
  · exact ⟨_, _, rfl, unmarked⟩
  · exact ⟨_, _, rfl, fun same => special (.inl same)⟩
  · unfold escapeCode
    dsimp only
    split_ifs <;> exact ⟨_, _, rfl, unmarked⟩

end Pieces

/-- One of the two marks is taken. -/
theorem markFor_mem (s : List Char) : markFor s ∈ marks := by
  unfold markFor
  split_ifs <;> decide

/-! ### What quoted strings are made of -/

theorem clean_toDigits (n : Nat) : Reader.Clean (Nat.toDigits 16 n) := by
  induction n using Nat.strong_induction_on with
  | h n ih =>
    have digit : ∀ d < 16, 0x20 ≤ d.digitChar.toNat := by decide
    rcases Nat.lt_or_ge n 16 with single | several
    · rw [Nat.toDigits_of_lt_base single]
      exact Reader.clean_cons.2 ⟨.inl (digit n single), Reader.clean_nil⟩
    · have shorter : n / 16 < n := Nat.div_lt_self (by omega) (by decide)
      rw [Nat.toDigits_of_base_le (by decide) several]
      exact Reader.clean_append.2 ⟨ih _ shorter,
        Reader.clean_cons.2 ⟨.inl (digit _ (Nat.mod_lt n (by decide))), Reader.clean_nil⟩⟩

theorem clean_paddedHex (places n : Nat) : Reader.Clean (Numeral.paddedHex places n).toList := by
  rw [toList_paddedHex]
  exact Reader.clean_append.2 ⟨(Reader.allDigits_zeros _).clean, clean_toDigits n⟩

theorem clean_escapeCode (c : Char) : Reader.Clean (escapeCode c) := by
  unfold escapeCode
  dsimp only
  split_ifs <;> simp [clean_paddedHex]

/-- What is no control character stands for itself, and any other one is written by its code. -/
theorem clean_escape (mark' : mark ∈ marks) : Reader.Clean (escape alphabet mark c) := by
  have marked : 0x20 ≤ mark.toNat := by
    simp only [marks, List.mem_cons, List.not_mem_nil, or_false] at mark'
    rcases mark' with rfl | rfl <;> decide
  unfold escape
  split_ifs with special tab line back shown
  · rcases special with rfl | rfl <;> simp [marked]
  · simp
  · simp
  · simp
  · have visible : 0x20 ≤ c.toNat := by
      cases alphabet
      · change Printable.isPrintable c = true at shown
        unfold Printable.isPrintable at shown
        split_ifs at shown
        · simpa using shown
        · omega
      · rw [Alphabet.shows, Bool.and_eq_true, decide_eq_true_iff] at shown
        exact shown.1
    exact Reader.clean_cons.2 ⟨.inl visible, Reader.clean_nil⟩
  · exact clean_escapeCode c

/-- Pieces between marks. -/
theorem clean_marked {α : Type} {xs : List α} {spell : α → List Char} (mark' : mark ∈ marks)
    (each : ∀ x ∈ xs, Reader.Clean (spell x)) :
    Reader.Clean (mark :: (xs.flatMap spell ++ [mark])) := by
  have marked : 0x20 ≤ mark.toNat := by
    simp only [marks, List.mem_cons, List.not_mem_nil, or_false] at mark'
    rcases mark' with rfl | rfl <;> decide
  have pieces : Reader.Clean (xs.flatMap spell) := fun c among =>
    let ⟨x, inside, letter⟩ := List.mem_flatMap.1 among
    each x inside c letter
  simp [marked, pieces]

theorem clean_ofText (s : String) : Reader.Clean (ofText s).toList := by
  rw [ofText, String.toList_ofList]
  exact clean_marked (markFor_mem _) fun c _ => clean_escape (markFor_mem _)

theorem clean_ofCodes (codes : List Nat) : Reader.Clean (ofCodes codes).toList := by
  rw [ofCodes, String.toList_ofList]
  refine clean_marked (markFor_mem _) fun code _ => ?_
  split
  · exact clean_escape (markFor_mem _)
  · simp [escapeHalf, clean_paddedHex]

theorem clean_ofBytes (b : List UInt8) : Reader.Clean (ofBytes b).toList := by
  rw [ofBytes, String.toList_ofList, Reader.clean_cons]
  exact ⟨.inl (by decide), clean_marked (markFor_mem _) fun c _ => clean_escape (markFor_mem _)⟩

end Quoted

namespace Reader

open Quoted

/-! ### Whole strings -/

section Strings

variable {α : Type} {alphabet : Alphabet} {mark c : Char} {rest : List Char} {xs : List α}
  {spell : α → List Char} {code : α → Nat}

/-- Pieces that are read as one code each are read as their codes. -/
theorem decodeBody_flatMap
    (undone : ∀ x ∈ xs, ∀ s, decodeBody alphabet ⟨mark, false⟩ (spell x ++ s) =
      (decodeBody alphabet ⟨mark, false⟩ s).map (withFront [code x])) :
    decodeBody alphabet ⟨mark, false⟩ (xs.flatMap spell ++ mark :: rest) =
      some (xs.map code, rest) := by
  induction xs with
  | nil => exact decodeBody_mark
  | cons x xs ih =>
    rw [List.flatMap_cons, List.append_assoc, undone x List.mem_cons_self,
      ih fun y among => undone y (List.mem_cons_of_mem x among)]
    rfl

theorem opened_of_ne {front : Char} {s : List Char} (unmarked : front ≠ mark) :
    opened mark (front :: s) = (⟨mark, false⟩, front :: s) := by
  cases s with
  | nil => rfl
  | cons d s => exact if_neg fun both => unmarked both.1

/-- One mark alone opens a string that does not start with the mark, or that is empty and not
followed by one. -/
theorem opened_flatMap (fronts : ∀ x ∈ xs, ∃ front more, spell x = front :: more ∧ front ≠ mark)
    (apart : c ≠ mark) :
    opened mark (xs.flatMap spell ++ mark :: c :: rest) =
      (⟨mark, false⟩, xs.flatMap spell ++ mark :: c :: rest) := by
  cases xs with
  | nil => exact if_neg fun both => apart both.2
  | cons x xs =>
    obtain ⟨front, more, spelled, unmarked⟩ := fronts x List.mem_cons_self
    rw [List.flatMap_cons, spelled, List.cons_append, List.cons_append]
    exact opened_of_ne unmarked

/-- A string between its marks is read as its codes. -/
theorem quotedOver?_flatMap (mark' : mark ∈ marks)
    (fronts : ∀ x ∈ xs, ∃ front more, spell x = front :: more ∧ front ≠ mark)
    (undone : ∀ x ∈ xs, ∀ s, decodeBody alphabet ⟨mark, false⟩ (spell x ++ s) =
      (decodeBody alphabet ⟨mark, false⟩ s).map (withFront [code x]))
    (apart : c ∉ marks) :
    quotedOver? alphabet (mark :: (xs.flatMap spell ++ [mark] ++ c :: rest)) =
      some (alphabet, xs.map code, c :: rest) := by
  have known : mark = '\'' ∨ mark = '"' := by simpa [marks] using mark'
  have differs : c ≠ mark := fun same => apart (same ▸ mark')
  rw [quotedOver?, if_pos known, List.append_assoc, List.singleton_append,
    opened_flatMap fronts differs]
  dsimp only
  rw [decodeBody_flatMap undone]
  rfl

theorem quoted?_of_mark {s : List Char} (mark' : mark ∈ marks) :
    quoted? (mark :: s) = quotedOver? .text (mark :: s) := by
  simp only [marks, List.mem_cons, List.not_mem_nil, or_false] at mark'
  rcases mark' with rfl | rfl <;> rfl

/-- A text is read back as its codes. -/
theorem quoted?_ofText (s : String) (apart : c ∉ marks) :
    quoted? ((ofText s).toList ++ c :: rest) =
      some (.text, s.toList.map (·.toNat), c :: rest) := by
  have mark' := markFor_mem s.toList
  rw [ofText, String.toList_ofList, encode, List.cons_append, quoted?_of_mark mark']
  exact quotedOver?_flatMap mark' (fun _ _ => front_escape mark')
    (fun _ _ _ => decodeBody_escape mark' (by rintro ⟨⟩)) apart

/-- A text is read back as its codes, also if some of them are no characters. -/
theorem quoted?_ofCodes {codes : List Nat} (bound : ∀ code ∈ codes, code < codeCount)
    (apart : c ∉ marks) :
    quoted? ((Quoted.ofCodes codes).toList ++ c :: rest) = some (.text, codes, c :: rest) := by
  have mark' := markFor_mem ((codes.filter (·.isValidChar)).map Char.ofNat)
  rw [Quoted.ofCodes, String.toList_ofList, List.cons_append, quoted?_of_mark mark']
  conv_rhs => rw [← codes.map_id]
  refine quotedOver?_flatMap mark' (fun code _ => ?_) (fun code among s => ?_) apart
  · split_ifs
    · exact front_escape mark'
    · refine ⟨_, _, rfl, ?_⟩
      rintro same
      exact absurd mark' (same ▸ by decide)
  · split_ifs with valid
    · rw [decodeBody_escape mark' (by rintro ⟨⟩), Char.toNat_ofNat, if_pos valid]
      rfl
    · refine decodeBody_escapeHalf mark' ?_
      have small := bound code among
      simp only [Nat.isValidChar, not_or, not_and, not_lt] at valid
      simp only [codeCount] at small
      omega

theorem toNat_ofNat_byte (b : UInt8) : (Char.ofNat b.toNat).toNat = b.toNat := by
  rw [Char.toNat_ofNat, if_pos (.inl (by have := b.toNat_lt; omega))]

/-- A byte string is read back as its bytes. -/
theorem quoted?_ofBytes (bytes : List UInt8) (apart : c ∉ marks) :
    quoted? ((Quoted.ofBytes bytes).toList ++ c :: rest) =
      some (.bytes, bytes.map (·.toNat), c :: rest) := by
  have mark' := markFor_mem (bytes.map fun b => Char.ofNat b.toNat)
  have codes : bytes.map (·.toNat) = (bytes.map fun b => Char.ofNat b.toNat).map (·.toNat) := by
    rw [List.map_map]
    exact List.map_congr_left fun b _ => (toNat_ofNat_byte b).symm
  rw [Quoted.ofBytes, String.toList_ofList, encode, codes]
  refine quotedOver?_flatMap mark' (fun _ _ => front_escape mark') (fun d among s => ?_) apart
  refine decodeBody_escape mark' fun _ => ?_
  obtain ⟨b, _, rfl⟩ := List.mem_map.1 among
  rw [toNat_ofNat_byte]
  exact b.toNat_lt

end Strings

end Reader

end DebugScopes
