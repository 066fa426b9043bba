import DebugScopes.Proofs.Value.Ways

/-!
# What a reader leaves

Every reader leaves less than it was given: a value takes one character at least. So reading a file
line by line comes to an end, whatever its lines hold. The induction is on the depth of the calls.

* `Reader.length_number`, `Reader.length_quoted?`: numbers and strings;
* `Reader.shortens`: values;
* `Reader.length_lineEnd?` and `Reader.length_line?`: lines.
-/

namespace DebugScopes.Reader

variable {depth level : Nat} {s rest : List Char} {close : Char} {comma inside minus : Bool}
  {v w : Value} {vs : List Value} {rows : List (Value × Value)}
  {alphabet : Quoted.Alphabet} {codes : List Nat}

/-! ### Blanks and names -/

theorem length_skip (comment inside : Bool) (s : List Char) :
    (skip comment inside s).length ≤ s.length := by
  fun_induction skip comment inside s <;> grind

theorem length_blanks (inside : Bool) (s : List Char) : (blanks inside s).length ≤ s.length :=
  length_skip false inside s

theorem length_name? {name : String} (read : name? s = some (name, rest)) :
    rest.length < s.length := by
  unfold name? at read
  dsimp only at read
  split_ifs at read with named
  cases read
  have split := congrArg List.length (List.takeWhile_append_dropWhile (p := isNameChar) (l := s))
  have some_front : s.takeWhile isNameChar ≠ [] := by
    intro empty
    rw [empty] at named
    cases named
  have front := List.length_pos_iff.2 some_front
  rw [List.length_append] at split
  omega

/-! ### Numbers -/

/-- A run of digits takes a character for each of them. -/
theorem length_digitRun {digit? : Char → Option Nat} {base total count n size : Nat}
    (run : digitRun digit? base total count s = (n, size, rest)) :
    rest.length + size ≤ s.length + count := by
  fun_induction digitRun digit? base total count s <;> grind

theorem length_marked {digit? : Char → Option Nat} {base : Nat}
    (read : marked digit? base s = some (v, rest)) : rest.length ≤ s.length := by
  unfold marked at read
  dsimp only at read
  split at read
  · cases read
  · next run =>
    cases read
    have taken := length_digitRun run
    split at taken
    · simp only [List.length_cons]
      omega
    · omega

theorem length_exponent? {e : Int} (read : exponent? s = some (e, rest)) :
    rest.length ≤ s.length := by
  unfold exponent? at read
  split at read
  · split_ifs at read
    dsimp only at read
    split at read
    · cases read
    · next run =>
      cases read
      have taken := length_digitRun run
      simp only [List.length_cons]
      split at taken <;> simp only [List.length_cons] at taken ⊢ <;> omega
  · cases read

/-- A number has a digit in front of its point or behind it. -/
theorem length_decimalNumber (read : decimalNumber s = some (v, rest)) :
    rest.length < s.length := by
  unfold decimalNumber at read
  split at read
  next whole wholeCount behind run =>
  split at read
  next all count after pointed point =>
  split at read
  next power last scaled =>
  have front := length_digitRun run
  have middle : after.length + count ≤ behind.length := by
    split at point
    · cases point
      simp
    · split at point
      next digits =>
      cases point
      have taken := length_digitRun digits
      simp only [List.length_cons]
      omega
    · cases point
      exact Nat.le_refl _
  have back : last.length ≤ after.length := by
    split at scaled
    · next found =>
      cases scaled
      exact length_exponent? found
    · cases scaled
      exact Nat.le_refl _
  dsimp only at read
  split_ifs at read
  all_goals
    split at read <;> cases read <;>
      first | omega | (rw [List.length_cons] at back; omega)

theorem length_number (read : number s = some (v, rest)) : rest.length < s.length := by
  unfold number at read
  split at read
  all_goals first
    | exact Nat.lt_succ_of_le (Nat.le_succ_of_le (length_marked read))
    | exact length_decimalNumber read

/-! ### Strings -/

theorem length_opened (mark : Char) (s : List Char) : (opened mark s).2.length ≤ s.length := by
  unfold opened
  split
  · split_ifs <;> simp only [List.length_cons] <;> omega
  · exact Nat.le_refl _

theorem length_quotedOver? {alphabet' : Quoted.Alphabet}
    (read : quotedOver? alphabet' s = some (alphabet, codes, rest)) :
    rest.length < s.length := by
  unfold quotedOver? at read
  split at read
  · next mark more =>
    split_ifs at read
    obtain ⟨⟨body, after⟩, found, same⟩ := Option.map_eq_some_iff.1 read
    cases same
    have inner : rest.length < (opened mark more).2.length := Quoted.decodeBody_length found
    have start := length_opened mark more
    simp only [List.length_cons]
    omega
  · cases read

theorem length_quoted? (read : quoted? s = some (alphabet, codes, rest)) :
    rest.length < s.length := by
  unfold quoted? at read
  split at read
  · exact Nat.lt_succ_of_lt (length_quotedOver? read)
  · exact Nat.lt_succ_of_lt (length_quotedOver? read)
  · exact length_quotedOver? read

theorem length_strings (read : strings inside depth alphabet codes s = some (v, rest)) :
    rest.length ≤ s.length := by
  induction depth generalizing codes s with
  | zero => cases read
  | succ depth ih =>
    rw [strings] at read
    split_ifs at read with more
    · split at read
      · next found =>
        split_ifs at read
        have := length_blanks inside s
        have := length_quoted? found
        have := ih read
        omega
      · cases read
    · cases read
      exact Nat.le_refl _

/-! ### Values -/

/-- Whatever the readers return within a depth of calls, they leave less than they were given. What
is added to a value may be nothing. -/
structure Shortens (depth : Nat) : Prop where
  value : ∀ {level s v rest}, value depth level s = some (v, rest) → rest.length < s.length
  addends : ∀ {level v s w rest},
    addends depth level v s = some (w, rest) → rest.length ≤ s.length
  plus : ∀ {level minus v s w rest},
    plus depth level minus v s = some (w, rest) → rest.length < s.length
  operand : ∀ {level s v rest}, operand depth level s = some (v, rest) → rest.length < s.length
  items : ∀ {level close s vs comma rest},
    items depth level close s = some (vs, comma, rest) → rest.length < s.length
  itemsFrom : ∀ {level close s vs comma rest},
    itemsFrom depth level close s = some (vs, comma, rest) → rest.length < s.length
  braces : ∀ {level s v rest}, braces depth level s = some (v, rest) → rest.length < s.length
  entries : ∀ {level s rows rest},
    entries depth level s = some (rows, rest) → rest.length < s.length
  entry : ∀ {level key s rows rest},
    entry depth level key s = some (rows, rest) → rest.length < s.length

theorem shortens_zero : Shortens 0 := by
  constructor <;> intros <;> rename_i read <;>
    simp [Reader.value, Reader.addends, Reader.plus, Reader.operand, Reader.items, Reader.itemsFrom,
      Reader.braces, Reader.entries, Reader.entry] at read

/-- A text whose blanks are dropped is no longer than it was. -/
theorem length_of_blanks {t : List Char} (dropped : blanks inside s = t) :
    t.length ≤ s.length := by
  rw [← dropped]
  exact length_blanks inside s

/-- A character that stands behind blanks is taken. -/
theorem length_of_blanks_cons {c : Char} {t : List Char} (dropped : blanks inside s = c :: t) :
    t.length < s.length := by
  have := length_of_blanks dropped
  rw [List.length_cons] at this
  exact this

namespace Shortens

theorem value_succ (ih : Shortens depth)
    (read : Reader.value (depth + 1) level s = some (v, rest)) : rest.length < s.length := by
  obtain ⟨first, mid, found, behind⟩ := value_way read
  exact Nat.lt_of_le_of_lt (ih.addends behind) (ih.operand found)

theorem addends_succ (ih : Shortens depth)
    (read : Reader.addends (depth + 1) level v s = some (w, rest)) : rest.length ≤ s.length := by
  rcases addends_way read with ⟨-, rfl⟩ | ⟨minus, more, sign, behind⟩
  · exact Nat.le_refl _
  · have := length_of_blanks_cons sign
    have := length_blanks (0 < level) more
    have := ih.plus behind
    omega

theorem plus_succ (ih : Shortens depth)
    (read : Reader.plus (depth + 1) level minus v s = some (w, rest)) :
    rest.length < s.length := by
  obtain ⟨other, mid, sum, found, -, behind⟩ := plus_way read
  exact Nat.lt_of_le_of_lt (ih.addends behind) (ih.operand found)

theorem operand_succ (ih : Shortens depth)
    (read : Reader.operand (depth + 1) level s = some (v, rest)) : rest.length < s.length := by
  -- behind a bracket or a sign
  have behind : ∀ {c : Char} {more between : List Char}, between.length ≤ more.length →
      rest.length < between.length → rest.length < (c :: more).length := by
    intro c more between front back
    rw [List.length_cons]
    omega
  cases operand_way read with
  | list inner => exact behind (Nat.le_refl _) (ih.items inner)
  | group inner => exact behind (Nat.le_refl _) (ih.items inner)
  | braces inner => exact behind (length_blanks true _) (ih.braces inner)
  | minus inner signed => exact behind (length_blanks _ _) (ih.operand inner)
  | plus inner signed => exact behind (length_blanks _ _) (ih.operand inner)
  | quoted first all => exact Nat.lt_of_le_of_lt (length_strings all) (length_quoted? first)
  | number read => exact length_number read
  | named front meant => exact length_name? front
  | called front opening inner meant =>
    have := length_name? front
    have := length_of_blanks_cons opening
    have := ih.items inner
    omega

theorem items_succ (ih : Shortens depth)
    (read : Reader.items (depth + 1) level close s = some (vs, comma, rest)) :
    rest.length < s.length :=
  ih.itemsFrom (items_way read).2

/-- What is read behind blanks leaves less than stood in front of them. -/
theorem value_behind (ih : Shortens depth)
    (read : Reader.value depth level (blanks inside s) = some (v, rest)) :
    rest.length < s.length :=
  (ih.value read).trans_le (length_blanks inside s)

theorem itemsFrom_succ (ih : Shortens depth)
    (read : Reader.itemsFrom (depth + 1) level close s = some (vs, comma, rest)) :
    rest.length < s.length := by
  cases itemsFrom_way read with
  | close closing => exact length_of_blanks_cons closing
  | last first closing => exact (length_of_blanks_cons closing).trans (ih.value_behind first)
  | cons first behind others =>
    have := ih.value_behind first
    have := length_of_blanks_cons behind
    have := ih.itemsFrom others
    omega

theorem braces_succ (ih : Shortens depth)
    (read : Reader.braces (depth + 1) level s = some (v, rest)) : rest.length < s.length := by
  cases braces_way read with
  | empty => exact Nat.lt_succ_self _
  | dict first colon inner =>
    have := ih.value first
    have := length_of_blanks_cons colon
    have := ih.entry inner
    omega
  | set first behind others fixed =>
    have := ih.value first
    have := length_of_blanks_cons behind
    have := ih.itemsFrom others
    omega
  | single first closing fixed => exact (length_of_blanks_cons closing).trans (ih.value first)

theorem entries_succ (ih : Shortens depth)
    (read : Reader.entries (depth + 1) level s = some (rows, rest)) :
    rest.length < s.length := by
  cases entries_way read with
  | close closing => exact length_of_blanks_cons closing
  | cons first colon inner =>
    have := ih.value_behind first
    have := length_of_blanks_cons colon
    have := ih.entry inner
    omega

theorem entry_succ {key : Value} (ih : Shortens depth)
    (read : Reader.entry (depth + 1) level key s = some (rows, rest)) :
    rest.length < s.length := by
  cases entry_way read with
  | last fixed val closing => exact (length_of_blanks_cons closing).trans (ih.value_behind val)
  | cons fixed val behind others =>
    have := ih.value_behind val
    have := length_of_blanks_cons behind
    have := ih.entries others
    omega

end Shortens

theorem shortens (depth : Nat) : Shortens depth := by
  induction depth with
  | zero => exact shortens_zero
  | succ depth ih =>
    exact ⟨ih.value_succ, ih.addends_succ, ih.plus_succ, ih.operand_succ, ih.items_succ,
      ih.itemsFrom_succ, ih.braces_succ, ih.entries_succ, ih.entry_succ⟩

/-! ### Lines -/

theorem length_further {count : Nat} (read : further count s = some (vs, comma, rest)) :
    rest.length ≤ s.length := by
  induction count generalizing s vs comma rest with
  | zero => cases read
  | succ count ih =>
    cases further_way read with
    | alone => exact Nat.le_refl _
    | last behind => exact (length_blanks false _).trans (length_of_blanks_cons behind).le
    | cons behind first others =>
      have := length_of_blanks_cons behind
      have := (shortens _).value_behind first
      have := ih others
      omega

theorem length_lineValue (read : lineValue s = some (v, rest)) : rest.length < s.length := by
  obtain ⟨first, mid, vs, comma, found, others, rfl⟩ := lineValue_way read
  exact Nat.lt_of_le_of_lt (length_further others) ((shortens _).value found)

/-- A line ends in a character of its own, or the text ends. -/
theorem length_lineEnd? (ends : lineEnd? s = some rest) : rest = [] ∨ rest.length < s.length := by
  unfold lineEnd? at ends
  split at ends
  · cases ends
    exact .inl rfl
  · next front =>
    cases ends
    exact .inr (length_of_blanks_cons front)
  · next comment front =>
    cases ends
    right
    have := length_of_blanks_cons front
    have := (List.dropWhile_sublist (· != '\n') (l := comment)).length_le
    rw [List.length_drop]
    omega
  · cases ends

theorem length_le_of_lineEnd? (ends : lineEnd? s = some rest) : rest.length ≤ s.length := by
  rcases length_lineEnd? ends with rfl | shorter
  · exact Nat.zero_le _
  · exact shorter.le

theorem length_indent (column joined : Nat) (s : List Char) :
    (indent column joined s).2.length ≤ s.length := by
  fun_induction indent column joined s <;> grind

theorem length_target? {name : String} (read : target? s = some (name, rest)) :
    rest.length < s.length := by
  rw [target?] at read
  split at read
  · cases read
  · next found =>
    split at read
    · next front =>
      cases read
      exact (length_of_blanks_cons front).trans (length_name? found)
    · cases read

/-- A line takes one character at least. -/
theorem length_line? {row : Option (String × Value)} (read : line? s = some (row, rest)) :
    rest.length < s.length := by
  have start : ∀ {column line}, indent 0 0 s = (column, line) → line.length ≤ s.length :=
    fun margin => by simpa [margin] using length_indent 0 0 s
  cases line?_way read with
  | value margin found ends =>
    have := start margin
    have := length_lineValue found
    have := length_le_of_lineEnd? ends
    omega
  | assigned margin target found ends =>
    have := start margin
    have := length_target? target
    have := (length_lineValue found).trans_le (length_blanks false _)
    have := length_le_of_lineEnd? ends
    omega

end DebugScopes.Reader
