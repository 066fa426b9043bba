import DebugScopes.Proofs.Value.Shortening

/-!
# Reading line by line

A file is read from its top, line after line. Either every line can be read, and then the file is
the row of their assignments; or the reading gets stuck at a line, and then the file is nothing at
all, however many assignments stand above that line and whatever stands below it.

* `Reader.Reads`: the lines of a text up to a place;
* `Reader.reads_or_stuck`: a text can be read to its end, or the reading gets stuck;
* `Reader.assignments?_eq_some_iff`, `Reader.assignments?_eq_none_iff`: whole files.
-/

namespace DebugScopes.Reader

variable {lines : Nat} {s rest left : List Char} {rows : List (String × Value)} {text : String}

/-! ### Up to a place -/

/-- The lines of a text can be read up to a place: the assignments in them, and the text from that
place on. -/
inductive Reads : List Char → List (String × Value) → List Char → Prop
  /-- No line has been read yet. -/
  | nothing (s : List Char) : Reads s [] s
  /-- A line with nothing in it, or the end of the text. -/
  | blank {s rest left : List Char} {rows : List (String × Value)} (ends : lineEnd? s = some rest)
      (below : Reads rest rows left) : Reads s rows left
  /-- A line with a value, which is assigned or not. -/
  | line {s rest left : List Char} {rows : List (String × Value)} {row : Option (String × Value)}
      (more : lineEnd? s = none) (read : line? s = some (row, rest)) (below : Reads rest rows left) :
      Reads s (row.toList ++ rows) left

/-- The reading gets stuck: the line is not blank and cannot be read. -/
def Stuck (s : List Char) : Prop := lineEnd? s = none ∧ line? s = none

theorem not_stuck_nil : ¬ Stuck [] := fun stuck => nomatch stuck.1

/-- There is nothing behind the end of a text. -/
theorem Reads.of_nil (reads : Reads [] rows left) : rows = [] ∧ left = [] := by
  generalize empty : ([] : List Char) = s at reads
  induction reads with
  | nothing => exact ⟨rfl, rfl⟩
  | blank ends _ ih =>
    subst empty
    cases ends
    exact ih rfl
  | line more =>
    subst empty
    cases more

/-- Something is left of a text in which the reading gets stuck. -/
theorem Reads.ne_nil_of_stuck (reads : Reads s rows left) (stuck : Stuck left) : s ≠ [] := by
  rintro rfl
  exact not_stuck_nil (reads.of_nil.2 ▸ stuck)

/-- A text can be read to its end, or the reading gets stuck somewhere. -/
theorem reads_or_stuck (s : List Char) :
    (∃ rows, Reads s rows []) ∨ ∃ rows left, Reads s rows left ∧ Stuck left := by
  induction size : s.length using Nat.strong_induction_on generalizing s with
  | _ size ih =>
  subst size
  cases ends : lineEnd? s with
  | some rest =>
    rcases length_lineEnd? ends with rfl | shorter
    · exact .inl ⟨[], .blank ends (.nothing [])⟩
    · rcases ih rest.length shorter rest rfl with ⟨rows, reads⟩ | ⟨rows, left, reads, stuck⟩
      · exact .inl ⟨rows, .blank ends reads⟩
      · exact .inr ⟨rows, left, .blank ends reads, stuck⟩
  | none =>
    cases read : line? s with
    | none => exact .inr ⟨[], s, .nothing s, ends, read⟩
    | some found =>
      obtain ⟨row, rest⟩ := found
      rcases ih rest.length (length_line? read) rest rfl with
        ⟨rows, reads⟩ | ⟨rows, left, reads, stuck⟩
      · exact .inl ⟨_, .line ends read reads⟩
      · exact .inr ⟨_, left, .line ends read reads, stuck⟩

/-! ### All lines -/

theorem lines?_blank (ends : lineEnd? s = some rest) (lines : Nat) :
    lines? (lines + 1) s = if rest = [] then some [] else lines? lines rest := by
  rw [lines?, ends]
  cases rest <;> rfl

theorem lines?_line {row : Option (String × Value)} (more : lineEnd? s = none)
    (read : line? s = some (row, rest)) (lines : Nat) :
    lines? (lines + 1) s =
      (if rest = [] then some [] else lines? lines rest).map (row.toList ++ ·) := by
  rw [lines?, more]
  dsimp only
  rw [read]
  cases rest with
  | nil => exact congrArg some (List.append_nil _).symm
  | cons c rest => rfl

theorem lines?_stuck (stuck : Stuck s) (lines : Nat) : lines? lines s = none := by
  cases lines with
  | zero => rfl
  | succ lines =>
    rw [lines?, stuck.1]
    dsimp only
    rw [stuck.2]

/-- Of a text that can be read to its end, no assignment is lost. -/
theorem lines?_of_reads (reads : Reads s rows []) (enough : s.length < lines) :
    lines? lines s = some rows := by
  generalize whole : ([] : List Char) = left at reads
  induction reads generalizing lines with
  | nothing s =>
    subst whole
    obtain ⟨lines, rfl⟩ := Nat.exists_eq_add_one.2 enough
    rfl
  | @blank s rest left rows ends below ih =>
    obtain ⟨lines, rfl⟩ := Nat.exists_eq_add_one.2 (Nat.zero_lt_of_lt enough)
    rw [lines?_blank ends]
    split_ifs with last
    · subst last
      rw [below.of_nil.1]
    · have shorter := (length_lineEnd? ends).resolve_left last
      exact ih (by omega) whole
  | @line s rest left rows row more read below ih =>
    obtain ⟨lines, rfl⟩ := Nat.exists_eq_add_one.2 (Nat.zero_lt_of_lt enough)
    rw [lines?_line more read]
    split_ifs with last
    · subst last
      rw [below.of_nil.1]
      rfl
    · have shorter := length_line? read
      rw [ih (by omega) whole]
      rfl

/-- One line that cannot be read leaves nothing of the text. -/
theorem lines?_of_stuck (reads : Reads s rows left) (stuck : Stuck left) (lines : Nat) :
    lines? lines s = none := by
  induction reads generalizing lines with
  | nothing s => exact lines?_stuck stuck lines
  | @blank s rest left rows ends below ih =>
    cases lines with
    | zero => rfl
    | succ lines =>
      rw [lines?_blank ends, if_neg (below.ne_nil_of_stuck stuck)]
      exact ih stuck lines
  | @line s rest left rows row more read below ih =>
    cases lines with
    | zero => rfl
    | succ lines =>
      rw [lines?_line more read, if_neg (below.ne_nil_of_stuck stuck), ih stuck lines]
      rfl

/-- How many lines may be read does not matter, as long as there are enough for the text. -/
theorem lines?_eq_some_iff (enough : s.length < lines) :
    lines? lines s = some rows ↔ Reads s rows [] := by
  refine ⟨fun read => ?_, fun reads => lines?_of_reads reads enough⟩
  rcases reads_or_stuck s with ⟨rows', reads⟩ | ⟨rows', left, reads, stuck⟩
  · rw [lines?_of_reads reads enough] at read
    cases read
    exact reads
  · rw [lines?_of_stuck reads stuck] at read
    cases read

theorem lines?_eq_none_iff (enough : s.length < lines) :
    lines? lines s = none ↔ ∃ rows left, Reads s rows left ∧ Stuck left := by
  refine ⟨fun read => ?_, fun ⟨rows, left, reads, stuck⟩ => lines?_of_stuck reads stuck lines⟩
  rcases reads_or_stuck s with ⟨rows, reads⟩ | stuck
  · rw [lines?_of_reads reads enough] at read
    cases read
  · exact stuck

/-! ### Files -/

/-- Every line of a file can be read, and these are the assignments in them. There is no null
character in such a file. -/
def Assigns (text : String) (rows : List (String × Value)) : Prop :=
  '\x00' ∉ unifyLineEnds text.toList ∧ Reads (unifyLineEnds text.toList) rows []

/-- Some line of a file cannot be read, or there is a null character in it. -/
def Breaks (text : String) : Prop :=
  '\x00' ∈ unifyLineEnds text.toList ∨
    ∃ rows left, Reads (unifyLineEnds text.toList) rows left ∧ Stuck left

theorem assignments?_eq_some_iff : assignments? text = some rows ↔ Assigns text rows := by
  rw [assignments?, Assigns, List.contains_eq_mem]
  by_cases null : '\x00' ∈ unifyLineEnds text.toList
  · simp [null]
  · simp [null, lines?_eq_some_iff (Nat.lt_succ_self _)]

theorem assignments?_eq_none_iff : assignments? text = none ↔ Breaks text := by
  rw [assignments?, Breaks, List.contains_eq_mem]
  by_cases null : '\x00' ∈ unifyLineEnds text.toList
  · simp [null]
  · simp [null, lines?_eq_none_iff (Nat.lt_succ_self _)]

end DebugScopes.Reader
