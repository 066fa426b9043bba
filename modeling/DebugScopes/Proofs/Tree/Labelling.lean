import DebugScopes.Tree.Graph
import Mathlib

/-!
# What a label tells

A label is a row of lines, and a backslash in it takes the next character with it: with an `n` it
ends a line, and any other character stands for itself. The first line is the name of an entry, in
which quotes and backslashes have a backslash in front; the other lines need none.

* `shownLines`: the lines that a label shows, and `firstLine`: the first of them;
* `escapeLabel_inj`: what is escaped can be told apart;
* `Bare`: text without quotes and backslashes;
* `Entry.shownLines_label`: the lines of the label of an entry.
-/

namespace DebugScopes

/-! ### The lines of a label -/

/-- The lines that a label shows. A backslash with an `n` ends a line; with another character it
stands for that. -/
def shownLines : List Char → List (List Char)
  | [] => [[]]
  | '\\' :: 'n' :: rest => [] :: shownLines rest
  | '\\' :: c :: rest => (shownLines rest).modifyHead (c :: ·)
  | c :: rest => (shownLines rest).modifyHead (c :: ·)

/-- The name that a label starts with: what stands in front of the first line end, without the
backslashes that take another character. -/
def firstLine : List Char → List Char
  | [] => []
  | '\\' :: 'n' :: _ => []
  | '\\' :: c :: rest => c :: firstLine rest
  | c :: rest => c :: firstLine rest

/-- A label shows the name it starts with in its first line. -/
theorem shownLines_eq (s : List Char) : ∃ others, shownLines s = firstLine s :: others := by
  fun_induction firstLine s with
  | case1 => exact ⟨[], rfl⟩
  | case2 rest => exact ⟨shownLines rest, rfl⟩
  | case3 c rest other ih =>
    obtain ⟨others, split⟩ := ih
    exact ⟨others, by rw [shownLines, split, List.modifyHead_cons]; exact other⟩
  | case4 c rest lineEnd other ih =>
    obtain ⟨others, split⟩ := ih
    exact ⟨others, by rw [shownLines, split, List.modifyHead_cons]; exacts [lineEnd, other]⟩

/-! ### Escaping -/

/-- A text with another one in the place of a character. -/
def replaced (c : Char) (other s : List Char) : List Char :=
  s.flatMap fun d => if d = c then other else [d]

/-- Escaping replaces the backslashes first, so that those in front of the quotes stay as they
are. -/
theorem escapeLabel_eq_replaced (s : List Char) :
    escapeLabel s = replaced '"' ['\\', '"'] (replaced '\\' ['\\', '\\'] s) := by
  rw [replaced, replaced, List.flatMap_assoc, escapeLabel]
  refine List.flatMap_congr fun c _ => ?_
  by_cases backslash : c = '\\'
  · subst backslash
    rfl
  · by_cases quote : c = '"'
    · subst quote
      rfl
    · simp [backslash, quote]

theorem escapeLabel_cons (c : Char) (s : List Char) :
    escapeLabel (c :: s) = (if c = '\\' ∨ c = '"' then ['\\', c] else [c]) ++ escapeLabel s :=
  List.flatMap_cons

/-- What is escaped is shown as it was. -/
theorem shownLines_escapeLabel (s rest : List Char) :
    shownLines (escapeLabel s ++ rest) = (shownLines rest).modifyHead (s ++ ·) := by
  induction s with
  | nil => exact (congrFun List.modifyHead_id _).symm
  | cons c s ih =>
    rw [escapeLabel_cons, List.append_assoc]
    split
    · next special =>
      rw [List.cons_append, List.cons_append, List.nil_append, shownLines, ih,
        List.modifyHead_modifyHead]
      · rfl
      · rintro rfl
        rcases special with same | same <;> cases same
    · next plain =>
      rw [List.cons_append, List.nil_append, shownLines, ih, List.modifyHead_modifyHead]
      · rfl
      · exact fun _ same _ => plain (.inl same)
      · exact fun _ _ same _ => plain (.inl same)

theorem firstLine_escapeLabel (s rest : List Char) :
    firstLine (escapeLabel s ++ rest) = s ++ firstLine rest := by
  obtain ⟨others, split⟩ := shownLines_eq rest
  obtain ⟨others', split'⟩ := shownLines_eq (escapeLabel s ++ rest)
  rw [shownLines_escapeLabel, split, List.modifyHead_cons] at split'
  exact (List.cons_eq_cons.1 split').1.symm

theorem escapeLabel_inj {s s' : List Char} : escapeLabel s = escapeLabel s' ↔ s = s' := by
  refine ⟨fun same => ?_, congrArg _⟩
  have read := firstLine_escapeLabel s []
  rw [same, firstLine_escapeLabel] at read
  simpa [firstLine] using read.symm

/-! ### Text without quotes and backslashes -/

/-- Whether a text has no quotes and no backslashes. -/
def Bare (s : String) : Prop := ∀ c ∈ s.toList, c ≠ '"' ∧ c ≠ '\\'

instance (s : String) : Decidable (Bare s) :=
  List.decidableBAll (fun c => c ≠ '"' ∧ c ≠ '\\') s.toList

theorem Bare.shownLines {s : String} (bare : Bare s) (rest : List Char) :
    shownLines (s.toList ++ rest) = (shownLines rest).modifyHead (s.toList ++ ·) := by
  unfold Bare at bare
  generalize s.toList = letters at bare ⊢
  induction letters with
  | nil => exact (congrFun List.modifyHead_id _).symm
  | cons c letters ih =>
    obtain ⟨⟨-, backslash⟩, others⟩ := List.forall_mem_cons.1 bare
    rw [List.cons_append, DebugScopes.shownLines, ih others, List.modifyHead_modifyHead]
    · rfl
    · exact fun _ same _ => backslash same
    · exact fun _ _ same _ => backslash same

/-- Bare lines are shown one below the other. -/
theorem shownLines_flatMap {row : List String} (bare : ∀ line ∈ row, Bare line) :
    shownLines (row.flatMap fun line => '\\' :: 'n' :: line.toList) = [] :: row.map (·.toList) := by
  induction row with
  | nil => rfl
  | cons line row ih =>
    obtain ⟨first, others⟩ := List.forall_mem_cons.1 bare
    rw [List.flatMap_cons, List.cons_append, List.cons_append, shownLines, first.shownLines,
      ih others, List.modifyHead_cons, List.append_nil]
    rfl

theorem Bare.append {s s' : String} (front : Bare s) (back : Bare s') : Bare (s ++ s') := by
  unfold Bare
  rw [String.toList_append]
  exact List.forall_mem_append.2 ⟨front, back⟩

theorem bare_intercalate {mark : String} {row : List String} (between : Bare mark)
    (each : ∀ s ∈ row, Bare s) : Bare (mark.intercalate row) := by
  induction row with
  | nil => exact String.intercalate_nil ▸ (by decide)
  | cons s row ih =>
    obtain ⟨first, others⟩ := List.forall_mem_cons.1 each
    cases row with
    | nil => exact String.intercalate_singleton ▸ first
    | cons s' row =>
      rw [String.intercalate_cons_cons]
      exact (first.append between).append (ih others)

theorem bare_digits {base : Nat} (least : 1 < base) (most : base ≤ 16) (n : Nat) :
    Bare (Numeral.digits base n) := by
  have digit : ∀ d < 16, Bare (String.ofList [d.digitChar]) := by decide
  unfold Numeral.digits
  induction n using Nat.strong_induction_on with
  | h n ih =>
    rcases Nat.lt_or_ge n base with single | several
    · rw [Nat.toDigits_of_lt_base single]
      exact digit n (by omega)
    · have last : n % base < base := Nat.mod_lt n (by omega)
      rw [Nat.toDigits_of_base_le least several, String.ofList_append]
      exact (ih _ (Nat.div_lt_self (by omega) least)).append (digit _ (by omega))

theorem bare_sign (n : Int) : Bare (Numeral.sign n) := by
  unfold Numeral.sign
  split <;> decide

theorem bare_decimal (n : Int) : Bare (Numeral.decimal n) :=
  (bare_sign n).append (bare_digits (by decide) (by decide) _)

theorem bare_hex (n : Int) : Bare (Numeral.hex n) :=
  (bare_sign n).append (bare_digits (by decide) (by decide) _)

theorem bare_markedHex (n : Int) : Bare (Numeral.markedHex n) :=
  ((bare_sign n).append (by decide)).append (bare_digits (by decide) (by decide) _)

theorem bare_tagName (e : Entry) : Bare e.tagName := by
  have named : ∀ row ∈ Dwarf.Tag.table, Bare row.2 := by decide +kernel
  have family : Bare "DW_TAG_" := by decide
  unfold Entry.tagName Dwarf.Tag.name Dwarf.nameIn
  split
  · decide
  · split
    · next row found => exact family.append (named row (List.mem_of_find?_eq_some found))
    · exact family.append (bare_markedHex _)

theorem CodeRange.bare_label {r : CodeRange} {text : String} (closed : r.label? = some text) :
    Bare text := by
  obtain ⟨high, -, rfl⟩ := Option.map_eq_some_iff.1 closed
  exact ((bare_hex _).append (by decide)).append (bare_hex _)

/-! ### The label of an entry -/

namespace Entry

/-- What a label says behind the name, line by line: the tag, the ranges that are closed, the
address, the reference and the abbreviation code. -/
def lines (e : Entry) : List String :=
  [e.tagName, "r=" ++ ", ".intercalate (e.ranges.filterMap fun r =>
      r.high.map fun high => Numeral.hex r.low ++ "-" ++ Numeral.hex high),
    "a=" ++ e.place.elim "" fun place => Numeral.hex place.addr,
    "ref=" ++ e.target.elim "-" Numeral.hex,
    "abbrev=" ++ e.place.elim "" fun place => Numeral.decimal place.code]

theorem bare_lines (e : Entry) : ∀ line ∈ e.lines, Bare line := by
  have ranges : Bare (", ".intercalate (e.ranges.filterMap CodeRange.label?)) := by
    refine bare_intercalate (by decide) fun text among => ?_
    obtain ⟨r, -, closed⟩ := List.mem_filterMap.1 among
    exact r.bare_label closed
  have addr : Bare (e.place.elim "" fun place => Numeral.hex place.addr) := by
    cases e.place with
    | none => decide
    | some place => exact bare_hex _
  have target : Bare (e.target.elim "-" Numeral.hex) := by
    cases e.target with
    | none => decide
    | some target => exact bare_hex _
  have code : Bare (e.place.elim "" fun place => Numeral.decimal place.code) := by
    cases e.place with
    | none => decide
    | some place => exact bare_decimal _
  have key {s : String} (known : s ∈ ["r=", "a=", "ref=", "abbrev="]) : Bare s := by
    revert s
    decide
  simp only [lines, List.forall_mem_cons]
  exact ⟨bare_tagName e, (key (by simp)).append ranges, (key (by simp)).append addr,
    (key (by simp)).append target, (key (by simp)).append code, nofun⟩

/-- A label is the name, escaped, and each other line behind a line end. -/
theorem toList_label (e : Entry) :
    e.label.toList = escapeLabel (e.name.getD "").toList ++
      e.lines.flatMap fun line => '\\' :: 'n' :: line.toList := by
  unfold label lines
  cases e.place <;> cases e.target <;> simp [CodeRange.label?]

/-- A label tells the name. -/
theorem firstLine_label (e : Entry) : firstLine e.label.toList = (e.name.getD "").toList := by
  rw [toList_label, firstLine_escapeLabel, lines, List.flatMap_cons, List.cons_append]
  exact List.append_nil _

/-- A label shows the name, as it is, and the other lines below it. -/
theorem shownLines_label (e : Entry) :
    shownLines e.label.toList = (e.name.getD "").toList :: e.lines.map (·.toList) := by
  rw [toList_label, shownLines_escapeLabel, shownLines_flatMap e.bare_lines, List.modifyHead_cons,
    List.append_nil]

end Entry

end DebugScopes
