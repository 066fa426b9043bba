import DebugScopes.Proofs.MapFile.Lines

/-!
# The rows of a map

A row of a map file is a key as it is written, and what is written for its value. The rows are read
one after the other, each as its key and what a file keeps of its value.

* `MapFile.entries_draftRow`: one row in front of others;
* `MapFile.entries_draftRows`: all rows in front of what follows;
* `MapFile.operand_display`: the display in braces.
-/

namespace DebugScopes.MapFile

open Reader

/-- Whether a key and a value can come up as a row of a map, and are of kinds that a file can
hold. -/
structure IsEntry (k v : Value) : Prop where
  storable : k.isStorable
  key : k.hashable
  keySound : k.sound
  sound : v.sound

/-- A row whose key is not null. -/
structure IsRow (k v : Value) : Prop extends IsEntry k v where
  some : k ≠ .null

/-- Whether a row can be read back. -/
def rowFits (row : Value × Value) : Bool := row.1.keyFits 1 && row.2.fits 1

section Rows

variable {depth : Nat} {row : Value × Value} {rows : Entries} {k v : Value} {s rest : List Char}

/-! ### The letters of rows -/

theorem draftRow_eq (some : k ≠ .null) :
    draftRow (k, v) =
      if k.legible then .ofText ("  " ++ k.written ++ ": ") ++ draftValue v ++ .ofText ",\n"
      else .refuse .illegible := by
  unfold draftRow
  split
  · next same => cases same; exact absurd rfl some
  · next same => cases same; rfl

theorem letters_draftRow (some : k ≠ .null) (whole : (draftRow (k, v)).refused = none) :
    k.legible ∧ (draftValue v).refused = none ∧
      (draftRow (k, v)).letters = ' ' :: ' ' :: (k.written.toList ++ ':' :: ' ' ::
        ((draftValue v).letters ++ [',', '\n'])) := by
  rw [draftRow_eq some] at whole ⊢
  split_ifs at whole ⊢ with legible
  · simp only [Draft.append_whole, Draft.refused_ofText, and_true, true_and] at whole
    refine ⟨legible, whole, ?_⟩
    rw [Draft.letters_append (by simp [whole]), Draft.letters_append rfl]
    simp
  · cases whole

theorem two_le_length_draftRow (some : k ≠ .null) (whole : (draftRow (k, v)).refused = none) :
    2 ≤ (draftRow (k, v)).letters.length := by
  rw [(letters_draftRow some whole).2.2]
  simp

theorem letters_draftRows (whole : (draftRows (row :: rows)).refused = none) :
    (draftRow row).refused = none ∧ (draftRows rows).refused = none ∧
      (draftRows (row :: rows)).letters = (draftRow row).letters ++ (draftRows rows).letters := by
  rw [draftRows] at whole ⊢
  rw [Draft.append_whole] at whole
  exact ⟨whole.1, whole.2, Draft.letters_append whole.1⟩

theorem draftRow_null : draftRow (.null, v) = draftValue v := rfl

/-- No row is written with a control character but the line feed. -/
theorem clean_draftRow (storable : k.isStorable) (key : k.hashable) :
    Clean (draftRow (k, v)).letters := by
  by_cases null : k = .null
  · subst null
    exact clean_draftValue v
  · rw [draftRow_eq null]
    split_ifs
    · refine Draft.clean_append (Draft.clean_append ?_ (clean_draftValue v)) (by simp)
      simp [clean_key k storable key]
    · exact clean_nil

theorem clean_draftRows (keys : ∀ row ∈ rows, row.1.isStorable ∧ row.1.hashable) :
    Clean (draftRows rows).letters := by
  induction rows with
  | nil => exact clean_nil
  | cons row rows ih =>
    obtain ⟨first, others⟩ := List.forall_mem_cons.1 keys
    exact Draft.clean_append (clean_draftRow first.1 first.2) (ih others)

/-! ### Reading rows -/

/-- A row is read with what follows it. -/
theorem entries_draftRow (isRow : IsRow k v) (whole : (draftRow (k, v)).refused = none)
    (room : 4 * (draftRow (k, v)).letters.length ≤ depth + 2) :
    entries (depth + 2) 1 ((draftRow (k, v)).letters ++ s) =
      if rowFits (k, v) then
        (entries depth 1 s).map fun read => ((k, v.kept) :: read.1, read.2)
      else none := by
  obtain ⟨legible, whole, letters⟩ := letters_draftRow isRow.some whole
  rw [letters] at room ⊢
  simp only [List.length_cons, List.length_append] at room
  have readVal : value depth 1 ((draftValue v).letters ++ ',' :: '\n' :: s) = _ :=
    Reread.value (reread v) isRow.sound whole (by decide) (by omega) (by decide)
  have readKey : value (depth + 1) 1 (k.written.toList ++
      ':' :: ' ' :: ((draftValue v).letters ++ ',' :: '\n' :: s)) = _ :=
    KeyReread.value (keyReread k) isRow.storable isRow.key isRow.keySound legible (by decide)
      (by omega) (by decide)
  have read := entries_cons ((opens_key isRow.storable isRow.key).append _) readKey
    ((opens_draftValue whole).append _).blanks_eq readVal
  simp only [List.cons_append, List.append_assoc, List.nil_append, entries_space]
  rw [read, entries_line]
  simp [rowFits, isRow.key]

/-- Rows are read one after the other, with what follows them. Some depth is left for that. -/
theorem entries_draftRows (isRow : ∀ row ∈ rows, IsRow row.1 row.2)
    (whole : (draftRows rows).refused = none)
    (room : 4 * ((draftRows rows).letters.length + s.length) ≤ depth) :
    ∃ left, 4 * s.length ≤ left ∧ entries depth 1 ((draftRows rows).letters ++ s) =
      if rows.all rowFits then
        (entries left 1 s).map fun read => (Value.keptEntries rows ++ read.1, read.2)
      else none := by
  induction rows generalizing depth with
  | nil =>
    have empty : (draftRows []).letters = [] := rfl
    rw [empty, List.length_nil, Nat.zero_add] at room
    refine ⟨depth, room, ?_⟩
    rw [empty, List.nil_append, List.all_nil, if_pos rfl]
    cases entries depth 1 s <;> rfl
  | cons row rows ih =>
    obtain ⟨k, v⟩ := row
    obtain ⟨first, others, letters⟩ := letters_draftRows whole
    have own : IsRow k v := isRow (k, v) List.mem_cons_self
    have some := two_le_length_draftRow own.some first
    rw [letters, List.length_append] at room
    -- A row takes two calls of the depth, and is longer than that.
    obtain ⟨depth, rfl⟩ : ∃ d, depth = d + 2 := ⟨depth - 2, by omega⟩
    obtain ⟨left, enough, read⟩ := @ih depth
      (fun row among => isRow row (List.mem_cons_of_mem _ among)) others (by omega)
    refine ⟨left, enough, ?_⟩
    rw [letters, List.append_assoc, entries_draftRow own first (by omega), read, List.all_cons]
    cases rowFits (k, v) with
    | false => rfl
    | true =>
      cases rows.all rowFits with
      | false => rfl
      | true => cases entries left 1 s <;> rfl

/-! ### The display -/

/-- What closes the display. -/
def closing : List Char := ['\n', '\x7d', '\n']

theorem entries_closing : entries (depth + 1) 1 closing = some ([], ['\n']) := by
  rw [closing, entries_line, entries_close]

/-- Behind the key of a row stands a colon. -/
theorem colon_behind_key (isRow : IsRow k v) (legible : k.legible)
    (room : 4 * k.written.toList.length < depth) :
    ∀ first rest', value depth 1
        (blanks true (' ' :: ' ' :: (k.written.toList ++ ':' :: rest))) = some (first, rest') →
          ∃ more, blanks true rest' = ':' :: more := by
  intro first rest' read
  simp only [blanks_space] at read
  rw [((opens_key isRow.storable isRow.key).append _).blanks_eq,
    KeyReread.value (keyReread k) isRow.storable isRow.key isRow.keySound legible (by decide)
      room (by decide)] at read
  split_ifs at read
  cases read
  exact ⟨_, blanks_divider (by decide)⟩

theorem colon_behind_row (isRow : IsRow k v) (whole : (draftRow (k, v)).refused = none)
    (room : 4 * (draftRow (k, v)).letters.length ≤ depth) :
    ∀ first rest, value depth 1 (blanks true ((draftRow (k, v)).letters ++ s)) =
      some (first, rest) → ∃ more, blanks true rest = ':' :: more := by
  obtain ⟨legible, -, letters⟩ := letters_draftRow isRow.some whole
  rw [letters] at room ⊢
  simp only [List.length_cons, List.length_append] at room
  simp only [List.cons_append, List.append_assoc]
  exact colon_behind_key isRow legible (by omega)

theorem length_display : (display rows).length = (draftRows rows).letters.length + 6 := by
  simp [display]

/-- The braces are opened, and then the rows are read. -/
theorem operand_display_eq : operand (4 * (display rows).length + 3) 0 (display rows) =
    braces (4 * (draftRows rows).letters.length + 26) 0
      (blanks true ((draftRows rows).letters ++ closing)) := by
  have depth : 4 * (display rows).length + 3 =
      4 * (draftRows rows).letters.length + 26 + 1 := by
    rw [length_display]
    omega
  rw [depth, display, operand_brace, blanks_line, blanks_line]
  rfl

/-- The display of a map without a null key is read as what a file keeps of it, or not at all. -/
theorem operand_display (isRow : ∀ row ∈ rows, IsRow row.1 row.2)
    (whole : (draftRows rows).refused = none) :
    operand (4 * (display rows).length + 3) 0 (display rows) =
      (if rows.all rowFits then some (.dict (Entries.ofList (Value.keptEntries rows)))
        else none).map fun v => (v, ['\n']) := by
  have keyed : ∀ first rest, value (4 * (draftRows rows).letters.length + 25) 1
      (blanks true ((draftRows rows).letters ++ closing)) = some (first, rest) →
        ∃ more, blanks true rest = ':' :: more := by
    cases rows with
    | nil =>
      intro first rest read
      change value _ 1 (blanks true ('\n' :: '\x7d' :: ['\n'])) = _ at read
      rw [blanks_line, blanks_cons (by decide), value_brace] at read
      cases read
    | cons row rows =>
      obtain ⟨k, v⟩ := row
      obtain ⟨first, -, letters⟩ := letters_draftRows whole
      rw [letters, List.append_assoc, List.length_append]
      exact colon_behind_row (isRow (k, v) List.mem_cons_self) first (by omega)
  obtain ⟨left, enough, read⟩ := @entries_draftRows (4 * (draftRows rows).letters.length + 26) rows
    closing isRow whole (by rw [closing]; simp; omega)
  obtain ⟨left, rfl⟩ : ∃ l, left = l + 1 := ⟨left - 1, by
    change 12 ≤ left at enough
    omega⟩
  rw [operand_display_eq, braces_eq_entries (by decide) keyed, read, entries_closing]
  split_ifs <;> simp

/-- A map without a null key is loaded if all its rows can be read back, and if its name stands for
itself as the target of an assignment. -/
theorem load_rows {file name : String} {defaults : Entries} (named : Name.isName name.toList)
    (other : name ≠ versionName) (isRow : ∀ row ∈ rows, IsRow row.1 row.2)
    (whole : (draft name rows).refused = none) :
    load file name defaults (draft name rows).text =
      if isAssignable name ∧ rows.all rowFits then
        given file name defaults (Normal.form name)
          (.dict (Entries.ofList (Value.keptEntries rows)))
      else .ok (defaults, [unread file]) := by
  have rowsWhole := (letters_draft whole).1
  rw [load_draft named other whole (clean_draftRows fun row among =>
    ⟨(isRow row among).storable, (isRow row among).key⟩) (operand_display isRow rowsWhole)]
  cases isAssignable name <;> cases rows.all rowFits <;> rfl

end Rows

end DebugScopes.MapFile
