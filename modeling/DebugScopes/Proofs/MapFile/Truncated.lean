import DebugScopes.Proofs.MapFile.Rows

/-!
# Files that end too early

A value that no file can hold stops the writing where it stands, with brackets that are open still.
What has been written by then cannot be read, whatever stands in front of the value: neither the map
nor any part of it comes back. The induction is the one of `reread`, on a value that is not written
as a whole.

* `MapFile.unended`: a value that ends too early;
* `MapFile.operand_display_stopped`: a display that does;
* `MapFile.load_stopped`: what is loaded of such a file.
-/

namespace DebugScopes

namespace Reader

variable {depth level : Nat} {s more : List Char} {close : Char} {v : Value}

/-! ### Where the text ends -/

theorem itemsFrom_nil : itemsFrom depth level close [] = none := by
  cases depth <;> simp [itemsFrom, blanks, skip]

theorem entries_nil : entries depth level [] = none := by
  cases depth <;> simp [entries, blanks, skip]

/-- A display whose next item cannot be read cannot be read. -/
theorem itemsFrom_unread (opens : Opens s) (closer : close ∈ closers)
    (unread : value depth level s = none) : itemsFrom (depth + 1) level close s = none := by
  rw [itemsFrom_of_opens opens closer, unread]

/-- A dictionary whose next key cannot be read cannot be read. -/
theorem entries_unread (opens : Opens s) (unread : value depth level s = none) :
    entries (depth + 1) level s = none := by
  rw [entries_of_opens opens, unread]

end Reader

namespace MapFile

open Reader

/-! ### What is written of a value -/

namespace Draft

variable {a b : Draft}

/-- Nothing is written behind a part that is not written as a whole. -/
theorem append_stopped (stopped : a.refused ≠ none) : a ++ b = a := by
  change append a b = a
  unfold append
  split
  · rfl
  · next whole => exact absurd whole stopped

end Draft

section Letters

variable {x k v : Value} {xs : List Value} {rest : List (Value × Value)}

theorem letters_list_stopped (stopped : (draftValue (.list xs)).refused ≠ none) :
    (draftItems xs).refused ≠ none ∧
      (draftValue (.list xs)).letters = '[' :: (draftItems xs).letters := by
  have inner : (draftItems xs).refused ≠ none := fun whole => stopped (by
    rw [draftValue]
    simp [whole])
  refine ⟨inner, ?_⟩
  rw [draftValue, Draft.append_stopped (by simpa using inner), Draft.letters_append rfl]
  rfl

theorem letters_items_stopped (stopped : (draftItems (x :: xs)).refused ≠ none) :
    ((draftValue x).refused ≠ none ∧ (draftItems (x :: xs)).letters = (draftValue x).letters) ∨
    ((draftValue x).refused = none ∧ (draftItems xs).refused ≠ none ∧
      (draftItems (x :: xs)).letters =
        (draftValue x).letters ++ ',' :: ' ' :: (draftItems xs).letters) := by
  by_cases whole : (draftValue x).refused = none
  · have others : (draftItems xs).refused ≠ none := fun whole' => stopped (by
      rw [draftItems]
      simp [whole, whole'])
    refine .inr ⟨whole, others, ?_⟩
    rw [draftItems, Draft.letters_append (by simp [whole]), Draft.letters_append whole]
    simp
  · refine .inl ⟨whole, ?_⟩
    rw [draftItems, Draft.append_stopped (by simpa using whole), Draft.append_stopped whole]

theorem letters_dict_stopped (stopped : (draftValue (.dict rest)).refused ≠ none) :
    (draftEntries rest).refused ≠ none ∧
      (draftValue (.dict rest)).letters = '\x7b' :: '\n' :: (draftEntries rest).letters := by
  have inner : (draftEntries rest).refused ≠ none := fun whole => stopped (by
    rw [draftValue]
    simp [whole])
  refine ⟨inner, ?_⟩
  rw [draftValue, Draft.append_stopped (by simpa using inner), Draft.letters_append rfl]
  rfl

/-- Of an entry that is not written as a whole, with those behind it: the key ends too early, or the
value, or the others do. -/
theorem letters_entries_stopped (stopped : (draftEntries ((k, v) :: rest)).refused ≠ none) :
    ((draftValue k).refused ≠ none ∧ (draftEntries ((k, v) :: rest)).letters =
      ' ' :: ' ' :: ' ' :: ' ' :: (draftValue k).letters) ∨
    ((draftValue k).refused = none ∧ (draftValue v).refused ≠ none ∧
      (draftEntries ((k, v) :: rest)).letters =
        ' ' :: ' ' :: ' ' :: ' ' :: ((draftValue k).letters ++ ':' :: ' ' ::
          (draftValue v).letters)) ∨
    ((draftValue k).refused = none ∧ (draftValue v).refused = none ∧
      (draftEntries rest).refused ≠ none ∧
      (draftEntries ((k, v) :: rest)).letters =
        ' ' :: ' ' :: ' ' :: ' ' :: ((draftValue k).letters ++ ':' :: ' ' ::
          ((draftValue v).letters ++ ',' :: '\n' :: (draftEntries rest).letters))) := by
  by_cases key : (draftValue k).refused = none
  · have front : (Draft.ofText "    " ++ draftValue k ++ .ofText ": ").refused = none := by
      simp [key]
    by_cases val : (draftValue v).refused = none
    · have others : (draftEntries rest).refused ≠ none := fun whole => stopped (by
        rw [draftEntries]
        simp [key, val, whole])
      refine .inr (.inr ⟨key, val, others, ?_⟩)
      rw [draftEntries, Draft.letters_append (by simp [key, val]),
        Draft.letters_append (by simp [key, val]), Draft.letters_append front,
        Draft.letters_append (by simp [key]), Draft.letters_append rfl]
      simp
    · refine .inr (.inl ⟨key, val, ?_⟩)
      rw [draftEntries, Draft.append_stopped (by simp [key, val]),
        Draft.append_stopped (by simp [key, val]), Draft.letters_append front,
        Draft.letters_append (by simp [key]), Draft.letters_append rfl]
      simp
  · refine .inl ⟨key, ?_⟩
    rw [draftEntries, Draft.append_stopped (by simp [key]), Draft.append_stopped (by simp [key]),
      Draft.append_stopped (by simp [key]), Draft.append_stopped (by simp [key]),
      Draft.letters_append rfl]
    simp

/-- What is written of a value that is not written as a whole is nothing or starts with the
value. -/
theorem opens_stopped (stopped : (draftValue v).refused ≠ none) :
    (draftValue v).letters = [] ∨ Opens (draftValue v).letters := by
  cases v with
  | int i =>
    rw [draftValue] at stopped ⊢
    split_ifs at stopped ⊢
    · exact absurd rfl stopped
    · exact .inl rfl
  | list xs =>
    rw [(letters_list_stopped stopped).2]
    exact .inr ⟨_, _, rfl, by decide, by decide⟩
  | tuple xs =>
    rw [draftValue_tuple] at stopped ⊢
    rw [(letters_list_stopped stopped).2]
    exact .inr ⟨_, _, rfl, by decide, by decide⟩
  | dict entries =>
    rw [(letters_dict_stopped stopped).2]
    exact .inr ⟨_, _, rfl, by decide, by decide⟩
  | complex | set | frozen | range | foreign => exact .inl rfl
  | null | bool | float | text | halves | bytes | buffer => exact absurd rfl stopped

theorem blanks_stopped (stopped : (draftValue v).refused ≠ none) :
    blanks true (draftValue v).letters = (draftValue v).letters := by
  rcases opens_stopped stopped with empty | opens
  · rw [empty]
    rfl
  · exact opens.blanks_eq

end Letters

/-! ### What is read of it -/

/-- What has been written of a value that ends too early cannot be read. -/
def Unended (v : Value) : Prop :=
  ∀ {depth level : Nat}, v.sound → (draftValue v).refused ≠ none → level ≤ deepest →
    4 * (draftValue v).letters.length ≤ depth → operand depth level (draftValue v).letters = none

/-- What has been written of items that end too early cannot be read. -/
def ItemsUnended (xs : List Value) : Prop :=
  ∀ {depth level : Nat}, Value.allSound xs → (draftItems xs).refused ≠ none → level ≤ deepest →
    4 * (draftItems xs).letters.length + 2 ≤ depth →
    itemsFrom depth level ']' (draftItems xs).letters = none

/-- What has been written of entries that end too early cannot be read. -/
def EntriesUnended (entries : List (Value × Value)) : Prop :=
  ∀ {depth level : Nat}, Value.entriesSound entries → (draftEntries entries).refused ≠ none →
    level ≤ deepest → 4 * (draftEntries entries).letters.length + 1 ≤ depth →
    Reader.entries depth level (draftEntries entries).letters = none

section Parts

variable {depth level : Nat} {x k v : Value} {xs : List Value} {entries more : List (Value × Value)}

theorem Unended.value (unended : Unended v) (sound : v.sound)
    (stopped : (draftValue v).refused ≠ none) (open' : level ≤ deepest)
    (room : 4 * (draftValue v).letters.length < depth) :
    value depth level (draftValue v).letters = none := by
  obtain ⟨depth, rfl⟩ : ∃ d, depth = d + 1 := ⟨depth - 1, by omega⟩
  rw [Reader.value, unended sound stopped open' (by omega)]

theorem unended_of_nil (nothing : (draftValue v).refused ≠ none → (draftValue v).letters = []) :
    Unended v := by
  intro depth level sound stopped open' room
  rw [nothing stopped]
  exact operand_nil

theorem unended_int (i : Int) : Unended (.int i) :=
  unended_of_nil fun stopped => by
    rw [draftValue] at stopped ⊢
    split_ifs at stopped ⊢
    · exact absurd rfl stopped
    · rfl

/-- A list ends too early if one of its items does. -/
theorem unended_list (inner : ItemsUnended xs) : Unended (.list xs) := by
  intro depth level sound stopped open' room
  obtain ⟨stopped', letters⟩ := letters_list_stopped stopped
  rw [letters] at room ⊢
  simp only [List.length_cons] at room
  obtain ⟨depth, rfl⟩ : ∃ d, depth = d + 2 := ⟨depth - 2, by omega⟩
  rw [operand_bracket, items_eq]
  by_cases deep : level < deepest
  · rw [if_pos deep, inner sound stopped' deep (by omega)]
    rfl
  · rw [if_neg deep]
    rfl

theorem unended_tuple (inner : ItemsUnended xs) : Unended (.tuple xs) :=
  fun sound stopped open' room => unended_list inner sound stopped open' room

theorem itemsUnended_cons (first : Unended x) (others : ItemsUnended xs) :
    ItemsUnended (x :: xs) := by
  intro depth level sound stopped open' room
  rw [Value.allSound, Bool.and_eq_true] at sound
  obtain ⟨depth, rfl⟩ : ∃ d, depth = d + 1 := ⟨depth - 1, by omega⟩
  rcases letters_items_stopped stopped with ⟨stopped', letters⟩ | ⟨whole, stopped', letters⟩
  · rw [letters] at room ⊢
    rcases opens_stopped stopped' with empty | opens
    · rw [empty]
      exact itemsFrom_nil
    · have unread : value depth level (draftValue x).letters = none :=
        first.value sound.1 stopped' open' (by omega)
      exact itemsFrom_unread opens (by decide) unread
  · rw [letters] at room ⊢
    simp only [List.length_cons, List.length_append] at room
    have read : value depth level ((draftValue x).letters ++
        ',' :: ' ' :: (draftItems xs).letters) = _ :=
      Reread.value (reread x) sound.1 whole open' (by omega) (by decide)
    have behind : itemsFrom depth level ']' (' ' :: (draftItems xs).letters) =
        if False then some ([], false, []) else none := by
      rw [itemsFrom_space, others sound.2 stopped' open' (by omega), if_neg not_false]
    rw [itemsFrom_cons ((opens_draftValue whole).append _) (by decide) read behind,
      if_neg fun both => both.2]

theorem entriesUnended_cons (key : Unended k) (val : Unended v) (others : EntriesUnended more) :
    EntriesUnended ((k, v) :: more) := by
  intro depth level sound stopped open' room
  rw [Value.entriesSound, Bool.and_eq_true, Bool.and_eq_true, Bool.and_eq_true] at sound
  obtain ⟨⟨⟨-, keySound⟩, sound⟩, sound'⟩ := sound
  rcases letters_entries_stopped stopped with ⟨stopped', letters⟩ |
    ⟨keyWhole, stopped', letters⟩ | ⟨keyWhole, whole, stopped', letters⟩
  all_goals
    rw [letters] at room ⊢
    simp only [List.length_cons, List.length_append] at room
    obtain ⟨depth, rfl⟩ : ∃ d, depth = d + 2 := ⟨depth - 2, by omega⟩
    simp only [entries_space]
  · rcases opens_stopped stopped' with empty | opens
    · rw [empty]
      exact entries_nil
    · have unread : value (depth + 1) level (draftValue k).letters = none :=
        key.value keySound stopped' open' (by omega)
      exact entries_unread opens unread
  · have readKey : value (depth + 1) level ((draftValue k).letters ++
        ':' :: ' ' :: (draftValue v).letters) = _ :=
      Reread.value (reread k) keySound keyWhole open' (by omega) (by decide)
    have readVal : value depth level (draftValue v).letters =
        if False then some (v, ',' :: []) else none := by
      rw [val.value sound stopped' open' (by omega), if_neg not_false]
    rw [entries_cons ((opens_draftValue keyWhole).append _) readKey (blanks_stopped stopped')
      readVal, if_neg fun all => all.2.2]
  · have readKey : value (depth + 1) level ((draftValue k).letters ++ ':' :: ' ' ::
        ((draftValue v).letters ++ ',' :: '\n' :: (draftEntries more).letters)) = _ :=
      Reread.value (reread k) keySound keyWhole open' (by omega) (by decide)
    have readVal : value depth level ((draftValue v).letters ++
        ',' :: '\n' :: (draftEntries more).letters) = _ :=
      Reread.value (reread v) sound whole open' (by omega) (by decide)
    rw [entries_cons ((opens_draftValue keyWhole).append _) readKey
      ((opens_draftValue whole).append _).blanks_eq readVal, entries_line,
      others sound' stopped' open' (by omega)]
    split_ifs <;> rfl

/-- Behind the first value of a dictionary that ends too early stands a colon, if anything does. -/
theorem colon_behind_first_stopped (keys : ∀ row ∈ entries.head?, Unended row.1)
    (sound : Value.entriesSound entries) (stopped : (draftEntries entries).refused ≠ none)
    (open' : level ≤ deepest) (room : 4 * (draftEntries entries).letters.length < depth) :
    ∀ first rest, value depth level (blanks true (draftEntries entries).letters) =
      some (first, rest) → ∃ more, blanks true rest = ':' :: more := by
  cases entries with
  | nil => exact absurd rfl stopped
  | cons row more =>
    obtain ⟨k, v⟩ := row
    rw [Value.entriesSound, Bool.and_eq_true, Bool.and_eq_true, Bool.and_eq_true] at sound
    rcases letters_entries_stopped stopped with ⟨stopped', letters⟩ |
      ⟨keyWhole, -, letters⟩ | ⟨keyWhole, -, -, letters⟩
    all_goals
      rw [letters] at room ⊢
      simp only [List.length_cons, List.length_append] at room
    · intro first rest read
      have key : Unended k := keys (k, v) rfl
      simp only [blanks_space] at read
      rw [blanks_stopped stopped', key.value sound.1.1.2 stopped' open' (by omega)] at read
      cases read
    · exact Reread.colon (reread k) sound.1.1.2 keyWhole open' (by omega)
    · exact Reread.colon (reread k) sound.1.1.2 keyWhole open' (by omega)

/-- A dictionary ends too early if one of its keys or values does. -/
theorem unended_dict (keys : ∀ row ∈ entries.head?, Unended row.1)
    (inner : EntriesUnended entries) : Unended (.dict entries) := by
  intro depth level sound stopped open' room
  rw [Value.sound, Bool.and_eq_true] at sound
  obtain ⟨stopped', letters⟩ := letters_dict_stopped stopped
  rw [letters] at room ⊢
  simp only [List.length_cons] at room
  obtain ⟨depth, rfl⟩ : ∃ d, depth = d + 2 := ⟨depth - 2, by omega⟩
  rw [operand_brace, blanks_line]
  by_cases deep : level < deepest
  · rw [braces_eq_entries deep
      (colon_behind_first_stopped keys sound.2 stopped' deep (by omega)),
      inner sound.2 stopped' deep (by omega)]
    rfl
  · exact braces_deep deep

end Parts

mutual

theorem unended : ∀ v : Value, Unended v
  | .int i => unended_int i
  | .list xs => unended_list (itemsUnended xs)
  | .tuple xs => unended_tuple (itemsUnended xs)
  | .dict [] => fun _ stopped => absurd rfl stopped
  | .dict ((k, v) :: more) =>
    unended_dict (by rintro row ⟨⟩; exact unended k)
      (entriesUnended_cons (unended k) (unended v) (entriesUnended more))
  | .null | .bool _ | .float _ | .text _ | .halves _ | .bytes _ | .buffer _ =>
    fun _ stopped => absurd rfl stopped
  | .complex _ _ | .set _ | .frozen _ | .range _ _ | .foreign _ => unended_of_nil fun _ => rfl

theorem itemsUnended : ∀ xs : List Value, ItemsUnended xs
  | [] => fun _ stopped => absurd rfl stopped
  | x :: xs => itemsUnended_cons (unended x) (itemsUnended xs)

theorem entriesUnended : ∀ entries : List (Value × Value), EntriesUnended entries
  | [] => fun _ stopped => absurd rfl stopped
  | (k, v) :: more => entriesUnended_cons (unended k) (unended v) (entriesUnended more)

end

/-! ### The rows of a map -/

section Rows

variable {depth : Nat} {row : Value × Value} {rows : Entries} {k v : Value}

/-- Of a row that is not written as a whole there is nothing, or its value ends too early. -/
theorem letters_row_stopped (some : k ≠ .null) (stopped : (draftRow (k, v)).refused ≠ none) :
    (draftRow (k, v)).letters = [] ∨
      k.legible ∧ (draftValue v).refused ≠ none ∧ (draftRow (k, v)).letters =
        ' ' :: ' ' :: (k.written.toList ++ ':' :: ' ' :: (draftValue v).letters) := by
  rw [draftRow_eq some] at stopped ⊢
  split_ifs at stopped ⊢ with legible
  · have inner : (draftValue v).refused ≠ none := fun whole => stopped (by simp [whole])
    refine .inr ⟨legible, inner, ?_⟩
    rw [Draft.append_stopped (by simpa using inner), Draft.letters_append rfl]
    simp
  · exact .inl rfl

theorem letters_rows_stopped (stopped : (draftRows (row :: rows)).refused ≠ none) :
    ((draftRow row).refused ≠ none ∧ (draftRows (row :: rows)).letters = (draftRow row).letters) ∨
    ((draftRow row).refused = none ∧ (draftRows rows).refused ≠ none ∧
      (draftRows (row :: rows)).letters = (draftRow row).letters ++ (draftRows rows).letters) := by
  by_cases whole : (draftRow row).refused = none
  · have others : (draftRows rows).refused ≠ none := fun whole' => stopped (by
      rw [draftRows]
      simp [whole, whole'])
    exact .inr ⟨whole, others, by rw [draftRows, Draft.letters_append whole]⟩
  · exact .inl ⟨whole, by rw [draftRows, Draft.append_stopped whole]⟩

/-- A row that ends too early cannot be read. -/
theorem entries_row_stopped (isRow : IsRow k v) (stopped : (draftRow (k, v)).refused ≠ none)
    (room : 4 * (draftRow (k, v)).letters.length ≤ depth) :
    entries depth 1 (draftRow (k, v)).letters = none := by
  rcases letters_row_stopped isRow.some stopped with empty | ⟨legible, inner, letters⟩
  · rw [empty]
    exact entries_nil
  · rw [letters] at room ⊢
    simp only [List.length_cons, List.length_append] at room
    obtain ⟨depth, rfl⟩ : ∃ d, depth = d + 2 := ⟨depth - 2, by omega⟩
    have readKey : value (depth + 1) 1 (k.written.toList ++
        ':' :: ' ' :: (draftValue v).letters) = _ :=
      KeyReread.value (keyReread k) isRow.storable isRow.key isRow.keySound legible (by decide)
        (by omega) (by decide)
    have readVal : value depth 1 (draftValue v).letters =
        if False then some (v, ',' :: []) else none := by
      rw [Unended.value (unended v) isRow.sound inner (by decide) (by omega), if_neg not_false]
    rw [entries_space, entries_space, entries_cons ((opens_key isRow.storable isRow.key).append _)
      readKey (blanks_stopped inner) readVal, if_neg fun all => all.2.2]

/-- Rows that end too early cannot be read. -/
theorem entries_rows_stopped (isRow : ∀ row ∈ rows, IsRow row.1 row.2)
    (stopped : (draftRows rows).refused ≠ none)
    (room : 4 * (draftRows rows).letters.length ≤ depth) :
    entries depth 1 (draftRows rows).letters = none := by
  induction rows generalizing depth with
  | nil => exact absurd rfl stopped
  | cons row rows ih =>
    obtain ⟨k, v⟩ := row
    have own : IsRow k v := isRow (k, v) List.mem_cons_self
    rcases letters_rows_stopped stopped with ⟨first, letters⟩ | ⟨whole, others, letters⟩
    · rw [letters] at room ⊢
      exact entries_row_stopped own first room
    · have some := two_le_length_draftRow own.some whole
      rw [letters, List.length_append] at room
      obtain ⟨depth, rfl⟩ : ∃ d, depth = d + 2 := ⟨depth - 2, by omega⟩
      rw [letters, entries_draftRow own whole (by omega),
        ih (fun row among => isRow row (List.mem_cons_of_mem _ among)) others (by omega)]
      split_ifs <;> rfl

/-- Behind the first value of rows that end too early stands a colon, if anything does. -/
theorem colon_behind_rows_stopped (isRow : ∀ row ∈ rows, IsRow row.1 row.2)
    (stopped : (draftRows rows).refused ≠ none)
    (room : 4 * (draftRows rows).letters.length ≤ depth) :
    ∀ first rest, value depth 1 (blanks true (draftRows rows).letters) = some (first, rest) →
      ∃ more, blanks true rest = ':' :: more := by
  cases rows with
  | nil => exact absurd rfl stopped
  | cons row rows =>
    obtain ⟨k, v⟩ := row
    have own : IsRow k v := isRow (k, v) List.mem_cons_self
    rcases letters_rows_stopped stopped with ⟨first, letters⟩ | ⟨whole, others, letters⟩
    · rw [letters] at room ⊢
      rcases letters_row_stopped own.some first with empty | ⟨legible, inner, row⟩
      · intro first rest read
        rw [empty] at read
        rw [show blanks true [] = [] from rfl, value_nil] at read
        cases read
      · rw [row] at room ⊢
        simp only [List.length_cons, List.length_append] at room
        exact colon_behind_key own legible (by omega)
    · rw [letters, List.length_append] at room
      rw [letters]
      exact colon_behind_row own whole (by omega)

/-- The display of rows that end too early. -/
def stoppedDisplay (rows : Entries) : List Char :=
  '\x7b' :: '\n' :: '\n' :: (draftRows rows).letters

theorem operand_display_stopped (isRow : ∀ row ∈ rows, IsRow row.1 row.2)
    (stopped : (draftRows rows).refused ≠ none) :
    operand (4 * (stoppedDisplay rows).length + 3) 0 (stoppedDisplay rows) = none := by
  have depth : 4 * (stoppedDisplay rows).length + 3 =
      4 * (draftRows rows).letters.length + 14 + 1 := by
    simp only [stoppedDisplay, List.length_cons]
    omega
  rw [depth, stoppedDisplay, operand_brace, blanks_line, blanks_line, braces_eq_entries (by decide)
    (colon_behind_rows_stopped isRow stopped (by omega)),
    entries_rows_stopped isRow stopped (by omega)]
  rfl

end Rows

/-! ### Files -/

section Files

variable {file name : String} {data defaults : Entries}

theorem letters_draft_stopped (stopped : (draft name data).refused ≠ none) :
    (draftRows data).refused ≠ none ∧
      (draft name data).letters = versionName.toList ++ ' ' :: '=' :: ' ' ::
        ((Numeral.decimal formatVersion).toList ++
          '\n' :: (name.toList ++ ' ' :: '=' :: ' ' :: stoppedDisplay data)) := by
  have inner : (draftRows data).refused ≠ none := fun whole => stopped (by
    rw [draft]
    simp [whole])
  refine ⟨inner, ?_⟩
  rw [draft, Draft.append_stopped (by simpa using inner), Draft.letters_append (by simp),
    Draft.letters_append rfl]
  simp [stoppedDisplay]

/-- A map whose writing was stopped leaves a file that cannot be read, and nothing is loaded of
it. -/
theorem load_stopped (file : String) (defaults : Entries) (named : Name.isName name.toList)
    (other : name ≠ versionName) (isRow : ∀ row ∈ data, IsRow row.1 row.2)
    (stopped : (draft name data).refused ≠ none) :
    load file name defaults (draft name data).text = .ok (defaults, [unread file]) := by
  obtain ⟨inner, letters⟩ := letters_draft_stopped stopped
  have clean : Clean (draft name data).letters := clean_draft named (clean_draftRows
    fun row among => ⟨(isRow row among).storable, (isRow row among).key⟩)
  have read := @assignments?_lines name none _ _ named clean letters
    ⟨_, _, rfl, by decide, by decide⟩ (operand_display_stopped isRow inner)
  refine load_of_unread other (read.trans ?_)
  split_ifs <;> rfl

end Files

end MapFile

end DebugScopes
