import DebugScopes.Proofs.MapFile.Rows
import DebugScopes.Proofs.Value.Ways

/-!
# Maps with a null key

For the null key of a map its value alone is written, and what follows runs into it. A text takes
the next key with it if that is a text as well, and from a number a negative next key is taken off.
Otherwise the display ends there or cannot be read. Either way no null key comes back.

* `MapFile.ends_value`: how the value of the null key ends;
* `MapFile.keyed_display`: the display in braces, read up to its end if it can be read;
* `MapFile.find?_null_of_load`: no map is loaded with a null key.
-/

namespace DebugScopes

namespace Reader

variable {depth level : Nat} {s mid rest more : List Char} {k v w : Value} {minus : Bool}

/-! ### Strings side by side -/

/-- Two strings side by side are one, unless their alphabets differ. -/
theorem operand_strings {alphabet other : Quoted.Alphabet} {codes body : List Nat}
    (first : quoted? s = some (alphabet, codes, mid))
    (second : quoted? (blanks (0 < level) mid) = some (other, body, rest))
    (alone : startsQuoted (blanks (0 < level) rest) = false) :
    operand (depth + 3) level s =
      if other = alphabet then some (stringValue alphabet (codes ++ body), rest) else none := by
  rw [operand_quoted (startsQuoted_of_quoted? first) first, strings,
    if_pos (startsQuoted_of_quoted? second), second]
  dsimp only
  rw [strings_alone alone]

theorem stringValue_ne_null (alphabet : Quoted.Alphabet) (codes : List Nat) :
    stringValue alphabet codes ≠ .null := by
  cases alphabet with
  | text =>
    rw [stringValue, Value.ofCodes]
    split <;> rintro ⟨⟩
  | bytes => rintro ⟨⟩

/-! ### Sums -/

/-- What is no number cannot be added. -/
theorem added_of_noNumber (whole : w.int? = none) (parts : realParts? w = none) :
    added minus v w = none := by
  unfold added
  rw [whole, parts]
  cases v.int? <;> cases realParts? v <;> rfl

theorem added_of_negated (unsigned : negated w = none) : added minus v w = none := by
  cases w <;> first | cases unsigned; done | exact added_of_noNumber rfl rfl

theorem added_of_affirmed (unsigned : affirmed w = none) : added minus v w = none := by
  cases w <;> first | cases unsigned; done | exact added_of_noNumber rfl rfl

theorem added_ne_null (sum : added minus v w = some k) : k ≠ .null := by
  rintro rfl
  unfold added at sum
  split at sum
  · cases sum
  · split at sum
    · next x y z w _ _ => cases y <;> cases w <;> cases sum
    · cases sum

/-! ### Values that run into what follows -/

/-- How the value of a null key has ended: behind the key that comes next, which has become a part
of it, or where its display can at most be closed. -/
inductive Ends (mid : List Char) : Value → List Char → Prop
  | key {first : Value} (some : first ≠ .null) : Ends mid first (':' :: mid)
  | stuck {first : Value} {front : Char} {rest more : List Char}
      (ahead : blanks true rest = front :: more) (colon : front ≠ ':') (comma : front ≠ ',')
      (last : front = '\x7d' → more = ['\n']) : Ends mid first rest

/-- What is taken off a value or added to it ends as it does itself. -/
theorem ends_plus {first : Value}
    (read : ∀ w rest, operand depth level s = some (w, rest) →
      rest = ':' :: mid ∨ added minus v w = none)
    (sum : plus (depth + 1) level minus v s = some (first, rest)) : Ends mid first rest := by
  obtain ⟨w, behind, both, part, total, after⟩ := plus_way sum
  rcases read w behind part with rfl | none
  · cases depth with
    | zero => rw [operand] at part; cases part
    | succ depth =>
      have unsigned : ∀ d ∈ (blanks (0 < level) (':' :: mid)).head?, d ≠ '+' ∧ d ≠ '-' := by
        rw [blanks_divider (by decide)]
        rintro d ⟨⟩
        decide
      rw [addends_unsigned unsigned] at after
      cases after
      exact .key (added_ne_null total)
  · rw [none] at total
    cases total

/-- What is read behind a sign is read of the whole, up to the sign. -/
theorem behind_sign {f : Value → Option Value} {p : Prop} [Decidable p]
    {read : Option (Value × List Char)}
    (whole : (read.bind fun read => (f read.1).map (·, read.2)) =
      if p then some (k, ':' :: mid) else none) (part : read = some (w, rest)) :
    rest = ':' :: mid ∨ f w = none := by
  rw [part, Option.bind_some] at whole
  cases signed : f w with
  | none => exact .inr rfl
  | some u =>
    rw [signed, Option.map_some] at whole
    split_ifs at whole
    · cases whole
      exact .inl rfl

/-- A value with a key behind it takes the key off if that has a sign, and ends there otherwise. -/
theorem ends_addends {key : List Char} {first : Value} {p : Prop} [Decidable p] (opens : Opens key)
    (read : operand (depth + 1) 1 (key ++ ':' :: mid) =
      if p then some (k, ':' :: mid) else none)
    (sum : addends (depth + 2) 1 v (' ' :: ' ' :: (key ++ ':' :: mid)) = some (first, rest)) :
    Ends mid first rest := by
  have ahead : ∀ inside, blanks inside (' ' :: ' ' :: (key ++ ':' :: mid)) = key ++ ':' :: mid :=
    fun inside => by rw [blanks_space, blanks_space, (opens.append _).blanks_eq]
  rw [addends, ahead] at sum
  split at sum
  · next more same =>
    rw [same, operand_plus] at read
    exact ends_plus (fun w rest part => (behind_sign read part).imp_right added_of_affirmed) sum
  · next more same =>
    rw [same, operand_minus] at read
    exact ends_plus (fun w rest part => (behind_sign read part).imp_right added_of_negated) sum
  · cases sum
    have front := ahead true
    obtain ⟨_, _, rfl, -, other⟩ := opens
    exact .stuck front (by rintro rfl; exact other (by decide))
      (by rintro rfl; exact other (by decide)) (by rintro rfl; exact absurd (by decide) other)

end Reader

namespace MapFile

open Reader

variable {depth : Nat} {k v first : Value} {mid rest : List Char}

/-- A string is written as what a file keeps of it. -/
theorem letters_string (string : v.isString) (sound : v.sound) :
    v.kept.isString ∧ v.kept.isAtom ∧ v.kept.sound ∧
      (draftValue v).letters = v.kept.written.toList := by
  cases v with
  | text | halves | bytes | buffer => exact ⟨rfl, rfl, sound, rfl⟩
  | _ => cases string

theorem isAtom_of_isString (key : k.hashable) (string : k.isString) : k.isAtom := by
  cases k with
  | text | halves | bytes => rfl
  | buffer => cases key
  | _ => cases string

/-- The value of a null key runs into the next key. -/
theorem ends_value (sound : v.sound) (whole : (draftValue v).refused = none)
    (storable : k.isStorable) (key : k.hashable) (keySound : k.sound) (legible : k.legible)
    (room : 4 * ((draftValue v).letters.length + k.written.toList.length) ≤ depth)
    (read : value depth 1 ((draftValue v).letters ++ ' ' :: ' ' ::
      (k.written.toList ++ ':' :: mid)) = some (first, rest)) : Ends mid first rest := by
  have written := length_key_pos storable key
  have written' := length_draftValue_pos whole
  have opens := opens_key storable key
  obtain ⟨depth, rfl⟩ : ∃ d, depth = d + 4 := ⟨depth - 4, by omega⟩
  -- Only if both are strings does the value go on where the key starts.
  by_cases strings : v.isString ∧ k.isString
  · obtain ⟨string, atom, sound, letters⟩ := letters_string strings.1 sound
    obtain ⟨alphabet, codes, -, quoted⟩ := exists_string string atom sound
    obtain ⟨other, body, -, quoted'⟩ :=
      exists_string strings.2 (isAtom_of_isString key strings.2) keySound
    have next : quoted? (blanks (0 < 1) (' ' :: ' ' :: (k.written.toList ++ ':' :: mid))) =
        some (other, body, ':' :: mid) := by
      rw [blanks_space, blanks_space, (opens.append _).blanks_eq, quoted' (by decide)]
    rw [letters, value_of_operand (by decide) (operand_strings (quoted (by decide)) next
      (unquoted_divider (by decide)))] at read
    split_ifs at read
    · cases read
      exact .key (stringValue_ne_null alphabet _)
  · have alone : v.isString → startsQuoted (blanks (0 < 1)
        (' ' :: ' ' :: (k.written.toList ++ ':' :: mid))) = false := fun string => by
      rw [blanks_space, blanks_space, (opens.append _).blanks_eq]
      exact unquoted_key storable key fun both => strings ⟨string, both⟩
    rw [value, reread v sound whole (by decide) (by omega) (by decide) alone] at read
    split_ifs at read
    · exact ends_addends opens (keyReread k storable key keySound legible (by decide) (by omega)
        (by decide) fun _ => unquoted_divider (by decide)) read

theorem blanks_closing : blanks true closing = ['\x7d', '\n'] := by
  rw [closing, blanks_line, blanks_cons (by decide)]

/-- The value of the last key, if that is null, runs into the end of the display. -/
theorem ends_value_closing (sound : v.sound) (whole : (draftValue v).refused = none)
    (room : 4 * (draftValue v).letters.length < depth)
    (read : value depth 1 ((draftValue v).letters ++ closing) = some (first, rest)) :
    Ends mid first rest := by
  have written := length_draftValue_pos whole
  obtain ⟨depth, rfl⟩ : ∃ d, depth = d + 2 := ⟨depth - 2, by omega⟩
  have unsigned : ∀ d ∈ (blanks (0 < 1) closing).head?, d ≠ '+' ∧ d ≠ '-' := by
    change ∀ d ∈ (blanks true closing).head?, _
    rw [blanks_closing]
    rintro d ⟨⟩
    decide
  have part : operand (depth + 1) 1 ((draftValue v).letters ++ closing) = _ :=
    reread v sound whole (by decide) (by omega) (by decide) fun _ => by
      change startsQuoted (blanks true closing) = false
      rw [blanks_closing]
      rfl
  rw [value, part] at read
  split_ifs at read
  · replace read : addends (depth + 1) 1 v.kept closing = some (first, rest) := read
    rw [addends_unsigned unsigned] at read
    cases read
    exact .stuck blanks_closing (by decide) (by decide) fun _ => rfl

/-! ### Rows in which a null key may stand -/

/-- What is read of rows, if it can be read, goes up to the end of the display, and no key is
null. -/
def RowsKeyed (read : Option (List (Value × Value) × List Char)) : Prop :=
  ∀ rows rest, read = some (rows, rest) → rest = ['\n'] ∧ ∀ row ∈ rows, row.1 ≠ .null

/-- What is read of a display, if it can be read, goes up to its end, and no key in it is null. -/
def Keyed (read : Option (Value × List Char)) : Prop :=
  ∀ v rest, read = some (v, rest) →
    rest = ['\n'] ∧ ∀ rows, v = .dict rows → ∀ row ∈ rows, row.1 ≠ .null

section Keyed

variable {s : List Char} {read : Option (List (Value × Value) × List Char)} {rows : Entries}

theorem rowsKeyed_none : RowsKeyed none := nofun

/-- One more row. -/
theorem RowsKeyed.cons (keyed : RowsKeyed read) (some : k ≠ .null) :
    RowsKeyed (read.map fun read => ((k, v) :: read.1, read.2)) := by
  rintro rows rest whole
  obtain ⟨⟨others, behind⟩, part, same⟩ := Option.map_eq_some_iff.1 whole
  cases same
  obtain ⟨last, others⟩ := keyed _ _ part
  exact ⟨last, List.forall_mem_cons.2 ⟨some, others⟩⟩

/-- No key of a dictionary is null if none of its rows has one. -/
theorem ne_null_of_mem_ofList (keys : ∀ row ∈ rows, row.1 ≠ .null) :
    ∀ row ∈ Entries.ofList rows, row.1 ≠ .null := fun row among =>
  (Entries.forall_overlay (K := (· ≠ .null)) (V := fun _ => True) (List.forall_mem_nil _)
    (fun row among => ⟨keys row among, trivial⟩) row among).1

theorem RowsKeyed.dict (keyed : RowsKeyed read) :
    Keyed (read.map fun read => (.dict (Entries.ofList read.1), read.2)) := by
  rintro v rest whole
  obtain ⟨⟨rows, behind⟩, part, same⟩ := Option.map_eq_some_iff.1 whole
  cases same
  obtain ⟨last, keys⟩ := keyed _ _ part
  refine ⟨last, ?_⟩
  rintro _ ⟨⟩
  exact ne_null_of_mem_ofList keys

/-- Rows whose first key ends with the next one. -/
theorem rowsKeyed_entries (opens : Opens s)
    (ends : ∀ first rest, value depth 1 s = some (first, rest) → Ends mid first rest)
    (behind : ∀ first, first ≠ .null → RowsKeyed (entry depth 1 first mid)) :
    RowsKeyed (entries (depth + 1) 1 s) := by
  intro rows rest read
  cases entries_way read with
  | close closing =>
    rw [opens.blanks_eq] at closing
    exact absurd closing (opens.ne_closer (by decide))
  | cons first colon inner =>
    rw [opens.blanks_eq] at first
    cases ends _ _ first with
    | key some =>
      rw [blanks_divider (by decide)] at colon
      cases colon
      exact behind _ some _ _ inner
    | stuck ahead other =>
      rw [ahead] at colon
      cases colon
      exact absurd rfl other

/-- A display whose first key ends with the next one. -/
theorem keyed_braces (opens : Opens s)
    (ends : ∀ first rest, value depth 1 s = some (first, rest) → Ends mid first rest)
    (behind : ∀ first, first ≠ .null → RowsKeyed (entry depth 1 first mid)) :
    Keyed (braces (depth + 1) 0 s) := by
  intro v rest read
  cases braces_way read with
  | empty => exact absurd rfl (opens.ne_closer (by decide))
  | dict first colon inner =>
    cases ends _ _ first with
    | key some =>
      rw [blanks_divider (by decide)] at colon
      cases colon
      exact (behind _ some).dict _ _ (by rw [inner]; rfl)
    | stuck ahead other =>
      rw [ahead] at colon
      cases colon
      exact absurd rfl other
  | set first comma =>
    cases ends _ _ first with
    | key =>
      rw [blanks_divider (by decide)] at comma
      cases comma
    | stuck ahead _ other =>
      rw [ahead] at comma
      cases comma
      exact absurd rfl other
  | single first closing fixed =>
    cases ends _ _ first with
    | key =>
      rw [blanks_divider (by decide)] at closing
      cases closing
    | stuck ahead _ _ last =>
      rw [ahead] at closing
      cases closing
      refine ⟨last rfl, ?_⟩
      rintro rows rfl
      unfold Reader.setOf at fixed
      split_ifs at fixed
      cases fixed

end Keyed

/-! ### The display -/

section Display

variable {s : List Char} {rows : Entries}

/-- Rows without a null key. -/
theorem rowsKeyed_rows (isRow : ∀ row ∈ rows, IsRow row.1 row.2)
    (whole : (draftRows rows).refused = none)
    (room : 4 * ((draftRows rows).letters.length + 3) ≤ depth) :
    RowsKeyed (entries depth 1 ((draftRows rows).letters ++ closing)) := by
  obtain ⟨left, enough, read⟩ := entries_draftRows isRow whole (s := closing) room
  obtain ⟨left, rfl⟩ : ∃ l, left = l + 1 := ⟨left - 1, by
    change 12 ≤ left at enough
    omega⟩
  rw [read, entries_closing]
  split_ifs
  · rintro _ _ ⟨⟩
    refine ⟨rfl, fun row among => ?_⟩
    rw [List.append_nil] at among
    obtain ⟨row', below, same⟩ := Value.mem_keptEntries_key.1 ⟨row, among, rfl⟩
    rw [← same]
    exact (isRow row' below).some
  · exact rowsKeyed_none

/-- A first row with a null key, which runs into the next one. -/
theorem ends_draftRow_null (sound : v.sound)
    (whole : (draftRows ((.null, v) :: rows)).refused = none)
    (isRow : ∀ row ∈ rows, IsRow row.1 row.2)
    (room : 4 * (draftRows ((.null, v) :: rows)).letters.length + 12 ≤ depth) :
    ∃ mid,
      (∀ first rest, value (depth + 1) 1 ((draftRows ((.null, v) :: rows)).letters ++ closing) =
        some (first, rest) → Ends mid first rest) ∧
      ∀ first, first ≠ .null → RowsKeyed (Reader.entry (depth + 1) 1 first mid) := by
  obtain ⟨own, others, letters⟩ := letters_draftRows whole
  rw [letters] at room ⊢
  rw [draftRow_null] at own room ⊢
  cases rows with
  | nil =>
    have last : (draftRows []).letters = [] := rfl
    rw [last, List.append_nil] at room ⊢
    refine ⟨[], fun first rest => ends_value_closing sound own (by omega), fun first _ => ?_⟩
    rw [entry, show blanks true [] = [] from rfl, value_nil]
    exact rowsKeyed_none
  | cons row rows =>
    obtain ⟨k, w⟩ := row
    obtain ⟨next, others, letters⟩ := letters_draftRows others
    have first : IsRow k w := isRow (k, w) List.mem_cons_self
    obtain ⟨legible, valWhole, rowLetters⟩ := letters_draftRow first.some next
    rw [letters, rowLetters] at room ⊢
    simp only [List.length_append, List.length_cons] at room
    simp only [List.append_assoc, List.cons_append]
    refine ⟨_, fun _ _ => ends_value sound own first.storable first.key first.keySound legible
      (by omega), fun _ some => ?_⟩
    have val : value depth 1 ((draftValue w).letters ++
        ',' :: '\n' :: ((draftRows rows).letters ++ closing)) = _ :=
      Reread.value (reread w) first.sound valWhole (by decide) (by omega) (by decide)
    rw [List.nil_append, entry_cons ((opens_draftValue valWhole).append _).blanks_eq val]
    split_ifs
    · rw [entries_line]
      exact (rowsKeyed_rows (fun row among => isRow row (List.mem_cons_of_mem _ among)) others
        (by omega)).cons some
    · exact rowsKeyed_none

theorem opens_draftRow_null (whole : (draftRows ((.null, v) :: rows)).refused = none) :
    Opens (draftRows ((.null, v) :: rows)).letters := by
  obtain ⟨own, -, letters⟩ := letters_draftRows whole
  rw [letters]
  exact (opens_draftValue own).append _

/-- Behind a null key no other key is null. -/
theorem isRow_behind_null (isEntry : ∀ row ∈ rows, IsEntry row.1 row.2)
    (differ : Value.keysDiffer ((.null, v) :: rows)) : ∀ row ∈ rows, IsRow row.1 row.2 := by
  rw [Value.keysDiffer, Bool.and_eq_true, List.all_eq_true] at differ
  refine fun row among => ⟨isEntry row among, fun null => ?_⟩
  have other := differ.1 row among
  rw [null] at other
  cases other

/-- Rows in one of which the key may be null. -/
theorem rowsKeyed_draftRows (isEntry : ∀ row ∈ rows, IsEntry row.1 row.2)
    (differ : Value.keysDiffer rows) (whole : (draftRows rows).refused = none)
    (room : 4 * (draftRows rows).letters.length + 14 ≤ depth) :
    RowsKeyed (entries depth 1 ((draftRows rows).letters ++ closing)) := by
  induction rows generalizing depth with
  | nil => exact rowsKeyed_rows nofun whole (by omega)
  | cons row rows ih =>
    obtain ⟨k, v⟩ := row
    have own : IsEntry k v := isEntry (k, v) List.mem_cons_self
    have others : ∀ row ∈ rows, IsEntry row.1 row.2 := fun row among =>
      isEntry row (List.mem_cons_of_mem _ among)
    obtain ⟨depth, rfl⟩ : ∃ d, depth = d + 2 := ⟨depth - 2, by omega⟩
    by_cases null : k = .null
    · subst null
      obtain ⟨mid, ends, behind⟩ := @ends_draftRow_null depth v rows own.sound whole
        (isRow_behind_null others differ) (by omega)
      exact rowsKeyed_entries ((opens_draftRow_null whole).append _) ends behind
    · obtain ⟨ownWhole, others', letters⟩ := letters_draftRows whole
      have some := two_le_length_draftRow null ownWhole
      rw [letters, List.length_append] at room
      rw [letters, List.append_assoc, entries_draftRow ⟨own, null⟩ ownWhole (by omega)]
      rw [Value.keysDiffer, Bool.and_eq_true] at differ
      split_ifs
      · exact (ih others differ.2 others' (by omega)).cons null
      · exact rowsKeyed_none

/-- The display of a map never gives a dictionary with a null key. -/
theorem keyed_display (isEntry : ∀ row ∈ rows, IsEntry row.1 row.2)
    (differ : Value.keysDiffer rows) (whole : (draftRows rows).refused = none) :
    Keyed (operand (4 * (display rows).length + 3) 0 (display rows)) := by
  rw [operand_display_eq]
  cases rows with
  | nil =>
    rintro v rest read
    have empty : (draftRows []).letters = [] := rfl
    rw [empty, List.nil_append, blanks_closing, braces, if_neg (by decide), if_pos rfl] at read
    cases read
    refine ⟨rfl, ?_⟩
    rintro _ ⟨⟩
    exact List.forall_mem_nil _
  | cons row rows =>
    obtain ⟨k, v⟩ := row
    by_cases null : k = .null
    · subst null
      have own : IsEntry .null v := isEntry (.null, v) List.mem_cons_self
      obtain ⟨mid, ends, behind⟩ := @ends_draftRow_null
        (4 * (draftRows ((.null, v) :: rows)).letters.length + 24) v rows own.sound whole
        (isRow_behind_null (fun row among => isEntry row (List.mem_cons_of_mem _ among)) differ)
        (by omega)
      have opens := (opens_draftRow_null whole).append closing
      rw [opens.blanks_eq]
      exact keyed_braces opens ends behind
    · obtain ⟨own, -, letters⟩ := letters_draftRows whole
      have keyed : ∀ first rest, value (4 * (draftRows ((k, v) :: rows)).letters.length + 25) 1
          (blanks true ((draftRows ((k, v) :: rows)).letters ++ closing)) = some (first, rest) →
            ∃ more, blanks true rest = ':' :: more := by
        rw [letters, List.append_assoc, List.length_append]
        exact colon_behind_row ⟨isEntry _ List.mem_cons_self, null⟩ own (by omega)
      rw [braces_eq_entries (by decide) keyed]
      exact (rowsKeyed_draftRows isEntry differ whole (by omega)).dict

end Display

/-! ### What is loaded -/

section Loading

variable {file name target : String} {data found : Entries} {messages : List Console.Message}

/-- Only a dictionary gives entries. -/
theorem of_given (given : given file name [] target v = .ok (found, messages)) :
    found = [] ∨ ∃ entries, v = .dict entries ∧ found = Entries.ofList entries := by
  rw [MapFile.given] at given
  split_ifs at given
  · cases given
    exact .inl rfl
  · split at given
    · cases given
    · cases given
      exact .inl rfl
  · cases v with
    | dict entries =>
      cases given
      exact .inr ⟨entries, rfl, rfl⟩
    | _ =>
      cases given
      exact .inl rfl
  · cases given
    exact .inl rfl

theorem eq_null_of_same (same : k.same .null) : k = .null := by
  cases k with
  | null => rfl
  | complex re im => exact absurd same (by simp [Value.same, Value.sameNumber, Value.numeric?])
  | _ => cases same

/-- A map never comes back with a null key, whether it was written with one or not. -/
theorem find?_null_of_load (named : Name.isName name.toList) (other : name ≠ versionName)
    (isEntry : ∀ row ∈ data, IsEntry row.1 row.2) (differ : Value.keysDiffer data)
    (whole : (draft name data).refused = none)
    (loaded : load file name [] (draft name data).text = .ok (found, messages)) :
    Entries.find? found .null = none := by
  have rowsWhole := (letters_draft whole).1
  have keyed := keyed_display isEntry differ rowsWhole
  have read : operand (4 * (display data).length + 3) 0 (display data) =
      ((operand (4 * (display data).length + 3) 0 (display data)).map (·.1)).map
        fun v => (v, ['\n']) := by
    cases part : operand (4 * (display data).length + 3) 0 (display data) with
    | none => rfl
    | some read =>
      obtain ⟨v, rest⟩ := read
      rw [(keyed v rest part).1]
      rfl
  have clean : Clean (draftRows data).letters := clean_draftRows fun row among =>
    ⟨(isEntry row among).storable, (isEntry row among).key⟩
  rw [load_draft named other whole clean read] at loaded
  have keys : ∀ row ∈ found, row.1 ≠ .null := by
    split at loaded
    · cases loaded
      exact List.forall_mem_nil _
    · next v allowed =>
      rcases of_given loaded with rfl | ⟨entries, rfl, rfl⟩
      · exact List.forall_mem_nil _
      · split_ifs at allowed
        obtain ⟨⟨w, rest⟩, part, same⟩ := Option.map_eq_some_iff.1 allowed
        exact ne_null_of_mem_ofList ((keyed w rest part).2 entries same)
  rw [Entries.find?, List.find?_eq_none.2 fun row among same =>
    keys row among (eq_null_of_same same)]
  rfl

end Loading

end MapFile

end DebugScopes
