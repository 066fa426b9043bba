import DebugScopes.MapFile.Writer
import DebugScopes.Proofs.Value.Rereading

/-!
# Stored values, read back

What has been written for a value is read as what a file keeps of the value, whatever follows, if
the value fits; otherwise it is not read at all. The induction is on the value. The text of a value
bounds the depth of the calls that read it, and each bracket takes one level.

* `MapFile.Draft.append_whole`: a text that is written as a whole, part by part;
* `MapFile.reread`: a value, and `MapFile.Reread.value` in a display;
* `MapFile.clean_draftValue`: the characters of a value.
-/

namespace DebugScopes.MapFile

open Reader

/-! ### Drafts -/

namespace Draft

variable {a b : Draft}

/-- The letters that have been written. -/
def letters (a : Draft) : List Char := a.text.toList

@[simp]
theorem refused_ofText (text : String) : (ofText text).refused = none := rfl

@[simp]
theorem letters_ofText (text : String) : (ofText text).letters = text.toList := rfl

theorem refused_append (a b : Draft) : (a ++ b).refused = a.refused.or b.refused := by
  change (append a b).refused = _
  unfold append
  split
  · next refusal stopped => rw [stopped]; rfl
  · next whole => rw [whole]; rfl

/-- A text is written as a whole if its parts are. -/
@[simp]
theorem append_whole : (a ++ b).refused = none ↔ a.refused = none ∧ b.refused = none := by
  rw [refused_append, Option.or_eq_none_iff]

/-- Behind a part that is written as a whole comes the next one. -/
theorem letters_append (whole : a.refused = none) : (a ++ b).letters = a.letters ++ b.letters := by
  change (append a b).letters = _
  unfold append
  rw [whole]
  exact String.toList_append

theorem clean_append (first : Clean a.letters) (second : Clean b.letters) :
    Clean (a ++ b).letters := by
  change Clean (append a b).letters
  unfold append
  split
  · exact first
  · change Clean (a.text ++ b.text).toList
    rw [String.toList_append]
    exact Reader.clean_append.2 ⟨first, second⟩

end Draft

/-! ### The letters of values -/

section Letters

variable {x k v : Value} {xs : List Value} {rest : List (Value × Value)}

theorem draftValue_atom (atom : v.isAtom) (whole : (draftValue v).refused = none) :
    v.legible ∧ (draftValue v).letters = v.written.toList := by
  cases v with
  | int i =>
    rw [draftValue] at whole ⊢
    split_ifs at whole ⊢ with legible
    · exact ⟨legible, rfl⟩
    · cases whole
  | null | bool | float | text | halves | bytes => exact ⟨rfl, rfl⟩
  | _ => cases atom

/-- A tuple is written as a list is. -/
theorem draftValue_tuple : draftValue (.tuple xs) = draftValue (.list xs) := rfl

theorem draftValue_list (whole : (draftValue (.list xs)).refused = none) :
    (draftItems xs).refused = none ∧
      (draftValue (.list xs)).letters = '[' :: ((draftItems xs).letters ++ [']']) := by
  rw [draftValue] at whole ⊢
  simp only [Draft.append_whole, Draft.refused_ofText, and_true, true_and] at whole
  refine ⟨whole, ?_⟩
  rw [Draft.letters_append (by simpa using whole), Draft.letters_append rfl]
  simp

theorem draftItems_cons (whole : (draftItems (x :: xs)).refused = none) :
    (draftValue x).refused = none ∧ (draftItems xs).refused = none ∧
      (draftItems (x :: xs)).letters =
        (draftValue x).letters ++ ',' :: ' ' :: (draftItems xs).letters := by
  rw [draftItems] at whole ⊢
  simp only [Draft.append_whole, Draft.refused_ofText, and_true] at whole
  refine ⟨whole.1, whole.2, ?_⟩
  rw [Draft.letters_append (by simpa using whole.1), Draft.letters_append whole.1]
  simp

theorem draftValue_dict (whole : (draftValue (.dict rest)).refused = none) :
    (draftEntries rest).refused = none ∧
      (draftValue (.dict rest)).letters =
        '\x7b' :: '\n' :: ((draftEntries rest).letters ++ [' ', ' ', '\x7d']) := by
  rw [draftValue] at whole ⊢
  simp only [Draft.append_whole, Draft.refused_ofText, and_true, true_and] at whole
  refine ⟨whole, ?_⟩
  rw [Draft.letters_append (by simpa using whole), Draft.letters_append rfl]
  simp

theorem draftEntries_cons (whole : (draftEntries ((k, v) :: rest)).refused = none) :
    (draftValue k).refused = none ∧ (draftValue v).refused = none ∧
      (draftEntries rest).refused = none ∧
      (draftEntries ((k, v) :: rest)).letters =
        ' ' :: ' ' :: ' ' :: ' ' :: ((draftValue k).letters ++ ':' :: ' ' ::
          ((draftValue v).letters ++ ',' :: '\n' :: (draftEntries rest).letters)) := by
  rw [draftEntries] at whole ⊢
  simp only [Draft.append_whole, Draft.refused_ofText, and_true, true_and] at whole
  obtain ⟨⟨key, val⟩, others⟩ := whole
  refine ⟨key, val, others, ?_⟩
  rw [Draft.letters_append (by simp [key, val]), Draft.letters_append (by simp [key, val]),
    Draft.letters_append (by simp [key]), Draft.letters_append (by simp [key]),
    Draft.letters_append rfl]
  simp

/-- What is written for a value starts with the value. -/
theorem opens_draftValue (whole : (draftValue v).refused = none) :
    Opens (draftValue v).letters := by
  cases v with
  | list xs =>
    rw [(draftValue_list whole).2]
    exact ⟨_, _, rfl, by decide, by decide⟩
  | tuple xs =>
    rw [draftValue_tuple] at whole ⊢
    rw [(draftValue_list whole).2]
    exact ⟨_, _, rfl, by decide, by decide⟩
  | dict entries =>
    rw [(draftValue_dict whole).2]
    exact ⟨_, _, rfl, by decide, by decide⟩
  | buffer b => exact opens_ofBytes b
  | null | bool | int | float | text | halves | bytes =>
    rw [(draftValue_atom rfl whole).2]
    exact opens_atom rfl
  | _ => cases whole

theorem length_draftValue_pos (whole : (draftValue v).refused = none) :
    0 < (draftValue v).letters.length := by
  obtain ⟨front, more, letters, -⟩ := opens_draftValue whole
  rw [letters]
  exact Nat.succ_pos _

/-! ### What values are written with -/

theorem clean_draft_atom (atom : v.isAtom) : Clean (draftValue v).letters := by
  cases whole : (draftValue v).refused with
  | none =>
    rw [(draftValue_atom atom whole).2]
    exact clean_atom atom
  | some refusal =>
    cases v with
    | int i =>
      rw [draftValue] at whole ⊢
      split_ifs at whole ⊢
      · cases whole
      · exact clean_nil
    | null | bool | float | text | halves | bytes => cases whole
    | _ => cases atom

theorem clean_list (inner : Clean (draftItems xs).letters) :
    Clean (draftValue (.list xs)).letters :=
  Draft.clean_append (Draft.clean_append (by simp) inner) (by simp)

theorem clean_items_cons (first : Clean (draftValue x).letters)
    (others : Clean (draftItems xs).letters) : Clean (draftItems (x :: xs)).letters :=
  Draft.clean_append (Draft.clean_append first (by simp)) others

theorem clean_dict (inner : Clean (draftEntries rest).letters) :
    Clean (draftValue (.dict rest)).letters :=
  Draft.clean_append (Draft.clean_append (by simp) inner) (by simp)

theorem clean_entries_cons (key : Clean (draftValue k).letters) (val : Clean (draftValue v).letters)
    (others : Clean (draftEntries rest).letters) :
    Clean (draftEntries ((k, v) :: rest)).letters :=
  Draft.clean_append (Draft.clean_append (Draft.clean_append (Draft.clean_append
    (Draft.clean_append (by simp) key) (by simp)) val) (by simp)) others

end Letters

mutual

/-- No value is written with a control character but the line feed, be it written as a whole or
not. -/
theorem clean_draftValue : ∀ v : Value, Clean (draftValue v).letters
  | .null | .bool _ | .int _ | .float _ | .text _ | .halves _ | .bytes _ => clean_draft_atom rfl
  | .buffer b => Quoted.clean_ofBytes b
  | .list xs | .tuple xs => clean_list (clean_draftItems xs)
  | .dict entries => clean_dict (clean_draftEntries entries)
  | .complex _ _ | .set _ | .frozen _ | .range _ _ | .foreign _ => clean_nil

theorem clean_draftItems : ∀ xs : List Value, Clean (draftItems xs).letters
  | [] => clean_nil
  | x :: xs => clean_items_cons (clean_draftValue x) (clean_draftItems xs)

theorem clean_draftEntries : ∀ entries : List (Value × Value), Clean (draftEntries entries).letters
  | [] => clean_nil
  | (k, v) :: more =>
    clean_entries_cons (clean_draftValue k) (clean_draftValue v) (clean_draftEntries more)

end

/-! ### What is read of a value -/

/-- Reading what has been written for a value gives what a file keeps of it, or nothing if it does
not fit. A string must not have another one behind it, since the two would be one. -/
def Reread (v : Value) : Prop :=
  ∀ {depth level : Nat} {c : Char} {rest : List Char}, v.sound → (draftValue v).refused = none →
    level ≤ deepest → 4 * (draftValue v).letters.length ≤ depth → c ∈ stops →
    (v.isString → startsQuoted (blanks (0 < level) (c :: rest)) = false) →
    operand depth level ((draftValue v).letters ++ c :: rest) =
      if v.fits level then some (v.kept, c :: rest) else none

/-- Reading what has been written for items gives what a file keeps of them. -/
def ItemsReread (xs : List Value) : Prop :=
  ∀ {depth level : Nat} {rest : List Char}, Value.allSound xs → (draftItems xs).refused = none →
    level ≤ deepest → 4 * (draftItems xs).letters.length + 1 ≤ depth →
    itemsFrom depth level ']' ((draftItems xs).letters ++ ']' :: rest) =
      if Value.itemsFit level xs then some (Value.keptItems xs, !xs.isEmpty, rest) else none

/-- Reading what has been written for entries gives what a file keeps of them. -/
def EntriesReread (entries : List (Value × Value)) : Prop :=
  ∀ {depth level : Nat} {rest : List Char}, Value.entriesSound entries →
    (draftEntries entries).refused = none → level ≤ deepest →
    4 * (draftEntries entries).letters.length + 1 ≤ depth →
    Reader.entries depth level ((draftEntries entries).letters ++ ' ' :: ' ' :: '\x7d' :: rest) =
      if Value.entriesFit level entries then some (Value.keptEntries entries, rest) else none

section Parts

variable {depth level : Nat} {c : Char} {rest : List Char} {x k v : Value} {xs : List Value}
  {entries more : List (Value × Value)}

/-- An operand that something divides from what follows is a value. -/
theorem Reread.value (read : Reread v) (sound : v.sound) (whole : (draftValue v).refused = none)
    (open' : level ≤ deepest) (room : 4 * (draftValue v).letters.length < depth)
    (divider : c ∈ dividers) :
    value depth level ((draftValue v).letters ++ c :: rest) =
      if v.fits level then some (v.kept, c :: rest) else none := by
  have written := length_draftValue_pos whole
  obtain ⟨depth, rfl⟩ : ∃ d, depth = d + 2 := ⟨depth - 2, by omega⟩
  exact value_of_operand divider (read sound whole open' (by omega)
    (mem_stops_of_mem_dividers divider) fun _ => unquoted_divider divider)

theorem reread_atom (atom : v.isAtom) : Reread v := by
  intro depth level c rest sound whole open' room stop alone
  obtain ⟨legible, letters⟩ := draftValue_atom atom whole
  have written := length_draftValue_pos whole
  obtain ⟨depth, rfl⟩ : ∃ d, depth = d + 2 := ⟨depth - 2, by omega⟩
  rw [letters, operand_atom atom sound legible stop alone, Value.fits_of_isAtom atom open',
    Value.kept_of_isAtom atom]

/-- A buffer is written as its bytes. -/
theorem reread_buffer (b : List UInt8) : Reread (.buffer b) := by
  intro depth level c rest sound whole open' room stop alone
  have read : operand depth level ((draftValue (.bytes b)).letters ++ c :: rest) = _ :=
    reread_atom rfl rfl whole open' room stop fun _ => alone rfl
  rw [Value.fits_iff.2 ⟨open', rfl, rfl⟩] at read ⊢
  exact read

/-- A list is read if its items are. -/
theorem reread_list (inner : ItemsReread xs) : Reread (.list xs) := by
  intro depth level c rest sound whole open' room stop alone
  obtain ⟨whole', letters⟩ := draftValue_list whole
  rw [letters] at room ⊢
  simp only [List.length_cons, List.length_append, List.length_nil] at room
  obtain ⟨depth, rfl⟩ : ∃ d, depth = d + 2 := ⟨depth - 2, by omega⟩
  rw [List.cons_append, List.append_assoc, List.singleton_append, operand_bracket, items_eq]
  simp only [Value.fits_list, Value.kept]
  by_cases deep : level < deepest
  · rw [if_pos deep, inner sound whole' deep (by omega)]
    split_ifs <;> rfl
  · have outside : ¬ Value.itemsFit (level + 1) xs := fun fit => by
      have := (Value.itemsFit_iff.1 fit).1
      omega
    rw [if_neg deep, if_neg outside]
    rfl

/-- A tuple is written as a list is. -/
theorem reread_tuple (inner : ItemsReread xs) : Reread (.tuple xs) := by
  intro depth level c rest sound whole open' room stop alone
  have read : operand depth level ((draftValue (.list xs)).letters ++ c :: rest) = _ :=
    reread_list inner sound whole open' room stop nofun
  simp only [Value.fits_list, Value.kept] at read
  simp only [Value.fits_tuple, Value.kept]
  exact read

theorem itemsReread_nil : ItemsReread [] := by
  intro depth level rest sound whole open' room
  obtain ⟨depth, rfl⟩ : ∃ d, depth = d + 1 := ⟨depth - 1, by omega⟩
  rw [Value.itemsFit_nil open', if_pos rfl]
  exact itemsFrom_close (by decide)

theorem itemsReread_cons (first : Reread x) (others : ItemsReread xs) : ItemsReread (x :: xs) := by
  intro depth level rest sound whole open' room
  obtain ⟨whole, whole', letters⟩ := draftItems_cons whole
  rw [Value.allSound, Bool.and_eq_true] at sound
  rw [letters] at room ⊢
  simp only [List.length_cons, List.length_append] at room
  obtain ⟨depth, rfl⟩ : ∃ d, depth = d + 1 := ⟨depth - 1, by omega⟩
  have read : value depth level ((draftValue x).letters ++
      ',' :: ' ' :: ((draftItems xs).letters ++ ']' :: rest)) = _ :=
    first.value sound.1 whole open' (by omega) (by decide)
  have behind : itemsFrom depth level ']' ((draftItems xs).letters ++ ']' :: rest) = _ :=
    others sound.2 whole' open' (by omega)
  rw [← itemsFrom_space] at behind
  rw [List.append_assoc, List.cons_append, List.cons_append,
    itemsFrom_cons ((opens_draftValue whole).append _) (by decide) read behind]
  simp only [Value.itemsFit_cons, Value.keptItems, List.isEmpty_cons, Bool.not_false]

theorem entriesReread_nil : EntriesReread [] := by
  intro depth level rest sound whole open' room
  obtain ⟨depth, rfl⟩ : ∃ d, depth = d + 1 := ⟨depth - 1, by omega⟩
  rw [Value.entriesFit_nil open', if_pos rfl]
  change Reader.entries (depth + 1) level (' ' :: ' ' :: '\x7d' :: rest) = _
  rw [entries_space, entries_space, entries_close]
  rfl

theorem entriesReread_cons (key : Reread k) (val : Reread v) (others : EntriesReread more) :
    EntriesReread ((k, v) :: more) := by
  intro depth level rest sound whole open' room
  obtain ⟨keyWhole, whole, whole', letters⟩ := draftEntries_cons whole
  rw [Value.entriesSound, Bool.and_eq_true, Bool.and_eq_true, Bool.and_eq_true] at sound
  obtain ⟨⟨⟨fixed, keySound⟩, sound⟩, sound'⟩ := sound
  rw [letters] at room ⊢
  simp only [List.length_cons, List.length_append] at room
  obtain ⟨depth, rfl⟩ : ∃ d, depth = d + 2 := ⟨depth - 2, by omega⟩
  have readVal : value depth level ((draftValue v).letters ++
      ',' :: '\n' :: ((draftEntries more).letters ++ ' ' :: ' ' :: '\x7d' :: rest)) = _ :=
    val.value sound whole open' (by omega) (by decide)
  have readKey : value (depth + 1) level ((draftValue k).letters ++
      ':' :: ' ' :: ((draftValue v).letters ++
        ',' :: '\n' :: ((draftEntries more).letters ++ ' ' :: ' ' :: '\x7d' :: rest))) = _ :=
    key.value keySound keyWhole open' (by omega) (by decide)
  have read := entries_cons ((opens_draftValue keyWhole).append _) readKey
    ((opens_draftValue whole).append _).blanks_eq readVal
  simp only [List.cons_append, List.append_assoc, entries_space]
  rw [read, entries_line, others sound' whole' open' (by omega)]
  simp only [Value.hashable_kept fixed, Bool.not_eq_true', Value.entriesFit_cons,
    Value.keptEntries]
  -- A key that was a tuple is a list by now, which can be read but cannot be a key.
  by_cases tuple : k.isTuple = false
  · rw [Value.kept_of_hashable fixed tuple]
    by_cases fits : k.fits level ∧ v.fits level
    · by_cases rest : Value.entriesFit level more
      · simp [tuple, fits, rest]
      · simp [rest]
    · rw [if_neg fun all => fits ⟨all.1, all.2.2⟩, if_neg fun all => fits ⟨all.2.1, all.2.2.1⟩]
  · rw [if_neg fun all => tuple all.2.1, if_neg fun all => tuple all.1]

/-- Behind the key of an entry stands a colon. -/
theorem Reread.colon (read : Reread k) (sound : k.sound) (whole : (draftValue k).refused = none)
    (open' : level ≤ deepest) (room : 4 * (draftValue k).letters.length < depth) :
    ∀ first rest', Reader.value depth level (blanks true
        (' ' :: ' ' :: ' ' :: ' ' :: ((draftValue k).letters ++ ':' :: rest))) =
          some (first, rest') → ∃ more, blanks true rest' = ':' :: more := by
  intro first rest' found
  simp only [blanks_space] at found
  rw [((opens_draftValue whole).append _).blanks_eq,
    read.value sound whole open' room (by decide)] at found
  split_ifs at found
  cases found
  exact ⟨_, blanks_divider (by decide)⟩

/-- Behind the first value of a dictionary stands a colon. -/
theorem colon_behind_first (reads : ∀ row ∈ entries.head?, Reread row.1)
    (sound : Value.entriesSound entries) (whole : (draftEntries entries).refused = none)
    (open' : level ≤ deepest) (room : 4 * (draftEntries entries).letters.length ≤ depth) :
    ∀ first rest', value depth level
        (blanks true ((draftEntries entries).letters ++ ' ' :: ' ' :: '\x7d' :: rest)) =
          some (first, rest') → ∃ more, blanks true rest' = ':' :: more := by
  cases entries with
  | nil =>
    intro first rest' read
    change value depth level (blanks true (' ' :: ' ' :: '\x7d' :: rest)) = _ at read
    rw [blanks_space, blanks_space, blanks_cons (by decide), value_brace] at read
    cases read
  | cons row more =>
    obtain ⟨keyWhole, _, _, letters⟩ := draftEntries_cons whole
    rw [Value.entriesSound, Bool.and_eq_true, Bool.and_eq_true, Bool.and_eq_true] at sound
    rw [letters] at room ⊢
    simp only [List.length_cons, List.length_append] at room
    simp only [List.cons_append, List.append_assoc]
    exact Reread.colon (reads row rfl) sound.1.1.2 keyWhole open' (by omega)

/-- A dictionary is read if its entries are. -/
theorem reread_dict (reads : ∀ row ∈ entries.head?, Reread row.1) (inner : EntriesReread entries) :
    Reread (.dict entries) := by
  intro depth level c rest sound whole open' room stop alone
  obtain ⟨whole', letters⟩ := draftValue_dict whole
  rw [Value.sound, Bool.and_eq_true] at sound
  have differ : Value.keysDiffer (Value.keptEntries entries) := by
    rw [Value.keysDiffer_congr (Value.map_fst_keptEntries entries), sound.1]
  rw [letters] at room ⊢
  simp only [List.length_cons, List.length_append, List.length_nil] at room
  obtain ⟨depth, rfl⟩ : ∃ d, depth = d + 2 := ⟨depth - 2, by omega⟩
  rw [List.cons_append, operand_brace, List.cons_append, blanks_line]
  simp only [Value.fits_dict, Value.kept, List.append_assoc, List.cons_append, List.nil_append]
  by_cases deep : level < deepest
  · rw [braces_eq_entries deep (colon_behind_first reads sound.2 whole' deep (by omega)),
      inner sound.2 whole' deep (by omega)]
    split_ifs
    · rw [Option.map_some, Entries.ofList_of_keysDiffer differ]
    · rfl
  · have outside : ¬ Value.entriesFit (level + 1) entries := fun fit => by
      have := (Value.entriesFit_iff.1 fit).1
      omega
    rw [braces_deep deep, if_neg outside]

end Parts

/-! ### Values -/

mutual

theorem reread : ∀ v : Value, Reread v
  | .null | .bool _ | .int _ | .float _ | .text _ | .halves _ | .bytes _ => reread_atom rfl
  | .buffer b => reread_buffer b
  | .list xs => reread_list (itemsReread xs)
  | .tuple xs => reread_tuple (itemsReread xs)
  | .dict [] => reread_dict (by simp) entriesReread_nil
  | .dict ((k, v) :: more) =>
    reread_dict (by rintro row ⟨⟩; exact reread k)
      (entriesReread_cons (reread k) (reread v) (entriesReread more))
  | .complex _ _ | .set _ | .frozen _ | .range _ _ | .foreign _ => fun _ whole => nomatch whole

theorem itemsReread : ∀ xs : List Value, ItemsReread xs
  | [] => itemsReread_nil
  | x :: xs => itemsReread_cons (reread x) (itemsReread xs)

theorem entriesReread : ∀ entries : List (Value × Value), EntriesReread entries
  | [] => entriesReread_nil
  | (k, v) :: more => entriesReread_cons (reread k) (reread v) (entriesReread more)

end

end DebugScopes.MapFile
