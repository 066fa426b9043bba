import DebugScopes.Proofs.Value.Floats
import DebugScopes.Proofs.Value.Stored

/-!
# Written values, read back

A value without brackets and a key are read back as they were written, whatever follows, unless a
float is not finite or too many brackets are open. The induction is on the key; a tuple is the only
kind of key with brackets.

* `Reader.operand_atom`: values without brackets;
* `Reader.opens_key`, `Reader.unquoted_key`: how keys start;
* `Reader.keyReread`: keys, and `Reader.KeyReread.value` in a display;
* `Reader.clean_key`: the characters of a key.
-/

namespace DebugScopes

namespace Value

/-- Whether a value is written without brackets. -/
def isAtom : Value → Bool
  | null | bool _ | int _ | float _ | text _ | halves _ | bytes _ => true
  | _ => false

/-- Whether a value is written between quotation marks. -/
def isString : Value → Bool
  | text _ | halves _ | bytes _ | buffer _ => true
  | _ => false

theorem fits_of_isAtom {v : Value} {level : Nat} (atom : v.isAtom)
    (open' : level ≤ Reader.deepest) : v.fits level = v.allFinite := by
  have fits : v.fits level = (decide (level ≤ Reader.deepest) && v.allFinite && true) := by
    cases v <;> first | rfl | cases atom
  rw [fits, decide_eq_true open', Bool.true_and, Bool.and_true]

theorem keyFits_of_isAtom {v : Value} {level : Nat} (atom : v.isAtom)
    (open' : level ≤ Reader.deepest) : v.keyFits level = v.allFinite := by
  have fits : v.keyFits level = (decide (level ≤ Reader.deepest) && v.allFinite) := by
    cases v <;> first | rfl | cases atom
  rw [fits, decide_eq_true open', Bool.true_and]

theorem kept_of_isAtom {v : Value} (atom : v.isAtom) : v.kept = v := by
  cases v <;> first | rfl | cases atom

/-! ### What each kind of key is written as -/

theorem written_null : null.written = "None" := rfl

theorem written_bool (b : Bool) : (bool b).written = if b then "True" else "False" := rfl

theorem written_int (i : Int) : (int i).written = Numeral.decimal i := rfl

theorem written_float (x : Float) : (float x).written = floatText x := rfl

theorem written_text (s : String) : (text s).written = Quoted.ofText s := rfl

theorem written_halves (codes : List Nat) : (halves codes).written = Quoted.ofCodes codes := rfl

theorem written_tuple_nil : (tuple []).written = "()" := rfl

theorem written_tuple_singleton (x : Value) : (tuple [x]).written = "(" ++ x.written ++ ",)" := rfl

theorem written_tuple_cons (x y : Value) (xs : List Value) :
    (tuple (x :: y :: xs)).written =
      "(" ++ ", ".intercalate (writtenItems (x :: y :: xs)) ++ ")" := rfl

theorem writtenItems_cons (x : Value) (xs : List Value) :
    writtenItems (x :: xs) = x.written :: writtenItems xs := rfl

end Value

namespace Reader

variable {depth level : Nat} {c : Char} {rest : List Char} {v : Value}

/-! ### Strings -/

theorem stringValue_text (s : String) : stringValue .text (s.toList.map (·.toNat)) = .text s := by
  have valid : (s.toList.map (·.toNat)).all (·.isValidChar) := by
    rw [List.all_map, List.all_eq_true]
    exact fun c _ => decide_eq_true c.valid
  rw [stringValue, Value.ofCodes, if_pos valid, List.map_map]
  simp [Function.comp_def]

theorem stringValue_halves {codes : List Nat} (some : ¬ codes.all (·.isValidChar)) :
    stringValue .text codes = .halves codes :=
  if_neg some

theorem stringValue_bytes (bytes : List UInt8) :
    stringValue .bytes (bytes.map (·.toNat)) = .bytes bytes := by
  simp [stringValue, Function.comp_def]

theorem not_mem_marks_of_stop (stop : c ∈ stops) : c ∉ Quoted.marks := by
  simp only [stops, List.mem_cons, List.not_mem_nil, or_false] at stop
  rcases stop with rfl | rfl | rfl | rfl | rfl <;> decide

theorem exists_mark_of_quotedOver? {s : List Char} {alphabet : Quoted.Alphabet}
    {read : Quoted.Alphabet × List Nat × List Char} (quoted : quotedOver? alphabet s = some read) :
    ∃ mark rest, s = mark :: rest ∧ (mark = '\'' ∨ mark = '"') := by
  cases s with
  | nil => cases quoted
  | cons mark rest =>
    by_cases known : mark = '\'' ∨ mark = '"'
    · exact ⟨mark, rest, rfl, known⟩
    · rw [quotedOver?, if_neg known] at quoted
      cases quoted

theorem startsQuoted_of_quoted? {s : List Char} {read : Quoted.Alphabet × List Nat × List Char}
    (quoted : quoted? s = some read) : startsQuoted s := by
  unfold quoted? at quoted
  split at quoted
  all_goals
    obtain ⟨mark, rest, rfl, rfl | rfl⟩ := exists_mark_of_quotedOver? quoted <;> rfl

/-- A string that stands alone is read as what its codes mean. -/
theorem operand_string {s : List Char} {alphabet : Quoted.Alphabet} {codes : List Nat}
    (quoted : quoted? s = some (alphabet, codes, rest))
    (alone : startsQuoted (blanks (0 < level) rest) = false) :
    operand (depth + 2) level s = some (stringValue alphabet codes, rest) := by
  rw [operand_quoted (startsQuoted_of_quoted? quoted) quoted, strings_alone alone]

/-- A value between quotation marks is written as a string that means the value. -/
theorem exists_string (string : v.isString) (atom : v.isAtom) (sound : v.sound) :
    ∃ alphabet codes, stringValue alphabet codes = v ∧ ∀ {c rest}, c ∉ Quoted.marks →
      quoted? (v.written.toList ++ c :: rest) = some (alphabet, codes, c :: rest) := by
  cases v with
  | text s => exact ⟨_, _, stringValue_text s, quoted?_ofText s⟩
  | halves codes =>
    rw [Value.sound, Bool.and_eq_true, List.all_eq_true, Bool.not_eq_true'] at sound
    obtain ⟨bound, half⟩ := sound
    exact ⟨_, _, stringValue_halves (by rw [half]; exact Bool.false_ne_true),
      quoted?_ofCodes fun code among => of_decide_eq_true (bound code among)⟩
  | bytes b => exact ⟨_, _, stringValue_bytes b, quoted?_ofBytes b⟩
  | buffer b => cases atom
  | _ => cases string

/-! ### Atoms -/

/-- A value without brackets is read back, unless it is a float that is not finite. -/
theorem operand_atom (atom : v.isAtom) (sound : v.sound) (legible : v.legible) (stop : c ∈ stops)
    (alone : v.isString → startsQuoted (blanks (0 < level) (c :: rest)) = false) :
    operand (depth + 2) level (v.written.toList ++ c :: rest) =
      if v.allFinite then some (v, c :: rest) else none := by
  have ofString : v.isString → v.allFinite →
      operand (depth + 2) level (v.written.toList ++ c :: rest) =
        if v.allFinite then some (v, c :: rest) else none := fun string finite => by
    obtain ⟨alphabet, codes, meant, quoted⟩ := exists_string string atom sound
    rw [operand_string (quoted (not_mem_marks_of_stop stop)) (alone string), meant, if_pos finite]
  cases v with
  | null => exact operand_null stop
  | bool b => exact operand_bool b stop
  | int i => exact operand_decimal legible stop
  | float x => exact operand_floatText x stop
  | text | halves | bytes => exact ofString rfl rfl
  | _ => cases atom

/-! ### How values start -/

theorem exists_front_decimal (n : Int) :
    ∃ front more, (Numeral.decimal n).toList = front :: more ∧ StartsNumber front := by
  rcases lt_or_ge n 0 with negative | natural
  · exact ⟨'-', _, Numeral.toList_decimal_of_neg negative, .inr (by decide)⟩
  · obtain ⟨m, rfl⟩ := Int.eq_ofNat_of_zero_le natural
    obtain ⟨front, more, row⟩ := List.exists_cons_of_ne_nil (Nat.toDigits_ne_nil (n := m) (b := 10))
    exact ⟨front, more, (Numeral.toList_decimal_natCast m).trans row,
      .inl (allDigits_toDigits m front (by simp [row]))⟩

theorem opens_decimal (n : Int) : Opens (Numeral.decimal n).toList := by
  obtain ⟨front, more, letters, starts⟩ := exists_front_decimal n
  rw [letters]
  exact starts.opens

theorem opens_mark (mark : c ∈ Quoted.marks) : Opens (c :: rest) := by
  simp only [Quoted.marks, List.mem_cons, List.not_mem_nil, or_false] at mark
  rcases mark with rfl | rfl <;> exact ⟨_, _, rfl, by decide, by decide⟩

theorem opens_ofBytes (b : List UInt8) : Opens (Quoted.ofBytes b).toList := by
  rw [Quoted.ofBytes, String.toList_ofList]
  exact ⟨'b', _, rfl, by decide, by decide⟩

theorem opens_atom (atom : v.isAtom) : Opens v.written.toList := by
  cases v with
  | null => exact ⟨'N', _, rfl, by decide, by decide⟩
  | bool b => cases b <;> exact ⟨_, _, rfl, by decide, by decide⟩
  | int i => exact opens_decimal i
  | float x =>
    obtain ⟨front, more, letters, starts⟩ := exists_front_floatText x
    rw [Value.written_float, letters]
    exact starts.opens
  | text s =>
    rw [Value.written_text, Quoted.ofText, String.toList_ofList]
    exact opens_mark (Quoted.markFor_mem _)
  | halves codes =>
    rw [Value.written_halves, Quoted.ofCodes, String.toList_ofList]
    exact opens_mark (Quoted.markFor_mem _)
  | bytes b => exact opens_ofBytes b
  | _ => cases atom

/-! ### Keys -/

/-- Reading what has been written for a key gives the key, or nothing if it does not fit. A string
must not have another one behind it, since the two would be one. -/
def KeyReread (k : Value) : Prop :=
  ∀ {depth level : Nat} {c : Char} {rest : List Char}, k.isStorable → k.hashable → k.sound →
    k.legible → level ≤ deepest → 4 * k.written.toList.length ≤ depth → c ∈ stops →
    (k.isString → startsQuoted (blanks (0 < level) (c :: rest)) = false) →
    operand depth level (k.written.toList ++ c :: rest) =
      if k.keyFits level then some (k, c :: rest) else none

/-- The letters of the items of a tuple. -/
def tupleLetters (xs : List Value) : List Char := (", ".intercalate (Value.writtenItems xs)).toList

section Keys

variable {k x y : Value} {xs : List Value}

theorem tupleLetters_cons :
    tupleLetters (x :: y :: xs) = x.written.toList ++ ',' :: ' ' :: tupleLetters (y :: xs) := by
  simp [tupleLetters, Value.writtenItems_cons, String.intercalate_cons_cons]

theorem tupleLetters_singleton : tupleLetters [x] = x.written.toList := by
  rw [tupleLetters, Value.writtenItems_cons]
  rfl

theorem letters_tuple_nil : (Value.written (.tuple [])).toList = ['(', ')'] := by
  simp [Value.written_tuple_nil]

theorem letters_tuple_singleton :
    (Value.written (.tuple [x])).toList = '(' :: (x.written.toList ++ [',', ')']) := by
  simp [Value.written_tuple_singleton]

theorem letters_tuple_cons :
    (Value.written (.tuple (x :: y :: xs))).toList =
      '(' :: (tupleLetters (x :: y :: xs) ++ [')']) := by
  simp [Value.written_tuple_cons, tupleLetters]

theorem exists_letters_tuple (xs : List Value) :
    ∃ more, (Value.written (.tuple xs)).toList = '(' :: more := by
  match xs with
  | [] => exact ⟨_, letters_tuple_nil⟩
  | [x] => exact ⟨_, letters_tuple_singleton⟩
  | x :: y :: xs => exact ⟨_, letters_tuple_cons⟩

/-- What is written for a key starts with the key. -/
theorem opens_key (storable : k.isStorable) (key : k.hashable) : Opens k.written.toList := by
  match k with
  | .tuple xs =>
    obtain ⟨more, letters⟩ := exists_letters_tuple xs
    rw [letters]
    exact ⟨_, _, rfl, by decide, by decide⟩
  | .null | .bool _ | .int _ | .float _ | .text _ | .halves _ | .bytes _ => exact opens_atom rfl
  | .list _ | .dict _ | .buffer _ | .set _ => cases key
  | .complex _ _ | .frozen _ | .range _ _ | .foreign _ => cases storable

/-- A key starts like a string only if it is one. -/
theorem unquoted_key (storable : k.isStorable) (key : k.hashable) (other : ¬ k.isString) :
    startsQuoted (k.written.toList ++ rest) = false := by
  match k with
  | .tuple xs =>
    obtain ⟨more, letters⟩ := exists_letters_tuple xs
    rw [letters]
    rfl
  | .null => rfl
  | .bool b => cases b <;> rfl
  | .int i =>
    obtain ⟨front, more, letters, starts⟩ := exists_front_decimal i
    rw [Value.written_int, letters]
    exact starts.unquoted
  | .float x =>
    obtain ⟨front, more, letters, starts⟩ := exists_front_floatText x
    rw [Value.written_float, letters]
    exact starts.unquoted
  | .text _ | .halves _ | .bytes _ => exact absurd rfl other
  | .list _ | .dict _ | .buffer _ | .set _ => cases key
  | .complex _ _ | .frozen _ | .range _ _ | .foreign _ => cases storable

theorem clean_decimal (n : Int) : Clean (Numeral.decimal n).toList := by
  rcases lt_or_ge n 0 with negative | natural
  · rw [Numeral.toList_decimal_of_neg negative, clean_cons]
    exact ⟨.inl (by decide), (allDigits_toDigits _).clean⟩
  · obtain ⟨m, rfl⟩ := Int.eq_ofNat_of_zero_le natural
    rw [Numeral.toList_decimal_natCast]
    exact (allDigits_toDigits m).clean

theorem clean_atom (atom : v.isAtom) : Clean v.written.toList := by
  cases v with
  | null => simp [Value.written_null]
  | bool b => cases b <;> simp [Value.written_bool]
  | int i => exact clean_decimal i
  | float x => exact clean_floatText x
  | text s => exact Quoted.clean_ofText s
  | halves codes => exact Quoted.clean_ofCodes codes
  | bytes b => exact Quoted.clean_ofBytes b
  | _ => cases atom

theorem clean_tuple (inner : Clean (tupleLetters xs)) :
    Clean (Value.written (.tuple xs)).toList := by
  match xs with
  | [] => rw [letters_tuple_nil]; simp
  | [x] =>
    rw [tupleLetters_singleton] at inner
    rw [letters_tuple_singleton]
    simp [inner]
  | x :: y :: xs =>
    rw [letters_tuple_cons]
    simp [inner]

theorem clean_tupleLetters_cons (storable : Value.allStorable (x :: xs))
    (key : Value.allHashable (x :: xs))
    (first : x.isStorable → x.hashable → Clean x.written.toList)
    (others : Value.allStorable xs → Value.allHashable xs → Clean (tupleLetters xs)) :
    Clean (tupleLetters (x :: xs)) := by
  rw [Value.allStorable, Bool.and_eq_true] at storable
  rw [Value.allHashable, Bool.and_eq_true] at key
  replace first := first storable.1 key.1
  replace others := others storable.2 key.2
  cases xs with
  | nil => rwa [tupleLetters_singleton]
  | cons y xs =>
    rw [tupleLetters_cons]
    simp [first, others]

theorem length_key_pos (storable : k.isStorable) (key : k.hashable) :
    0 < k.written.toList.length := by
  obtain ⟨front, more, letters, -⟩ := opens_key storable key
  rw [letters]
  exact Nat.succ_pos _

theorem KeyReread.value (read : KeyReread k) (storable : k.isStorable) (key : k.hashable)
    (sound : k.sound) (legible : k.legible) (open' : level ≤ deepest)
    (room : 4 * k.written.toList.length < depth) (divider : c ∈ dividers) :
    value depth level (k.written.toList ++ c :: rest) =
      if k.keyFits level then some (k, c :: rest) else none := by
  have written := length_key_pos storable key
  obtain ⟨depth, rfl⟩ : ∃ d, depth = d + 2 := ⟨depth - 2, by omega⟩
  exact value_of_operand divider (read storable key sound legible open' (by omega)
    (mem_stops_of_mem_dividers divider) fun _ => unquoted_divider divider)

theorem keyReread_atom (atom : k.isAtom) : KeyReread k := by
  intro depth level c rest storable key sound legible open' room stop alone
  have written := length_key_pos storable key
  obtain ⟨depth, rfl⟩ : ∃ d, depth = d + 2 := ⟨depth - 2, by omega⟩
  rw [operand_atom atom sound legible stop alone, Value.keyFits_of_isAtom atom open']

/-- A tuple is read if its items are, and if they are not taken for a value in parentheses. -/
theorem operand_tuple {s : List Char} {comma : Bool} (grouped' : grouped xs comma = .tuple xs)
    (inner : level < deepest → itemsFrom depth (level + 1) ')' s =
      if Value.keysFit (level + 1) xs then some (xs, comma, rest) else none) :
    operand (depth + 2) level ('(' :: s) =
      if Value.keyFits level (.tuple xs) then some (.tuple xs, rest) else none := by
  rw [operand_paren, items_eq]
  simp only [Value.keyFits_tuple]
  by_cases deep : level < deepest
  · rw [if_pos deep, inner deep]
    split_ifs
    · rw [Option.map_some, grouped']
    · rfl
  · have outside : ¬ Value.keysFit (level + 1) xs := fun fit => by
      have := (Value.keysFit_iff.1 fit).1
      omega
    rw [if_neg deep, if_neg outside]
    rfl

/-- The items of a tuple are read one by one. A single one has no comma behind it. -/
theorem itemsFrom_tupleLetters (each : ∀ x ∈ xs, KeyReread x) (some : xs ≠ [])
    (storable : Value.allStorable xs) (key : Value.allHashable xs) (sound : Value.allSound xs)
    (legible : Value.allLegible xs) (open' : level ≤ deepest)
    (room : 4 * (tupleLetters xs).length + 1 < depth) :
    itemsFrom depth level ')' (tupleLetters xs ++ ')' :: rest) =
      if Value.keysFit level xs then Option.some (xs, decide (1 < xs.length), rest) else none := by
  induction xs generalizing depth with
  | nil => exact absurd rfl some
  | cons x xs ih =>
    rw [Value.allStorable, Bool.and_eq_true] at storable
    rw [Value.allHashable, Bool.and_eq_true] at key
    rw [Value.allSound, Bool.and_eq_true] at sound
    rw [Value.allLegible, Bool.and_eq_true] at legible
    have first : ∀ {depth c rest}, 4 * x.written.toList.length < depth → c ∈ dividers →
        value depth level (x.written.toList ++ c :: rest) =
          if x.keyFits level then Option.some (x, c :: rest) else none := fun room divider =>
      KeyReread.value (each x List.mem_cons_self) storable.1 key.1 sound.1 legible.1 open' room
        divider
    obtain ⟨depth, rfl⟩ : ∃ d, depth = d + 1 := ⟨depth - 1, by omega⟩
    cases xs with
    | nil =>
      rw [tupleLetters_singleton] at room ⊢
      rw [itemsFrom_last ((opens_key storable.1 key.1).append _) (by decide) (by decide)
        (first (by omega) (by decide))]
      simp only [Value.keysFit_cons, Value.keysFit_nil open', and_true]
      rfl
    | cons y xs =>
      rw [tupleLetters_cons] at room ⊢
      simp only [List.length_cons, List.length_append] at room
      have behind := @ih depth (fun z among => each z (List.mem_cons_of_mem x among))
        nofun storable.2 key.2 sound.2 legible.2 (by omega)
      rw [← itemsFrom_space] at behind
      rw [List.append_assoc, List.cons_append, List.cons_append,
        itemsFrom_cons ((opens_key storable.1 key.1).append _) (by decide)
          (first (by omega) (by decide)) behind]
      simp only [Value.keysFit_cons (x := x)]
      simp

/-- A single item is told from a value in parentheses by the comma behind it. -/
theorem itemsFrom_singleton (read : KeyReread x) (storable : x.isStorable) (key : x.hashable)
    (sound : x.sound) (legible : x.legible) (open' : level ≤ deepest)
    (room : 4 * x.written.toList.length + 1 < depth) :
    itemsFrom depth level ')' (x.written.toList ++ ',' :: ')' :: rest) =
      if Value.keysFit level [x] then some ([x], true, rest) else none := by
  obtain ⟨depth, rfl⟩ : ∃ d, depth = d + 2 := ⟨depth - 2, by omega⟩
  have behind : itemsFrom (depth + 1) level ')' (')' :: rest) =
      if Value.keysFit level [] then some ([], false, rest) else none := by
    rw [Value.keysFit_nil open', if_pos rfl]
    exact itemsFrom_close (by decide)
  rw [itemsFrom_cons ((opens_key storable key).append _) (by decide)
    (read.value storable key sound legible open' (by omega) (by decide)) behind]
  simp only [Value.keysFit_cons]

theorem keyReread_tuple (each : ∀ x ∈ xs, KeyReread x) : KeyReread (.tuple xs) := by
  intro depth level c rest storable key sound legible open' room stop alone
  match xs with
  | [] =>
    rw [letters_tuple_nil] at room ⊢
    simp only [List.length_cons, List.length_nil] at room
    obtain ⟨depth, rfl⟩ : ∃ d, depth = d + 3 := ⟨depth - 3, by omega⟩
    refine operand_tuple (show grouped [] false = _ from rfl) fun deep => ?_
    rw [Value.keysFit_nil deep, if_pos rfl]
    exact itemsFrom_close (by decide)
  | [x] =>
    rw [Value.isStorable, Value.allStorable, Bool.and_eq_true] at storable
    rw [Value.hashable, Value.allHashable, Bool.and_eq_true] at key
    rw [Value.sound, Value.allSound, Bool.and_eq_true] at sound
    rw [Value.legible, Value.allLegible, Bool.and_eq_true] at legible
    rw [letters_tuple_singleton] at room ⊢
    simp only [List.length_cons, List.length_append, List.length_nil] at room
    obtain ⟨depth, rfl⟩ : ∃ d, depth = d + 2 := ⟨depth - 2, by omega⟩
    rw [List.cons_append, List.append_assoc]
    exact operand_tuple (show grouped [x] true = _ from rfl) fun deep =>
      itemsFrom_singleton (each x List.mem_cons_self) storable.1 key.1 sound.1 legible.1 deep
        (by omega)
  | x :: y :: xs =>
    rw [letters_tuple_cons] at room ⊢
    simp only [List.length_cons, List.length_append, List.length_nil] at room
    obtain ⟨depth, rfl⟩ : ∃ d, depth = d + 2 := ⟨depth - 2, by omega⟩
    rw [List.cons_append, List.append_assoc]
    exact operand_tuple rfl fun deep =>
      itemsFrom_tupleLetters each nofun storable key sound legible deep (by omega)

end Keys

mutual

/-- A key that is written as it is is read back. -/
theorem keyReread : ∀ k : Value, KeyReread k
  | .null | .bool _ | .int _ | .float _ | .text _ | .halves _ | .bytes _ => keyReread_atom rfl
  | .tuple xs => keyReread_tuple (keysReread xs)
  | .list _ | .dict _ | .buffer _ | .set _ => fun _ key => nomatch key
  | .complex _ _ | .frozen _ | .range _ _ | .foreign _ => fun storable => nomatch storable

theorem keysReread : ∀ xs : List Value, ∀ x ∈ xs, KeyReread x
  | [] => nofun
  | x :: xs => List.forall_mem_cons.2 ⟨keyReread x, keysReread xs⟩

end

mutual

/-- No key is written with a control character. -/
theorem clean_key : ∀ k : Value, k.isStorable → k.hashable → Clean k.written.toList
  | .null, _, _ | .bool _, _, _ | .int _, _, _ | .float _, _, _ | .text _, _, _ | .halves _, _, _
  | .bytes _, _, _ => clean_atom rfl
  | .tuple xs, storable, key => clean_tuple (clean_keys xs storable key)
  | .list _, _, key | .dict _, _, key | .buffer _, _, key | .set _, _, key => nomatch key
  | .complex _ _, storable, _ | .frozen _, storable, _ | .range _ _, storable, _
  | .foreign _, storable, _ => nomatch storable

theorem clean_keys : ∀ xs : List Value, Value.allStorable xs → Value.allHashable xs →
    Clean (tupleLetters xs)
  | [], _, _ => clean_nil
  | x :: xs, storable, key =>
    clean_tupleLetters_cons storable key (clean_key x) (clean_keys xs)

end

end Reader

end DebugScopes
