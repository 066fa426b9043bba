import DebugScopes.Proofs.MapFile.Names
import DebugScopes.Proofs.Value.Stored
import DebugScopes.Proofs.Value.Ways

/-!
# Whatever is read can come up

A value that is read of a text can come up: the codes of its strings are codes of characters or of
halves of surrogate pairs, and the keys of its dictionaries cannot change and can be told apart. The
induction is on the depth of the calls; each reader hands on what it is given by those it calls.

* `Quoted.codes_decodeBody`: the codes of a string;
* `Value.sound_ofList`: dictionaries;
* `Reader.readsSound`: values;
* `Reader.sound_assignments?`: the values of a whole file.
-/

namespace DebugScopes

/-! ### Strings -/

namespace Quoted

variable {alphabet : Alphabet} {s rest : List Char}

theorem toNat_lt_codeCount (c : Char) : c.toNat < codeCount := by
  have valid := c.valid
  simp only [UInt32.isValidChar, Nat.isValidChar] at valid
  change c.val.toNat < 0x110000
  omega

theorem octalDigit?_lt {c : Char} {d : Nat} (digit : octalDigit? c = some d) : d < 8 := by
  unfold octalDigit? at digit
  split_ifs at digit with range
  cases digit
  have := Char.le_def.1 range.2
  change c.toNat ≤ 55 at this
  show c.toNat - 48 < 8
  omega

theorem octalNumber_lt {count value : Nat} :
    (octalNumber count value s).1 < (value + 1) * 8 ^ count := by
  fun_induction octalNumber count value s with
  | case1 count value c rest d digit ih =>
    have := octalDigit?_lt digit
    calc _ < (value * 8 + d + 1) * 8 ^ count := ih
      _ ≤ (value + 1) * 8 * 8 ^ count := Nat.mul_le_mul_right _ (by omega)
      _ = (value + 1) * 8 ^ (count + 1) := by ring
  | case2 | case3 =>
    exact Nat.lt_of_lt_of_le (Nat.lt_succ_self _) (Nat.le_mul_of_pos_right _ (by positivity))

/-- An escape stands for codes of characters or of halves of surrogate pairs. -/
theorem codes_readEscape {meant : List Nat} (read : readEscape alphabet s = some (meant, rest)) :
    ∀ code ∈ meant, code < codeCount := by
  cases s with
  | nil => cases read
  | cons c s =>
    simp only [readEscape] at read
    have coded : ∀ count : Nat, ((hexNumber? count 0 s).bind fun number =>
        if number.1 < codeCount then some ([number.1], number.2) else none) = some (meant, rest) →
          ∀ code ∈ meant, code < codeCount := by
      intro count found
      obtain ⟨⟨n, after⟩, number, found⟩ := Option.bind_eq_some_iff.1 found
      dsimp only at found
      split at found
      · next small =>
        cases found
        simpa using small
      · cases found
    split at read
    · cases read
      simpa using toNat_lt_codeCount _
    · next d _ digit =>
      cases read
      have small : d < 8 := octalDigit?_lt digit
      have := @octalNumber_lt s 2 d
      simp only [List.mem_singleton, forall_eq, codeCount]
      split <;> omega
    · repeat' split at read
      all_goals first
        | cases read; simp; done
        | exact coded _ read
        | cases read; simpa [codeCount] using toNat_lt_codeCount c
        | cases read

/-- The codes of a string are codes of characters or of halves of surrogate pairs. -/
theorem codes_decodeBody {closing : Closing} {body : List Nat}
    (read : decodeBody alphabet closing s = some (body, rest)) :
    ∀ code ∈ body, code < codeCount := by
  fun_induction decodeBody alphabet closing s generalizing body rest with
  | case1 => cases read; exact List.forall_mem_nil _
  | case2 => cases read
  | case3 => cases read
  | case4 => cases read
  | case5 s meant after escaped _ _ _ ih =>
    obtain ⟨⟨_, _⟩, found, same⟩ := Option.map_eq_some_iff.1 read
    cases same
    exact List.forall_mem_append.2 ⟨codes_readEscape escaped, ih found⟩
  | case6 => cases read
  | case7 c s _ _ _ _ ih =>
    obtain ⟨⟨_, _⟩, found, same⟩ := Option.map_eq_some_iff.1 read
    cases same
    exact List.forall_mem_cons.2 ⟨toNat_lt_codeCount c, ih found⟩

end Quoted

/-! ### Values -/

namespace Value

variable {v : Value} {vs : List Value} {rows : Entries}

/-- Whether a value is a number. -/
def isNumber : Value → Bool
  | int _ | float _ | complex _ _ => true
  | _ => false

theorem sound_of_isNumber (number : v.isNumber) : v.sound := by
  cases v <;> first | rfl | cases number

theorem allSound_cons : allSound (v :: vs) ↔ v.sound ∧ allSound vs := by
  rw [allSound, Bool.and_eq_true]

/-- A dictionary can come up whose rows can. -/
theorem sound_ofList (sound : entriesSound rows) : (dict (Entries.ofList rows)).sound := by
  rw [Value.sound, Bool.and_eq_true]
  refine ⟨Entries.keysDiffer_overlay rfl, entriesSound_iff.2 ?_⟩
  exact Entries.forall_overlay (K := fun k => k.hashable ∧ k.sound) (V := fun v => v.sound)
    (List.forall_mem_nil _) (entriesSound_iff.1 sound)

end Value

namespace Reader

variable {depth level : Nat} {s rest : List Char} {close : Char} {comma inside minus : Bool}
  {v w : Value} {vs : List Value} {rows : List (Value × Value)}
  {alphabet : Quoted.Alphabet} {codes : List Nat}

theorem sound_stringValue (bound : ∀ code ∈ codes, code < Quoted.codeCount) :
    (stringValue alphabet codes).sound := by
  cases alphabet with
  | bytes => rfl
  | text =>
    rw [stringValue, Value.ofCodes]
    split_ifs with valid
    · rfl
    · rw [Value.sound, Bool.and_eq_true, List.all_eq_true]
      exact ⟨fun code among => decide_eq_true (bound code among), by simpa using valid⟩

theorem codes_quoted? (read : quoted? s = some (alphabet, codes, rest)) :
    ∀ code ∈ codes, code < Quoted.codeCount := by
  have behind : ∀ {alphabet' : Quoted.Alphabet} {s : List Char},
      quotedOver? alphabet' s = some (alphabet, codes, rest) →
        ∀ code ∈ codes, code < Quoted.codeCount := by
    intro alphabet' s read
    unfold quotedOver? at read
    split at read
    · split_ifs at read
      obtain ⟨⟨body, after⟩, found, same⟩ := Option.map_eq_some_iff.1 read
      cases same
      exact Quoted.codes_decodeBody found
    · cases read
  unfold quoted? at read
  split at read <;> exact behind read

/-- Strings side by side are one string. -/
theorem sound_strings (ahead : ∀ code ∈ codes, code < Quoted.codeCount)
    (read : strings inside depth alphabet codes s = some (v, rest)) : v.sound := by
  induction depth generalizing codes s with
  | zero => cases read
  | succ depth ih =>
    rw [strings] at read
    split_ifs at read with more
    · split at read
      · next body after found =>
        split_ifs at read
        exact ih (List.forall_mem_append.2 ⟨ahead, codes_quoted? found⟩) read
      · cases read
    · cases read
      exact sound_stringValue ahead

theorem isNumber_marked {digit? : Char → Option Nat} {base : Nat}
    (read : marked digit? base s = some (v, rest)) : v.isNumber := by
  unfold marked at read
  dsimp only at read
  split at read
  · cases read
  · cases read
    rfl

theorem isNumber_decimalNumber (read : decimalNumber s = some (v, rest)) : v.isNumber := by
  unfold decimalNumber at read
  dsimp only at read
  repeat' split at read
  all_goals first | cases read; rfl | cases read

theorem isNumber_number (read : number s = some (v, rest)) : v.isNumber := by
  unfold number at read
  split at read
  all_goals first | exact isNumber_marked read | exact isNumber_decimalNumber read

theorem isNumber_negated (read : negated v = some w) : w.isNumber := by
  cases v <;> cases read <;> rfl

theorem isNumber_affirmed (read : affirmed v = some w) : w.isNumber := by
  cases v <;> cases read <;> rfl

theorem isNumber_added {sum : Value} (read : added minus v w = some sum) : sum.isNumber := by
  unfold added at read
  repeat' split at read
  all_goals first | cases read; rfl | cases read

theorem sound_named? {name : String} (read : named? name = some v) : v.sound := by
  unfold named? at read
  split_ifs at read <;> cases read <;> rfl

theorem sound_called? {name : String} (read : called? name vs = some v) : v.sound := by
  unfold called? at read
  split at read
  · cases read; rfl
  · cases read; rfl
  · cases read; rfl
  · cases read; rfl
  · obtain ⟨i, -, read⟩ := Option.bind_eq_some_iff.1 read
    obtain ⟨j, -, read⟩ := Option.bind_eq_some_iff.1 read
    cases read
    rfl
  · cases read

theorem sound_grouped (sound : Value.allSound vs) : (grouped vs comma).sound := by
  unfold grouped
  split
  · exact (Value.allSound_cons.1 sound).1
  · exact sound

theorem sound_setOf (read : setOf vs = some v) : v.sound := by
  unfold setOf at read
  split_ifs at read
  cases read
  rfl

/-! ### Readers -/

/-- Whatever the readers return within a depth of calls can come up. -/
structure ReadsSound (depth : Nat) : Prop where
  value : ∀ {level s v rest}, value depth level s = some (v, rest) → v.sound
  addends : ∀ {level v s w rest}, v.sound → addends depth level v s = some (w, rest) → w.sound
  plus : ∀ {level minus v s w rest}, plus depth level minus v s = some (w, rest) → w.sound
  operand : ∀ {level s v rest}, operand depth level s = some (v, rest) → v.sound
  items : ∀ {level close s vs comma rest},
    items depth level close s = some (vs, comma, rest) → Value.allSound vs
  itemsFrom : ∀ {level close s vs comma rest},
    itemsFrom depth level close s = some (vs, comma, rest) → Value.allSound vs
  braces : ∀ {level s v rest}, braces depth level s = some (v, rest) → v.sound
  entries : ∀ {level s rows rest},
    entries depth level s = some (rows, rest) → Value.entriesSound rows
  entry : ∀ {level key s rows rest}, key.sound →
    entry depth level key s = some (rows, rest) → Value.entriesSound rows

theorem readsSound_zero : ReadsSound 0 := by
  constructor <;> intros <;> rename_i read <;>
    simp [Reader.value, Reader.addends, Reader.plus, Reader.operand, Reader.items, Reader.itemsFrom,
      Reader.braces, Reader.entries, Reader.entry] at read

namespace ReadsSound

theorem value_succ (ih : ReadsSound depth)
    (read : Reader.value (depth + 1) level s = some (v, rest)) : v.sound := by
  obtain ⟨first, mid, found, behind⟩ := value_way read
  exact ih.addends (ih.operand found) behind

theorem addends_succ (ih : ReadsSound depth) (sound : v.sound)
    (read : Reader.addends (depth + 1) level v s = some (w, rest)) : w.sound := by
  rcases addends_way read with ⟨rfl, -⟩ | ⟨minus, more, -, behind⟩
  · exact sound
  · exact ih.plus behind

theorem plus_succ (ih : ReadsSound depth)
    (read : Reader.plus (depth + 1) level minus v s = some (w, rest)) : w.sound := by
  obtain ⟨other, mid, sum, -, total, behind⟩ := plus_way read
  exact ih.addends (Value.sound_of_isNumber (isNumber_added total)) behind

theorem operand_succ (ih : ReadsSound depth)
    (read : Reader.operand (depth + 1) level s = some (v, rest)) : v.sound := by
  cases operand_way read with
  | list inner => exact ih.items inner
  | group inner => exact sound_grouped (ih.items inner)
  | braces inner => exact ih.braces inner
  | minus inner signed => exact Value.sound_of_isNumber (isNumber_negated signed)
  | plus inner signed => exact Value.sound_of_isNumber (isNumber_affirmed signed)
  | quoted first all => exact sound_strings (codes_quoted? first) all
  | number read => exact Value.sound_of_isNumber (isNumber_number read)
  | named front meant => exact sound_named? meant
  | called front opening inner meant => exact sound_called? meant

theorem items_succ (ih : ReadsSound depth)
    (read : Reader.items (depth + 1) level close s = some (vs, comma, rest)) :
    Value.allSound vs :=
  ih.itemsFrom (items_way read).2

theorem itemsFrom_succ (ih : ReadsSound depth)
    (read : Reader.itemsFrom (depth + 1) level close s = some (vs, comma, rest)) :
    Value.allSound vs := by
  cases itemsFrom_way read with
  | close closing => rfl
  | last first closing => exact Value.allSound_cons.2 ⟨ih.value first, rfl⟩
  | cons first behind others =>
    exact Value.allSound_cons.2 ⟨ih.value first, ih.itemsFrom others⟩

theorem braces_succ (ih : ReadsSound depth)
    (read : Reader.braces (depth + 1) level s = some (v, rest)) : v.sound := by
  cases braces_way read with
  | empty => rfl
  | dict first colon inner => exact Value.sound_ofList (ih.entry (ih.value first) inner)
  | set first behind others fixed => exact sound_setOf fixed
  | single first closing fixed => exact sound_setOf fixed

theorem entries_succ (ih : ReadsSound depth)
    (read : Reader.entries (depth + 1) level s = some (rows, rest)) :
    Value.entriesSound rows := by
  cases entries_way read with
  | close closing => rfl
  | cons first colon inner => exact ih.entry (ih.value first) inner

theorem entry_succ {key : Value} (ih : ReadsSound depth) (sound : key.sound)
    (read : Reader.entry (depth + 1) level key s = some (rows, rest)) :
    Value.entriesSound rows := by
  cases entry_way read with
  | last fixed val closing =>
    rw [Value.entriesSound, fixed, sound, ih.value val]
    rfl
  | cons fixed val behind others =>
    rw [Value.entriesSound, fixed, sound, ih.value val, ih.entries others]
    rfl

end ReadsSound

theorem readsSound (depth : Nat) : ReadsSound depth := by
  induction depth with
  | zero => exact readsSound_zero
  | succ depth ih =>
    exact ⟨ih.value_succ, ih.addends_succ, ih.plus_succ, ih.operand_succ, ih.items_succ,
      ih.itemsFrom_succ, ih.braces_succ, ih.entries_succ, ih.entry_succ⟩

/-! ### Files -/

theorem sound_further {count : Nat} (read : further count s = some (vs, comma, rest)) :
    Value.allSound vs := by
  induction count generalizing s vs comma rest with
  | zero => cases read
  | succ count ih =>
    cases further_way read with
    | alone => rfl
    | last behind => rfl
    | cons behind first others =>
      exact Value.allSound_cons.2 ⟨(readsSound _).value first, ih others⟩

theorem sound_lineValue (read : lineValue s = some (v, rest)) : v.sound := by
  obtain ⟨first, mid, vs, comma, found, others, rfl⟩ := lineValue_way read
  exact sound_grouped (Value.allSound_cons.2 ⟨(readsSound _).value found, sound_further others⟩)

theorem sound_line? {row : Option (String × Value)} (read : line? s = some (row, rest)) :
    ∀ assigned ∈ row, assigned.2.sound := by
  cases line?_way read with
  | value margin found ends => rintro _ ⟨⟩
  | assigned margin target found ends =>
    rintro _ ⟨⟩
    exact sound_lineValue found

theorem sound_lines? {lines : Nat} {rows : List (String × Value)}
    (read : lines? lines s = some rows) : ∀ row ∈ rows, row.2.sound := by
  induction lines generalizing s rows with
  | zero => cases read
  | succ lines ih =>
    rw [lines?] at read
    split at read
    · cases read
      exact List.forall_mem_nil _
    · exact ih read
    · split at read
      · next found =>
        cases read
        exact fun row among => sound_line? found row (Option.mem_toList.1 among)
      · next found =>
        obtain ⟨others, behind, rfl⟩ := Option.map_eq_some_iff.1 read
        exact List.forall_mem_append.2
          ⟨fun row among => sound_line? found row (Option.mem_toList.1 among), ih behind⟩
      · cases read

/-- Whatever a file assigns can come up. -/
theorem sound_assignments? {file : String} {rows : List (String × Value)}
    (read : assignments? file = some rows) : ∀ row ∈ rows, row.2.sound := by
  rw [assignments?] at read
  split_ifs at read
  exact sound_lines? read

end Reader

namespace MapFile

variable {names : Names} {file map text : String} {rows : List (String × Value)} {above : Entries}
  {messages : List Console.Message}

/-- Names that stand for what can come up. -/
def Names.Sound (names : Names) : Prop := ∀ name v, names name = some v → v.sound

theorem Names.Sound.set (sound : names.Sound) {name : String} {v : Value} (fits : v.sound) :
    (names.set name v).Sound := by
  intro other w given
  rw [Names.set] at given
  split_ifs at given
  · cases given
    exact fits
  · exact sound other w given

theorem Names.sound_start (map : String) : (start map).Sound :=
  @Sound.set (fun _ => none) (fun _ _ given => nomatch given) map (.dict []) rfl

theorem Names.Sound.assign (sound : names.Sound) (fits : ∀ row ∈ rows, row.2.sound) :
    (names.assign rows).Sound := by
  intro name v given
  rw [assign_apply, Option.or_eq_some_iff] at given
  rcases given with last | ⟨-, kept⟩
  · obtain ⟨row, among, rfl⟩ := exists_of_lastValue? last
    exact fits row among
  · exact sound name v kept

/-- What a file of assignments sets can come up, and so can what counts if it is none. -/
theorem sound_settle (settled : settle .plain file map text = .ok (names, messages)) :
    names.Sound := by
  rw [settle] at settled
  cases read : Reader.assignments? text with
  | none =>
    rw [Machine.plain_run_none read] at settled
    cases settled
    exact ((Names.sound_start map).set rfl).set rfl
  | some rows =>
    rw [Machine.plain_run read] at settled
    cases settled
    exact (Names.sound_start map).assign (Reader.sound_assignments? read)

/-- The map that a file of assignments gives can come up. -/
theorem sound_found (given : found file map text = .ok (above, messages)) :
    (Value.dict above).sound := by
  obtain ⟨names, first, more, settled, judged, -⟩ := of_foundOn_ok given
  rcases of_judge_ok judged with rfl | there
  · rfl
  · exact sound_settle settled map _ there

end MapFile

end DebugScopes
