import DebugScopes.Value.Reader
import Mathlib

/-!
# The ways of reading

Whatever a reader returns it has put together in one of a few ways: so the text began, these readers
were called behind it, and that is what they returned. The ways of each reader are listed here once,
and a statement about all that can be read is proved way by way.

* `Reader.OperandWay`, `Reader.ItemsWay`, `Reader.BracesWay`, `Reader.EntriesWay`,
  `Reader.EntryWay`: the ways of the readers of values;
* `Reader.FurtherWay`, `Reader.LineWay`: those of the readers of lines;
* `Reader.operand_way` and the others: what is returned is returned in one of these ways.
-/

namespace DebugScopes.Reader

variable {depth level : Nat} {s rest : List Char} {close : Char} {comma minus : Bool}
  {key v w : Value} {vs : List Value} {rows : List (Value × Value)}

/-! ### Sums -/

/-- A value is an operand and what is added to it. -/
theorem value_way (read : value (depth + 1) level s = some (v, rest)) :
    ∃ first mid, operand depth level s = some (first, mid) ∧
      addends depth level first mid = some (v, rest) := by
  rw [value] at read
  split at read
  · next first => exact ⟨_, _, first, read⟩
  · cases read

/-- Nothing is added, or an operand behind a sign. -/
theorem addends_way (read : addends (depth + 1) level v s = some (w, rest)) :
    (w = v ∧ rest = s) ∨ ∃ minus more,
      blanks (0 < level) s = (if minus then '-' else '+') :: more ∧
        plus depth level minus v (blanks (0 < level) more) = some (w, rest) := by
  rw [addends] at read
  split at read
  · next more sign => exact .inr ⟨false, more, sign, read⟩
  · next more sign => exact .inr ⟨true, more, sign, read⟩
  · cases read
    exact .inl ⟨rfl, rfl⟩

/-- The operand behind a sign is added, and what comes after it to the sum. -/
theorem plus_way (read : plus (depth + 1) level minus v s = some (w, rest)) :
    ∃ other mid sum, operand depth level s = some (other, mid) ∧
      added minus v other = some sum ∧ addends depth level sum mid = some (w, rest) := by
  rw [plus] at read
  split at read
  · cases read
  · next other =>
    split at read
    · next sum => exact ⟨_, _, _, other, sum, read⟩
    · cases read

/-! ### Operands -/

/-- The ways in which an operand is read, with `depth` left for the calls. -/
inductive OperandWay (depth level : Nat) (rest : List Char) : List Char → Value → Prop
  | list {more : List Char} {vs : List Value} {comma : Bool}
      (inner : items depth level ']' more = some (vs, comma, rest)) :
      OperandWay depth level rest ('[' :: more) (.list vs)
  | group {more : List Char} {vs : List Value} {comma : Bool}
      (inner : items depth level ')' more = some (vs, comma, rest)) :
      OperandWay depth level rest ('(' :: more) (grouped vs comma)
  | braces {more : List Char} {v : Value}
      (inner : braces depth level (blanks true more) = some (v, rest)) :
      OperandWay depth level rest ('\x7b' :: more) v
  | minus {more : List Char} {v w : Value}
      (inner : operand depth level (blanks (0 < level) more) = some (v, rest))
      (signed : negated v = some w) : OperandWay depth level rest ('-' :: more) w
  | plus {more : List Char} {v w : Value}
      (inner : operand depth level (blanks (0 < level) more) = some (v, rest))
      (signed : affirmed v = some w) : OperandWay depth level rest ('+' :: more) w
  | quoted {s mid : List Char} {alphabet : Quoted.Alphabet} {codes : List Nat} {v : Value}
      (first : quoted? s = some (alphabet, codes, mid))
      (all : strings (0 < level) depth alphabet codes mid = some (v, rest)) :
      OperandWay depth level rest s v
  | number {s : List Char} {v : Value} (read : number s = some (v, rest)) :
      OperandWay depth level rest s v
  | named {s : List Char} {name : String} {v : Value} (front : name? s = some (name, rest))
      (meant : named? (Normal.form name) = some v) : OperandWay depth level rest s v
  | called {s mid more : List Char} {name : String} {vs : List Value} {comma : Bool} {v : Value}
      (front : name? s = some (name, mid)) (opening : blanks (0 < level) mid = '(' :: more)
      (inner : items depth level ')' more = some (vs, comma, rest))
      (meant : called? name vs = some v) : OperandWay depth level rest s v

theorem operand_way (read : operand (depth + 1) level s = some (v, rest)) :
    OperandWay depth level rest s v := by
  unfold operand at read
  split at read
  · cases read
  · obtain ⟨⟨vs, comma, _⟩, inner, same⟩ := Option.map_eq_some_iff.1 read
    cases same
    exact .list inner
  · split at read
    · next inner =>
      cases read
      exact .group inner
    · cases read
  · exact .braces read
  · split at read
    · next inner =>
      obtain ⟨w, signed, same⟩ := Option.map_eq_some_iff.1 read
      cases same
      exact .minus inner signed
    · cases read
  · split at read
    · next inner =>
      obtain ⟨w, signed, same⟩ := Option.map_eq_some_iff.1 read
      cases same
      exact .plus inner signed
    · cases read
  · split_ifs at read
    · split at read
      · next first => exact .quoted first read
      · cases read
    · exact .number read
    · split at read
      · cases read
      · next front =>
        split at read
        · next meant =>
          cases read
          exact .named front meant
        · next opening =>
          split at read
          · next inner =>
            obtain ⟨w, meant, same⟩ := Option.map_eq_some_iff.1 read
            cases same
            exact .called front opening inner meant
          · cases read
        · cases read

/-! ### Displays -/

/-- The items of a display are those that are left behind its bracket. -/
theorem items_way (read : items (depth + 1) level close s = some (vs, comma, rest)) :
    level < deepest ∧ itemsFrom depth (level + 1) close s = some (vs, comma, rest) := by
  rw [items] at read
  split_ifs at read with open'
  exact ⟨open', read⟩

/-- The ways in which the items that are left are read. -/
inductive ItemsWay (depth level : Nat) (close : Char) (s rest : List Char) :
    List Value → Bool → Prop
  | close (closing : blanks true s = close :: rest) : ItemsWay depth level close s rest [] false
  | last {v : Value} {mid : List Char}
      (first : value depth level (blanks true s) = some (v, mid))
      (closing : blanks true mid = close :: rest) :
      ItemsWay depth level close s rest [v] false
  | cons {v : Value} {mid more : List Char} {vs : List Value} {comma : Bool}
      (first : value depth level (blanks true s) = some (v, mid))
      (behind : blanks true mid = ',' :: more)
      (others : itemsFrom depth level close more = some (vs, comma, rest)) :
      ItemsWay depth level close s rest (v :: vs) true

theorem itemsFrom_way (read : itemsFrom (depth + 1) level close s = some (vs, comma, rest)) :
    ItemsWay depth level close s rest vs comma := by
  rw [itemsFrom] at read
  split at read
  · cases read
  · next c more front =>
    split_ifs at read with closing
    · cases read
      exact .close (closing ▸ front)
    · rw [← front] at read
      split at read
      · cases read
      · next first =>
        split at read
        · next behind =>
          obtain ⟨⟨others, _, _⟩, found, same⟩ := Option.map_eq_some_iff.1 read
          cases same
          exact .cons first behind found
        · next behind =>
          split_ifs at read with closing
          cases read
          exact .last first (closing ▸ behind)
        · cases read

/-- The ways in which a display in braces is read behind its opening. -/
inductive BracesWay (depth level : Nat) (rest : List Char) : List Char → Value → Prop
  | empty : BracesWay depth level rest ('\x7d' :: rest) (.dict [])
  | dict {s mid more : List Char} {key : Value} {rows : List (Value × Value)}
      (first : value depth (level + 1) s = some (key, mid))
      (colon : blanks true mid = ':' :: more)
      (inner : entry depth (level + 1) key more = some (rows, rest)) :
      BracesWay depth level rest s (.dict (Entries.ofList rows))
  | set {s mid more : List Char} {member v : Value} {members : List Value} {comma : Bool}
      (first : value depth (level + 1) s = some (member, mid))
      (behind : blanks true mid = ',' :: more)
      (others : itemsFrom depth (level + 1) '\x7d' more = some (members, comma, rest))
      (fixed : setOf (member :: members) = some v) : BracesWay depth level rest s v
  | single {s mid : List Char} {member v : Value}
      (first : value depth (level + 1) s = some (member, mid))
      (closing : blanks true mid = '\x7d' :: rest)
      (fixed : setOf [member] = some v) : BracesWay depth level rest s v

theorem braces_way (read : braces (depth + 1) level s = some (v, rest)) :
    BracesWay depth level rest s v := by
  cases s with
  | nil =>
    rw [braces] at read
    cases read
  | cons c s =>
    rw [braces] at read
    split_ifs at read with _ closing
    · cases read
      exact closing ▸ .empty
    · split at read
      · cases read
      · next first =>
        split at read
        · next colon =>
          obtain ⟨⟨rows, _⟩, inner, same⟩ := Option.map_eq_some_iff.1 read
          cases same
          exact .dict first colon inner
        · next behind =>
          split at read
          · next others =>
            obtain ⟨w, fixed, same⟩ := Option.map_eq_some_iff.1 read
            cases same
            exact .set first behind others fixed
          · cases read
        · next closing =>
          obtain ⟨w, fixed, same⟩ := Option.map_eq_some_iff.1 read
          cases same
          exact .single first closing fixed
        · cases read

/-- The ways in which the entries that are left are read. -/
inductive EntriesWay (depth level : Nat) (s rest : List Char) : List (Value × Value) → Prop
  | close (closing : blanks true s = '\x7d' :: rest) : EntriesWay depth level s rest []
  | cons {key : Value} {mid more : List Char} {rows : List (Value × Value)}
      (first : value depth level (blanks true s) = some (key, mid))
      (colon : blanks true mid = ':' :: more)
      (inner : entry depth level key more = some (rows, rest)) :
      EntriesWay depth level s rest rows

theorem entries_way (read : entries (depth + 1) level s = some (rows, rest)) :
    EntriesWay depth level s rest rows := by
  rw [entries] at read
  split at read
  · cases read
  · next c more front =>
    split_ifs at read with closing
    · cases read
      exact .close (closing ▸ front)
    · rw [← front] at read
      split at read
      · cases read
      · next first =>
        split at read
        · next colon => exact .cons first colon read
        · cases read

/-- The ways in which the value of a key is read, with the entries behind it. -/
inductive EntryWay (depth level : Nat) (key : Value) (s rest : List Char) :
    List (Value × Value) → Prop
  | last {v : Value} {mid : List Char} (fixed : key.hashable)
      (val : value depth level (blanks true s) = some (v, mid))
      (closing : blanks true mid = '\x7d' :: rest) : EntryWay depth level key s rest [(key, v)]
  | cons {v : Value} {mid more : List Char} {rows : List (Value × Value)} (fixed : key.hashable)
      (val : value depth level (blanks true s) = some (v, mid))
      (behind : blanks true mid = ',' :: more)
      (others : entries depth level more = some (rows, rest)) :
      EntryWay depth level key s rest ((key, v) :: rows)

theorem entry_way (read : entry (depth + 1) level key s = some (rows, rest)) :
    EntryWay depth level key s rest rows := by
  rw [entry] at read
  split at read
  · cases read
  · next val =>
    split_ifs at read with unfixed
    have fixed : key.hashable := by simpa using unfixed
    split at read
    · next behind =>
      obtain ⟨⟨rows, _⟩, others, same⟩ := Option.map_eq_some_iff.1 read
      cases same
      exact .cons fixed val behind others
    · next closing =>
      cases read
      exact .last fixed val closing
    · cases read

/-! ### Lines -/

/-- The ways in which the further values of a line are read: there is no comma, or nothing behind
it, or a value. -/
inductive FurtherWay (count : Nat) (s : List Char) : List Value → List Char → Prop
  | alone : FurtherWay count s [] s
  | last {more : List Char} (behind : blanks false s = ',' :: more) :
      FurtherWay count s [] (blanks false more)
  | cons {more mid rest : List Char} {v : Value} {vs : List Value} {comma : Bool}
      (behind : blanks false s = ',' :: more)
      (first : value (depthFor (blanks false more)) 0 (blanks false more) = some (v, mid))
      (others : further count mid = some (vs, comma, rest)) : FurtherWay count s (v :: vs) rest

theorem further_way {count : Nat} (read : further (count + 1) s = some (vs, comma, rest)) :
    FurtherWay count s vs rest := by
  rw [further] at read
  split at read
  · next behind =>
    dsimp only at read
    split_ifs at read
    · cases read
      exact .last behind
    · split at read
      · next first =>
        obtain ⟨⟨vs, comma, _⟩, others, same⟩ := Option.map_eq_some_iff.1 read
        cases same
        exact .cons behind first others
      · cases read
  · cases read
    exact .alone

/-- The value of a line is its first one, with the further ones if there are any. -/
theorem lineValue_way (read : lineValue s = some (v, rest)) :
    ∃ first mid vs comma, value (depthFor s) 0 s = some (first, mid) ∧
      further (mid.length + 1) mid = some (vs, comma, rest) ∧ v = grouped (first :: vs) comma := by
  rw [lineValue] at read
  split at read
  · cases read
  · next first =>
    obtain ⟨⟨vs, comma, _⟩, others, same⟩ := Option.map_eq_some_iff.1 read
    cases same
    exact ⟨_, _, vs, comma, first, others, rfl⟩

/-- The ways in which a line is read. -/
inductive LineWay (s rest : List Char) : Option (String × Value) → Prop
  | value {line mid : List Char} {v : Value} (margin : indent 0 0 s = (0, line))
      (read : lineValue line = some (v, mid)) (ends : lineEnd? mid = some rest) :
      LineWay s rest none
  | assigned {line more mid : List Char} {name : String} {v : Value}
      (margin : indent 0 0 s = (0, line)) (target : target? line = some (name, more))
      (read : lineValue (blanks false more) = some (v, mid)) (ends : lineEnd? mid = some rest) :
      LineWay s rest (some (Normal.form name, v))

theorem line?_way {row : Option (String × Value)} (read : line? s = some (row, rest)) :
    LineWay s rest row := by
  rw [line?] at read
  split at read
  · cases read
  · next margin =>
    split at read
    · split at read
      · next found =>
        obtain ⟨_, ends, same⟩ := Option.map_eq_some_iff.1 read
        cases same
        exact .value margin found ends
      · cases read
    · next target =>
      split_ifs at read
      split at read
      · next found =>
        obtain ⟨_, ends, same⟩ := Option.map_eq_some_iff.1 read
        cases same
        exact .assigned margin target found ends
      · cases read

end DebugScopes.Reader
