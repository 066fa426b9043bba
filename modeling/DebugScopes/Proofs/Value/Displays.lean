import DebugScopes.Proofs.Value.Atoms

/-!
# Values in brackets, step by step

What is known about the reading of an item, a key or a value gives the reading of the display in
which it stands. Each step says how the display goes on and with what result, whether the part can
be read or not: `if p then some … else none` in a hypothesis and in the conclusion.

* `Reader.value_of_operand`: a value that a comma, a colon or a bracket ends;
* `Reader.itemsFrom_cons`: an item and the items behind it;
* `Reader.entries_cons`: a key, its value and the entries behind it;
* `Reader.braces_eq_entries`: the first entry is read like the others.
-/

namespace DebugScopes.Reader

variable {depth level : Nat} {c close : Char} {s more rest : List Char} {v : Value}

/-! ### What stands in front and behind -/

/-- What may end a value in a display at once. -/
def dividers : List Char := [',', ':', ')']

/-- The characters that stand between the parts of a display or close it. -/
def closers : List Char := [',', ':', ']', ')', '\x7d']

/-- Whether a text starts with a value: neither with what is dropped nor with what ends a part. -/
def Opens (s : List Char) : Prop :=
  ∃ front more, s = front :: more ∧ front ∉ blankMarks ∧ front ∉ closers

theorem Opens.append (opens : Opens s) (more : List Char) : Opens (s ++ more) := by
  obtain ⟨front, rest, rfl, solid, other⟩ := opens
  exact ⟨front, rest ++ more, rfl, solid, other⟩

theorem Opens.blanks_eq {inside : Bool} (opens : Opens s) : blanks inside s = s := by
  obtain ⟨front, rest, rfl, solid, -⟩ := opens
  exact blanks_cons solid

/-- A value does not start with what closes a display. -/
theorem Opens.ne_closer (opens : Opens s) (closer : close ∈ closers) : s ≠ close :: rest := by
  rintro rfl
  obtain ⟨front, tail, same, -, other⟩ := opens
  cases same
  exact other closer

/-- How numbers start: with a digit, a sign or a letter of a name. -/
def StartsNumber (c : Char) : Prop := c.isDigit ∨ c ∈ ['-', 'n', 'i']

theorem StartsNumber.opens (starts : StartsNumber c) : Opens (c :: rest) := by
  rcases starts with digit | mark
  · refine ⟨c, rest, rfl, solid_of_isDigit digit, fun closer => ?_⟩
    simp only [closers, List.mem_cons, List.not_mem_nil, or_false] at closer
    rcases closer with rfl | rfl | rfl | rfl | rfl <;> exact absurd digit (by decide)
  · simp only [List.mem_cons, List.not_mem_nil, or_false] at mark
    rcases mark with rfl | rfl | rfl <;> exact ⟨_, _, rfl, by decide, by decide⟩

theorem StartsNumber.unquoted (starts : StartsNumber c) : startsQuoted (c :: rest) = false := by
  rcases starts with digit | mark
  · exact unquoted_of_isDigit digit
  · simp only [List.mem_cons, List.not_mem_nil, or_false] at mark
    rcases mark with rfl | rfl | rfl <;> rfl

theorem mem_stops_of_mem_dividers (divider : c ∈ dividers) : c ∈ stops := by
  simp only [dividers, List.mem_cons, List.not_mem_nil, or_false] at divider
  rcases divider with rfl | rfl | rfl <;> decide

theorem mem_closers_of_mem_dividers (divider : c ∈ dividers) : c ∈ closers := by
  simp only [dividers, List.mem_cons, List.not_mem_nil, or_false] at divider
  rcases divider with rfl | rfl | rfl <;> decide

theorem blanks_divider {inside : Bool} (divider : c ∈ dividers) :
    blanks inside (c :: rest) = c :: rest := by
  refine blanks_cons ?_
  simp only [dividers, List.mem_cons, List.not_mem_nil, or_false] at divider
  rcases divider with rfl | rfl | rfl <;> decide

/-- No string stands where something is divided. -/
theorem unquoted_divider {inside : Bool} (divider : c ∈ dividers) :
    startsQuoted (blanks inside (c :: rest)) = false := by
  rw [blanks_divider divider]
  simp only [dividers, List.mem_cons, List.not_mem_nil, or_false] at divider
  rcases divider with rfl | rfl | rfl <;> rfl

/-- Nothing is added where no sign follows. -/
theorem addends_unsigned
    (unsigned : ∀ d ∈ (blanks (0 < level) s).head?, d ≠ '+' ∧ d ≠ '-') :
    addends (depth + 1) level v s = some (v, s) := by
  rw [addends]
  split
  · next ahead => exact absurd rfl (unsigned _ (by rw [ahead]; rfl)).1
  · next ahead => exact absurd rfl (unsigned _ (by rw [ahead]; rfl)).2
  · rfl

/-! ### Values -/

section Steps

variable {p q : Prop} [Decidable p] [Decidable q]

/-- An operand that something divides from what follows is the whole value. -/
theorem value_of_operand (divider : c ∈ dividers)
    (read : operand (depth + 1) level s = if p then some (v, c :: rest) else none) :
    value (depth + 2) level s = if p then some (v, c :: rest) else none := by
  have unsigned : ∀ d ∈ (blanks (0 < level) (c :: rest)).head?, d ≠ '+' ∧ d ≠ '-' := by
    rw [blanks_divider divider]
    simp only [dividers, List.mem_cons, List.not_mem_nil, or_false] at divider
    rintro d ⟨⟩
    rcases divider with rfl | rfl | rfl <;> decide
  rw [value, read]
  split_ifs
  · exact addends_unsigned unsigned
  · rfl

/-! ### Items -/

theorem operand_bracket :
    operand (depth + 1) level ('[' :: s) =
      (items depth level ']' s).map fun read => (.list read.1, read.2.2) := by
  rw [operand]

theorem operand_paren :
    operand (depth + 1) level ('(' :: s) =
      (items depth level ')' s).map fun read => (grouped read.1 read.2.1, read.2.2) := by
  rw [operand]
  cases items depth level ')' s <;> rfl

theorem operand_brace :
    operand (depth + 1) level ('\x7b' :: s) = braces depth level (blanks true s) := by
  rw [operand]

/-- A bracket is opened unless too many are open. -/
theorem items_eq :
    items (depth + 1) level close s =
      if level < deepest then itemsFrom depth (level + 1) close s else none := by
  rw [items]

@[simp]
theorem itemsFrom_space :
    itemsFrom depth level close (' ' :: s) = itemsFrom depth level close s := by
  cases depth <;> simp [itemsFrom]

theorem itemsFrom_close (solid : close ∉ blankMarks) :
    itemsFrom (depth + 1) level close (close :: rest) = some ([], false, rest) := by
  rw [itemsFrom, blanks_cons solid]
  exact if_pos rfl

/-- Where no bracket closes the display, the next item is read. -/
theorem itemsFrom_of_opens (opens : Opens s) (closer : close ∈ closers) :
    itemsFrom (depth + 1) level close s =
      match value depth level s with
      | none => none
      | some (v, rest) =>
        match blanks true rest with
        | ',' :: rest =>
          (itemsFrom depth level close rest).map fun (vs, _, rest) => (v :: vs, true, rest)
        | d :: rest => if d = close then some ([v], false, rest) else none
        | [] => none := by
  rw [itemsFrom, opens.blanks_eq]
  obtain ⟨front, tail, rfl, -, other⟩ := opens
  exact if_neg (by rintro rfl; exact other closer)

/-- An item is read with the items behind its comma. -/
theorem itemsFrom_cons {vs : List Value} {comma : Bool} (opens : Opens s) (closer : close ∈ closers)
    (first : value depth level s = if p then some (v, ',' :: more) else none)
    (others : itemsFrom depth level close more = if q then some (vs, comma, rest) else none) :
    itemsFrom (depth + 1) level close s =
      if p ∧ q then some (v :: vs, true, rest) else none := by
  rw [itemsFrom_of_opens opens closer, first]
  by_cases readable : p
  · rw [if_pos readable]
    dsimp only
    rw [blanks_divider (by decide)]
    change Option.map _ (itemsFrom depth level close more) = _
    rw [others]
    by_cases all : q
    · rw [if_pos all, if_pos ⟨readable, all⟩]
      rfl
    · rw [if_neg all, if_neg fun both => all both.2]
      rfl
  · rw [if_neg readable, if_neg fun both => readable both.1]

/-- The last item may stand right before the closing bracket. -/
theorem itemsFrom_last (opens : Opens s) (closer : close ∈ dividers) (apart : close ≠ ',')
    (first : value depth level s = if p then some (v, close :: rest) else none) :
    itemsFrom (depth + 1) level close s = if p then some ([v], false, rest) else none := by
  rw [itemsFrom_of_opens opens (mem_closers_of_mem_dividers closer), first]
  split_ifs
  · dsimp only
    rw [blanks_divider closer]
    split
    · next same => cases same; exact absurd rfl apart
    · next same => cases same; exact if_pos rfl
    · contradiction
  · rfl

/-! ### Entries -/

@[simp]
theorem entries_space : entries depth level (' ' :: s) = entries depth level s := by
  cases depth <;> simp [entries]

@[simp]
theorem entries_line : entries depth level ('\n' :: s) = entries depth level s := by
  cases depth <;> simp [entries]

theorem entries_close : entries (depth + 1) level ('\x7d' :: rest) = some ([], rest) := by
  rw [entries, blanks_cons (by decide)]
  exact if_pos rfl

/-- Where no brace closes the dictionary, the next key is read. -/
theorem entries_of_opens (opens : Opens s) :
    entries (depth + 1) level s =
      match value depth level s with
      | none => none
      | some (key, rest) =>
        match blanks true rest with
        | ':' :: rest => entry depth level key rest
        | _ => none := by
  rw [entries, opens.blanks_eq]
  obtain ⟨front, tail, rfl, -, other⟩ := opens
  exact if_neg (by rintro rfl; exact other (by decide))

/-- The value of a key is read, and then the entries behind its comma. -/
theorem entry_cons {k : Value} {mid : List Char} (solid : blanks true mid = mid)
    (val : value depth level mid = if q then some (v, ',' :: more) else none) :
    entry (depth + 1) level k (' ' :: mid) =
      if k.hashable ∧ q then
        (entries depth level more).map fun read => ((k, v) :: read.1, read.2)
      else none := by
  rw [entry, blanks_space, solid, val]
  by_cases readable : q
  · rw [if_pos readable]
    dsimp only
    rw [blanks_divider (by decide)]
    by_cases fixed : k.hashable
    · simp [fixed, readable]
    · simp [fixed]
  · simp [readable]

/-- A key and its value are read, and then the entries behind their comma. -/
theorem entries_cons {k : Value} {mid : List Char} (opens : Opens s)
    (key : value (depth + 1) level s = if p then some (k, ':' :: ' ' :: mid) else none)
    (solid : blanks true mid = mid)
    (val : value depth level mid = if q then some (v, ',' :: more) else none) :
    entries (depth + 2) level s =
      if p ∧ k.hashable ∧ q then
        (entries depth level more).map fun read => ((k, v) :: read.1, read.2)
      else none := by
  rw [entries_of_opens opens, key]
  by_cases keyed : p
  · rw [if_pos keyed]
    dsimp only
    rw [blanks_divider (by decide)]
    change entry (depth + 1) level k (' ' :: mid) = _
    rw [entry_cons solid val]
    simp [keyed]
  · rw [if_neg keyed, if_neg fun all => keyed all.1]

theorem operand_nil : operand depth level [] = none := by
  cases depth <;> rw [operand]

theorem value_nil : value depth level [] = none := by
  cases depth with
  | zero => rw [value]
  | succ depth => rw [value, operand_nil]

/-- A closing brace is no value. -/
theorem value_brace : value depth level ('\x7d' :: s) = none := by
  cases depth with
  | zero => rw [value]
  | succ depth =>
    have none : operand depth level ('\x7d' :: s) = none := by
      cases depth
      · rw [operand]
      · simp [operand, startsQuoted, name?, isNameChar, Name.isName]
    rw [value, none]

/-- No brace is opened if too many brackets are open. -/
theorem braces_deep (deep : ¬ level < deepest) : braces (depth + 1) level s = none := by
  cases s with
  | nil => rw [braces]
  | cons c s => rw [braces, if_pos (Nat.not_lt.1 deep)]

/-- The first entry of a dictionary is read like the others, if a colon follows what is read
first. -/
theorem braces_eq_entries (open' : level < deepest)
    (keyed : ∀ first rest, value depth (level + 1) (blanks true s) = some (first, rest) →
      ∃ more, blanks true rest = ':' :: more) :
    braces (depth + 1) level (blanks true s) =
      (entries (depth + 1) (level + 1) s).map fun read =>
        (.dict (Entries.ofList read.1), read.2) := by
  rw [entries]
  cases shape : blanks true s with
  | nil => rw [braces]; rfl
  | cons c tail =>
    rw [shape] at keyed
    rw [braces, if_neg (Nat.not_le.2 open')]
    dsimp only
    split_ifs
    · rfl
    · cases first : value depth (level + 1) (c :: tail) with
      | none => rfl
      | some read =>
        obtain ⟨more, colon⟩ := keyed read.1 read.2 first
        dsimp only
        rw [colon]
        rfl

end Steps

end DebugScopes.Reader
