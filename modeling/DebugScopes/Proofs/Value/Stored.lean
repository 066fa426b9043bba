import DebugScopes.Proofs.Value.Atoms

/-!
# What a file keeps of a value

A value that is written to a file and read back is the same value up to two kinds: a tuple has
become a list, and a buffer a byte string. Not every value can be read back: brackets may not be
nested too deep, a float has to be finite, and a key may not turn into a list.

* `Value.sound`: what holds of every value that can come up;
* `Value.kept`: what a value has become;
* `Value.nesting`, `Value.allFinite`, `Value.tupleFree`: what decides whether it can be read back;
* `Value.fits`: whether a value can, inside so many brackets.
-/

namespace DebugScopes

namespace Value

/-! ### What comes up -/

/-- Whether no key equals one behind it. -/
def keysDiffer : List (Value × Value) → Bool
  | [] => true
  | (k, _) :: rest => rest.all (fun row => !k.same row.1) && keysDiffer rest

mutual

/-- Whether a value can come up. A text is given by its codes only if one of them is no character,
and the keys of a dictionary cannot change and can be told apart. -/
def sound : Value → Bool
  | halves codes => codes.all (· < Quoted.codeCount) && !codes.all (·.isValidChar)
  | list xs | tuple xs => allSound xs
  | dict entries => keysDiffer entries && entriesSound entries
  | _ => true

/-- Whether all items can come up. -/
def allSound : List Value → Bool
  | [] => true
  | x :: xs => sound x && allSound xs

/-- Whether all keys and values can come up, and the keys as keys. -/
def entriesSound : List (Value × Value) → Bool
  | [] => true
  | (k, v) :: rest => k.hashable && sound k && sound v && entriesSound rest

end

mutual

/-- Whether a file can hold values of that kind. -/
def isStorable : Value → Bool
  | null | bool _ | int _ | float _ | text _ | halves _ | bytes _ | buffer _ => true
  | list xs | tuple xs => allStorable xs
  | dict entries => entriesStorable entries
  | _ => false

/-- Whether a file can hold items of these kinds. -/
def allStorable : List Value → Bool
  | [] => true
  | x :: xs => isStorable x && allStorable xs

/-- Whether a file can hold keys and values of these kinds. -/
def entriesStorable : List (Value × Value) → Bool
  | [] => true
  | (k, v) :: rest => isStorable k && isStorable v && entriesStorable rest

end

/-! ### What is kept -/

mutual

/-- What a file keeps of a value: a tuple is a list there, and a buffer is a byte string. -/
def kept : Value → Value
  | buffer b => bytes b
  | list xs | tuple xs => list (keptItems xs)
  | dict entries => dict (keptEntries entries)
  | v => v

/-- What a file keeps of items. -/
def keptItems : List Value → List Value
  | [] => []
  | x :: xs => kept x :: keptItems xs

/-- What a file keeps of the values of a dictionary. The keys stay what they are. -/
def keptEntries : List (Value × Value) → List (Value × Value)
  | [] => []
  | (k, v) :: rest => (k, kept v) :: keptEntries rest

end

mutual

/-- The most brackets that are open at once in a value. -/
def nesting : Value → Nat
  | list xs | tuple xs => nestingOfItems xs + 1
  | dict entries => nestingOfEntries entries + 1
  | _ => 0

/-- The most brackets that are open at once in an item. -/
def nestingOfItems : List Value → Nat
  | [] => 0
  | x :: xs => max (nesting x) (nestingOfItems xs)

/-- The most brackets that are open at once in a key or a value. -/
def nestingOfEntries : List (Value × Value) → Nat
  | [] => 0
  | (k, v) :: rest => max (max (nesting k) (nesting v)) (nestingOfEntries rest)

end

mutual

/-- Whether all floats in a value are finite. -/
def allFinite : Value → Bool
  | float x => x.isFinite
  | list xs | tuple xs => itemsFinite xs
  | dict entries => entriesFinite entries
  | _ => true

/-- Whether all floats in the items are finite. -/
def itemsFinite : List Value → Bool
  | [] => true
  | x :: xs => allFinite x && itemsFinite xs

/-- Whether all floats in the keys and values are finite. -/
def entriesFinite : List (Value × Value) → Bool
  | [] => true
  | (k, v) :: rest => allFinite k && allFinite v && entriesFinite rest

end

/-- Whether a value is a tuple, which a dictionary inside a file can have for a key no longer. -/
def isTuple : Value → Bool
  | tuple _ => true
  | _ => false

mutual

/-- Whether no dictionary in a value has a tuple for a key. -/
def tupleFree : Value → Bool
  | list xs | tuple xs => itemsTupleFree xs
  | dict entries => entriesTupleFree entries
  | _ => true

/-- Whether no dictionary in the items has a tuple for a key. -/
def itemsTupleFree : List Value → Bool
  | [] => true
  | x :: xs => tupleFree x && itemsTupleFree xs

/-- Whether no key is a tuple, and no dictionary in the values has one for a key. -/
def entriesTupleFree : List (Value × Value) → Bool
  | [] => true
  | (k, v) :: rest => !k.isTuple && tupleFree k && tupleFree v && entriesTupleFree rest

end

/-! ### What can be read back -/

/-- Whether a value can be read back with that many brackets open around it. -/
def fits (level : Nat) (v : Value) : Bool :=
  level + v.nesting ≤ Reader.deepest && v.allFinite && v.tupleFree

/-- Whether all items can be read back. -/
def itemsFit (level : Nat) (xs : List Value) : Bool :=
  level + nestingOfItems xs ≤ Reader.deepest && itemsFinite xs && itemsTupleFree xs

/-- Whether all keys and values can be read back. -/
def entriesFit (level : Nat) (entries : List (Value × Value)) : Bool :=
  level + nestingOfEntries entries ≤ Reader.deepest && entriesFinite entries &&
    entriesTupleFree entries

section Fits

variable {level : Nat} {x k v : Value} {xs : List Value} {entries rest : List (Value × Value)}

theorem fits_iff :
    fits level v ↔ level + v.nesting ≤ Reader.deepest ∧ v.allFinite ∧ v.tupleFree := by
  simp [fits, and_assoc]

theorem itemsFit_iff :
    itemsFit level xs ↔
      level + nestingOfItems xs ≤ Reader.deepest ∧ itemsFinite xs ∧ itemsTupleFree xs := by
  simp [itemsFit, and_assoc]

theorem entriesFit_iff :
    entriesFit level entries ↔ level + nestingOfEntries entries ≤ Reader.deepest ∧
      entriesFinite entries ∧ entriesTupleFree entries := by
  simp [entriesFit, and_assoc]

theorem fits_list : fits level (list xs) ↔ itemsFit (level + 1) xs := by
  rw [fits_iff, itemsFit_iff, nesting, allFinite, tupleFree, Nat.add_assoc,
    Nat.add_comm (nestingOfItems xs)]

theorem fits_tuple : fits level (tuple xs) ↔ itemsFit (level + 1) xs := by
  rw [fits_iff, itemsFit_iff, nesting, allFinite, tupleFree, Nat.add_assoc,
    Nat.add_comm (nestingOfItems xs)]

theorem fits_dict : fits level (dict entries) ↔ entriesFit (level + 1) entries := by
  rw [fits_iff, entriesFit_iff, nesting, allFinite, tupleFree, Nat.add_assoc,
    Nat.add_comm (nestingOfEntries entries)]

theorem itemsFit_nil (open' : level ≤ Reader.deepest) : itemsFit level [] :=
  itemsFit_iff.2 ⟨open', rfl, rfl⟩

theorem itemsFit_cons : itemsFit level (x :: xs) ↔ fits level x ∧ itemsFit level xs := by
  rw [itemsFit_iff, itemsFit_iff, fits_iff, nestingOfItems, itemsFinite, itemsTupleFree,
    Bool.and_eq_true, Bool.and_eq_true]
  constructor
  · rintro ⟨room, ⟨finite, rest⟩, free, more⟩
    exact ⟨⟨by omega, finite, free⟩, by omega, rest, more⟩
  · rintro ⟨⟨room, finite, free⟩, more, rest, others⟩
    exact ⟨by omega, ⟨finite, rest⟩, free, others⟩

theorem entriesFit_nil (open' : level ≤ Reader.deepest) : entriesFit level [] :=
  entriesFit_iff.2 ⟨open', rfl, rfl⟩

theorem entriesFit_cons :
    entriesFit level ((k, v) :: rest) ↔
      k.isTuple = false ∧ fits level k ∧ fits level v ∧ entriesFit level rest := by
  rw [entriesFit_iff, entriesFit_iff, fits_iff, fits_iff, nestingOfEntries, entriesFinite,
    entriesTupleFree]
  simp only [Bool.and_eq_true, Bool.not_eq_true']
  constructor
  · rintro ⟨room, ⟨⟨keyFinite, finite⟩, restFinite⟩, ⟨⟨tuple, keyFree⟩, free⟩, restFree⟩
    exact ⟨tuple, ⟨by omega, keyFinite, keyFree⟩, ⟨by omega, finite, free⟩, by omega, restFinite,
      restFree⟩
  · rintro ⟨tuple, ⟨_, keyFinite, keyFree⟩, ⟨_, finite, free⟩, _, restFinite, restFree⟩
    exact ⟨by omega, ⟨⟨keyFinite, finite⟩, restFinite⟩, ⟨⟨tuple, keyFree⟩, free⟩, restFree⟩

end Fits

/-! ### Keys -/

/-- Whether a key that is written as it is can be read back: a tuple stays one. -/
def keyFits (level : Nat) (k : Value) : Bool :=
  level + k.nesting ≤ Reader.deepest && k.allFinite

/-- Whether all items of a key can be read back. -/
def keysFit (level : Nat) (xs : List Value) : Bool :=
  level + nestingOfItems xs ≤ Reader.deepest && itemsFinite xs

section KeyFits

variable {level : Nat} {x k : Value} {xs : List Value}

theorem keyFits_iff : keyFits level k ↔ level + k.nesting ≤ Reader.deepest ∧ k.allFinite := by
  simp [keyFits]

theorem keysFit_iff :
    keysFit level xs ↔ level + nestingOfItems xs ≤ Reader.deepest ∧ itemsFinite xs := by
  simp [keysFit]

theorem keyFits_tuple : keyFits level (tuple xs) ↔ keysFit (level + 1) xs := by
  rw [keyFits_iff, keysFit_iff, nesting, allFinite, Nat.add_assoc,
    Nat.add_comm (nestingOfItems xs)]

theorem keysFit_nil (open' : level ≤ Reader.deepest) : keysFit level [] :=
  keysFit_iff.2 ⟨open', rfl⟩

theorem keysFit_cons : keysFit level (x :: xs) ↔ keyFits level x ∧ keysFit level xs := by
  rw [keysFit_iff, keysFit_iff, keyFits_iff, nestingOfItems, itemsFinite, Bool.and_eq_true]
  constructor
  · rintro ⟨room, finite, rest⟩
    exact ⟨⟨by omega, finite⟩, by omega, rest⟩
  · rintro ⟨⟨room, finite⟩, more, rest⟩
    exact ⟨by omega, finite, rest⟩

end KeyFits

/-- A dictionary can come up if its parts can. -/
theorem entriesSound_iff {entries : List (Value × Value)} : entriesSound entries ↔
    ∀ row ∈ entries, (row.1.hashable ∧ row.1.sound) ∧ row.2.sound := by
  induction entries with
  | nil => exact ⟨fun _ => List.forall_mem_nil _, fun _ => rfl⟩
  | cons first rest ih =>
    rw [entriesSound, Bool.and_eq_true, Bool.and_eq_true, Bool.and_eq_true, ih,
      List.forall_mem_cons]

/-- The parts of a dictionary that can come up can come up. -/
theorem sound_of_mem {entries : List (Value × Value)} (sound : entriesSound entries)
    {row : Value × Value} (among : row ∈ entries) :
    row.1.hashable ∧ row.1.sound ∧ row.2.sound :=
  and_assoc.1 (entriesSound_iff.1 sound row among)

mutual

/-- What a file keeps of a value can be written if the value can. -/
theorem legible_kept : ∀ v : Value, v.kept.legible = v.legible
  | null | bool _ | int _ | float _ | complex _ _ | text _ | halves _ | bytes _ | buffer _ | set _
  | frozen _ | range _ _ | foreign _ => rfl
  | list xs | tuple xs => allLegible_keptItems xs
  | dict entries => entriesLegible_keptEntries entries

theorem allLegible_keptItems : ∀ xs : List Value, allLegible (keptItems xs) = allLegible xs
  | [] => rfl
  | x :: xs => congrArg₂ and (legible_kept x) (allLegible_keptItems xs)

theorem entriesLegible_keptEntries : ∀ entries : List (Value × Value),
    entriesLegible (keptEntries entries) = entriesLegible entries
  | [] => rfl
  | (k, v) :: rest =>
    congrArg₂ and (congrArg (and k.legible) (legible_kept v)) (entriesLegible_keptEntries rest)

end

/-- What has no brackets and may be a key. -/
theorem kept_of_hashable {k : Value} (key : k.hashable) (tuple : k.isTuple = false) :
    k.kept = k := by
  cases k <;> first | rfl | cases key | cases tuple

/-- A key may be a key still, unless it was a tuple. -/
theorem hashable_kept {k : Value} (key : k.hashable) : k.kept.hashable = !k.isTuple := by
  cases k <;> first | rfl | cases key

/-- Whether keys differ is a matter of the keys. -/
theorem keysDiffer_congr {xs ys : List (Value × Value)} (same : xs.map (·.1) = ys.map (·.1)) :
    keysDiffer xs = keysDiffer ys := by
  induction xs generalizing ys with
  | nil =>
    rw [List.map_nil, eq_comm, List.map_eq_nil_iff] at same
    rw [same]
  | cons row xs ih =>
    obtain ⟨other, ys, rfl⟩ := List.exists_cons_of_ne_nil (l := ys) (by rintro rfl; cases same)
    rw [List.map_cons, List.map_cons, List.cons.injEq] at same
    obtain ⟨key, rest⟩ := same
    have among : ∀ rows : List (Value × Value), (rows.all fun row' => !row.1.same row'.1) =
        (rows.map (·.1)).all fun k => !row.1.same k := by simp [Function.comp_def]
    rw [keysDiffer, keysDiffer, ih rest, among, rest, ← key, ← among]

theorem map_fst_keptEntries (entries : List (Value × Value)) :
    (keptEntries entries).map (·.1) = entries.map (·.1) := by
  induction entries with
  | nil => rfl
  | cons row rest ih => rw [keptEntries, List.map_cons, List.map_cons, ih]

theorem mem_keptEntries_key {entries : List (Value × Value)} {k : Value} :
    (∃ row ∈ keptEntries entries, row.1 = k) ↔ ∃ row ∈ entries, row.1 = k := by
  rw [← List.mem_map, ← List.mem_map, map_fst_keptEntries]

end Value

/-! ### Dictionaries whose keys differ -/

namespace Entries

section Rows

variable {entries above : Entries} {k v : Value} {row : Value × Value} {K V : Value → Prop}

/-- A row is there before a key is put in, or it has the value of the key. -/
theorem mem_insert (among : row ∈ insert entries k v) :
    row ∈ entries ∨ row.2 = v ∧ (row.1 = k ∨ ∃ old ∈ entries, old.1 = row.1) := by
  induction entries with
  | nil =>
    cases List.mem_singleton.1 among
    exact .inr ⟨rfl, .inl rfl⟩
  | cons first rest ih =>
    obtain ⟨l, w⟩ := first
    rw [insert] at among
    split_ifs at among
    · rcases List.mem_cons.1 among with rfl | below
      · exact .inr ⟨rfl, .inr ⟨(l, w), List.mem_cons_self, rfl⟩⟩
      · exact .inl (List.mem_cons_of_mem _ below)
    · rcases List.mem_cons.1 among with rfl | below
      · exact .inl List.mem_cons_self
      · rcases ih below with before | ⟨val, same | ⟨old, before, same⟩⟩
        · exact .inl (List.mem_cons_of_mem _ before)
        · exact .inr ⟨val, .inl same⟩
        · exact .inr ⟨val, .inr ⟨old, List.mem_cons_of_mem _ before, same⟩⟩

/-- What holds of the keys and the values of two dictionaries holds of those of one laid over the
other. -/
theorem forall_overlay (all : ∀ row ∈ entries, K row.1 ∧ V row.2)
    (others : ∀ row ∈ above, K row.1 ∧ V row.2) :
    ∀ row ∈ overlay entries above, K row.1 ∧ V row.2 := by
  induction above generalizing entries with
  | nil => exact all
  | cons first rest ih =>
    obtain ⟨⟨key, val⟩, others⟩ := List.forall_mem_cons.1 others
    refine @ih (insert entries first.1 first.2) (fun row among => ?_) others
    rcases mem_insert among with before | ⟨same, new | ⟨old, before, kept⟩⟩
    · exact all row before
    · exact ⟨new ▸ key, same ▸ val⟩
    · exact ⟨kept ▸ (all old before).1, same ▸ val⟩

theorem keysDiffer_insert (differ : Value.keysDiffer entries) :
    Value.keysDiffer (insert entries k v) := by
  induction entries with
  | nil => rfl
  | cons first rest ih =>
    obtain ⟨l, w⟩ := first
    rw [Value.keysDiffer, Bool.and_eq_true, List.all_eq_true] at differ
    obtain ⟨head, differ⟩ := differ
    rw [insert]
    split_ifs with here
    · rw [Value.keysDiffer, Bool.and_eq_true, List.all_eq_true]
      exact ⟨head, differ⟩
    · rw [Value.keysDiffer, Bool.and_eq_true, List.all_eq_true]
      refine ⟨fun row among => ?_, ih differ⟩
      rcases mem_insert among with before | ⟨-, rfl | ⟨old, before, same⟩⟩
      · exact head row before
      · simpa using here
      · rw [← same]
        exact head old before

/-- The keys of a dictionary differ, whatever has been put into it. -/
theorem keysDiffer_overlay (differ : Value.keysDiffer entries) :
    Value.keysDiffer (overlay entries above) := by
  induction above generalizing entries with
  | nil => exact differ
  | cons first rest ih => exact ih (keysDiffer_insert differ)

end Rows

/-- A new key comes last. -/
theorem insert_of_new {entries : Entries} {k v : Value}
    (new : ∀ row ∈ entries, row.1.same k = false) : insert entries k v = entries ++ [(k, v)] := by
  induction entries with
  | nil => rfl
  | cons row rest ih =>
    rw [insert, new row List.mem_cons_self, if_neg Bool.false_ne_true,
      ih fun other among => new other (List.mem_cons_of_mem row among)]
    rfl

/-- Entries with new keys that differ come last, in their order. -/
theorem overlay_of_new {entries rows : Entries} (differ : Value.keysDiffer rows)
    (new : ∀ old ∈ entries, ∀ row ∈ rows, old.1.same row.1 = false) :
    overlay entries rows = entries ++ rows := by
  induction rows generalizing entries with
  | nil => exact (List.append_nil entries).symm
  | cons row rest ih =>
    obtain ⟨k, v⟩ := row
    rw [Value.keysDiffer, Bool.and_eq_true, List.all_eq_true] at differ
    obtain ⟨first, differ⟩ := differ
    rw [overlay, List.foldl_cons,
      insert_of_new fun old among => new old among (k, v) List.mem_cons_self]
    have further := @ih (entries ++ [(k, v)]) differ fun old among row below => by
      rcases List.mem_append.1 among with before | last
      · exact new old before row (List.mem_cons_of_mem (k, v) below)
      · cases List.mem_singleton.1 last
        simpa using first row below
    rw [overlay] at further
    rw [further, List.append_assoc]
    rfl

/-- Entries whose keys differ are a dictionary as they stand. -/
theorem ofList_of_keysDiffer {rows : Entries} (differ : Value.keysDiffer rows) :
    ofList rows = rows :=
  overlay_of_new differ nofun

end Entries

end DebugScopes
