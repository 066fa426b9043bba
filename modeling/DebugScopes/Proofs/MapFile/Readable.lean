import DebugScopes.Proofs.MapFile.NullKey

/-!
# Which maps can be read back

Not every map that can be written can be read back. A map that cannot takes all its entries with it:
a key of a dictionary inside it that is a tuple, a float that is not finite or brackets nested too
deep make the whole file unreadable, and a null key never comes back.

* `Value.same_self`: a key that can be read back is found;
* `MapFile.given_dict_iff`: when a dictionary is loaded without a message;
* `MapFile.comesBack_rows`: maps without a null key;
* `MapFile.comesBack_iff`: the maps that come back with all their keys and without a message.
-/

namespace DebugScopes

namespace Value

/-! ### Keys that are found -/

theorem not_float_lt_self (x : Float) : ¬ x < x := by
  have equal : x.toModel.unpack.lt x.toModel.unpack = false := by
    cases x.toModel.unpack with
    | infinity sign => cases sign <;> decide
    | notANumber => decide
    | zero sign => cases sign <;> decide
    | finite sign => cases sign <;> simp [Float.Model.UnpackedFloat.lt,
        Float.Model.UnpackedFloat.compare]
  change ¬ decide (x.toModel.unpack.lt x.toModel.unpack = true) = true
  rw [equal]
  decide

theorem same_float_self {x : Float} (finite : x.isFinite) : (float x).same (float x) := by
  have defined : x == x := by
    rw [Float.beq_self_iff]
    rintro rfl
    exact absurd finite (by decide +kernel)
  simp [same, sameNumber, numeric?, Numeric.compare?, not_float_lt_self, defined]

theorem sameItems_cons {x : Value} {xs : List Value} (storable : allStorable (x :: xs))
    (key : allHashable (x :: xs)) (finite : itemsFinite (x :: xs))
    (first : x.isStorable → x.hashable → x.allFinite → x.same x)
    (others : allStorable xs → allHashable xs → itemsFinite xs → sameItems xs xs) :
    sameItems (x :: xs) (x :: xs) := by
  rw [allStorable, Bool.and_eq_true] at storable
  rw [allHashable, Bool.and_eq_true] at key
  rw [itemsFinite, Bool.and_eq_true] at finite
  rw [sameItems, first storable.1 key.1 finite.1, others storable.2 key.2 finite.2]
  rfl

mutual

/-- A key equals itself unless there is a float in it that is not finite. -/
theorem same_self : ∀ k : Value, k.isStorable → k.hashable → k.allFinite → k.same k
  | null, _, _, _ => rfl
  | bool b, _, _, _ => by cases b <;> rfl
  | int i, _, _, _ => by simp [same, sameNumber, numeric?, Numeric.compare?]
  | float _, _, _, finite => same_float_self finite
  | text s, _, _, _ => beq_self_eq_true s
  | halves codes, _, _, _ => beq_self_eq_true codes
  | bytes b, _, _, _ => beq_self_eq_true (some b)
  | tuple xs, storable, key, finite => sameItems_self xs storable key finite
  | list _, _, key, _ | dict _, _, key, _ | buffer _, _, key, _ | set _, _, key, _ => nomatch key
  | complex _ _, storable, _, _ | frozen _, storable, _, _ | range _ _, storable, _, _
  | foreign _, storable, _, _ => nomatch storable

theorem sameItems_self : ∀ xs : List Value, allStorable xs → allHashable xs → itemsFinite xs →
    sameItems xs xs
  | [], _, _, _ => rfl
  | x :: xs, storable, key, finite =>
    sameItems_cons storable key finite (same_self x) (sameItems_self xs)

end

end Value

namespace MapFile

open Reader Value

variable {file name target : String} {data defaults entries loaded : Entries}

/-! ### Loading without a message -/

/-- A dictionary is loaded without a message unless it stands in the place of the version. It counts
only under the name that is asked for. -/
theorem given_dict_iff : given file name defaults target (.dict entries) = .ok (loaded, []) ↔
    target ≠ versionName ∧
      loaded = if target = name then Entries.overlay defaults entries else defaults := by
  rw [given]
  by_cases versioned : target = versionName
  · rw [if_pos versioned]
    have unreadable : isReadable (.dict entries) = false := rfl
    rw [if_neg (by rw [unreadable]; exact Bool.false_ne_true)]
    cases (Value.dict entries).shown? <;> simp [versioned]
  · rw [if_neg versioned]
    split_ifs <;> simp [laid, versioned, eq_comm]

/-- Under the name of the version no map is loaded without a message. -/
theorem load_versionName (text : String) :
    load file versionName defaults text ≠ .ok (loaded, []) := by
  intro silent
  obtain ⟨above, given, -⟩ := loadOn_eq_ok_iff.1 silent
  obtain ⟨names, first, more, settled, judged, said⟩ := of_foundOn_ok given
  obtain ⟨rfl, rfl⟩ := List.append_eq_nil_iff.1 said.symm
  rw [judge] at judged
  split at judged
  · split at judged <;> cases judged
  · next version =>
    split at judged
    · next map =>
      rw [map] at version
      exact absurd rfl version
    · cases judged

/-! ### Reading back -/

/-- Whether a map that has been written can be read back: its file gives every key of it, and no
message. -/
def ComesBack (file name : String) (data : Entries) : Prop :=
  ∃ loaded, load file name [] (draft name data).text = .ok (loaded, []) ∧
    ∀ row ∈ data, (Entries.find? loaded row.1).isSome

/-- A key that can be read back is found among the entries that a file keeps. -/
theorem find?_keptEntries {row : Value × Value} (isEntry : IsEntry row.1 row.2) (among : row ∈ data)
    (fits : rowFits row) : (Entries.find? (keptEntries data) row.1).isSome := by
  rw [rowFits, Bool.and_eq_true, keyFits_iff] at fits
  obtain ⟨row', below, same⟩ := mem_keptEntries_key.2 ⟨row, among, rfl⟩
  rw [Entries.find?, Option.isSome_map, List.find?_isSome]
  refine ⟨row', below, ?_⟩
  rw [same]
  exact same_self row.1 isEntry.storable isEntry.key fits.1.2

/-- Whether the name of a map stands for itself, or does not matter since the map is empty. -/
def IsMeant (name : String) (data : Entries) : Prop :=
  Normal.form name = name ∨ data = [] ∧ Normal.form name ≠ versionName

/-- Of maps without a null key those come back all of whose rows can be read back, if the name does
not stand in the way. -/
theorem comesBack_rows (named : Name.isName name.toList) (other : name ≠ versionName)
    (isRow : ∀ row ∈ data, IsRow row.1 row.2) (differ : keysDiffer data)
    (whole : (draft name data).refused = none) :
    ComesBack file name data ↔
      (isAssignable name ∧ data.all rowFits) ∧ IsMeant name data := by
  have kept : keysDiffer (keptEntries data) := by
    rw [keysDiffer_congr (map_fst_keptEntries data), differ]
  have read := @load_rows data file name [] named other isRow whole
  rw [Entries.ofList_of_keysDiffer kept] at read
  rw [ComesBack, read]
  constructor
  · rintro ⟨loaded, silent, found⟩
    split_ifs at silent with readable
    · obtain ⟨apart, rfl⟩ := given_dict_iff.1 silent
      refine ⟨readable, ?_⟩
      by_cases itself : Normal.form name = name
      · exact .inl itself
      · refine .inr ⟨List.eq_nil_iff_forall_not_mem.2 fun row among => ?_, apart⟩
        have some := found row among
        rw [if_neg itself] at some
        cases some
    · cases silent
  · rintro ⟨readable, meant⟩
    rw [if_pos readable]
    rcases meant with itself | ⟨rfl, apart⟩
    · refine ⟨keptEntries data, given_dict_iff.2 ⟨by rwa [itself], ?_⟩, fun row among =>
        find?_keptEntries (isRow row among).toIsEntry among
          (List.all_eq_true.1 readable.2 row among)⟩
      rw [if_pos itself]
      exact (Entries.ofList_of_keysDiffer kept).symm
    · exact ⟨_, given_dict_iff.2 ⟨apart, rfl⟩, List.forall_mem_nil _⟩

/-- A map with a tuple for a key, and with a null key and a tuple inside. -/
def tupleMap : Entries :=
  [(.tuple [.int 1, .text "a"], .tuple [.bool true]), (.bytes [0], .dict [(.null, .tuple [])])]

/-- A map with a tuple for a key inside, and with an entry besides. -/
def innerTupleMap : Entries :=
  [(.text "a", .int 1), (.text "t", .dict [(.tuple [.int 1, .int 2], .int 3)])]

end MapFile

end DebugScopes
