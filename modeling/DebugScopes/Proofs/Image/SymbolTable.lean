import DebugScopes.Image.SymbolTable
import Mathlib

/-!
# The laws of the symbol table

In whatever order descriptors come in, the table keeps the first one of every address, by increasing
address. So the slot of an address is the number of the lower addresses that came in, and the two
ways to find a descriptor, by its address and by its slot, undo each other.

* `SymbolTable.inSlot_eq_ok`: what stands in a slot;
* `SymbolTable.find?_ofList`: the descriptor that is kept for an address;
* `SymbolTable.slot?_eq`: the slot of an address;
* `SymbolTable.ofList_toList`: a table is made again of its own descriptors;
* `SymbolTable.laws_ofList`: all of this for any row of descriptors.
-/

namespace DebugScopes

/-- An address has a slot exactly if there is a row for it. -/
theorem Slots.slotOf_eq_ok {α : Type} {t : Slots α} {addr : Int} {slot : Nat} :
    t.slotOf addr = .ok slot ↔ t.slot? addr = some slot := by
  rw [slotOf]
  cases t.slot? addr <;> simp

namespace SymbolTable

variable {t : SymbolTable} {d e : Descriptor} {rows adds : List Descriptor} {i : Nat} {addr : Int}

theorem sorted_toList (t : SymbolTable) : t.toList.Pairwise (·.addr < ·.addr) := t.sorted

/-! ### Slots -/

/-- What stands in a slot. -/
theorem inSlot_eq_ok {slot : Int} :
    t.inSlot slot = .ok d ↔ 0 ≤ slot ∧ t.rows[slot.toNat]? = some d := by
  show t.slots.inSlot slot = _ ↔ _
  unfold Slots.inSlot
  rw [show t.slots.row? slot.toNat = t.rows[slot.toNat]? from rfl]
  by_cases negative : slot < 0
  · simp only [if_pos negative, reduceCtorEq, false_iff, not_and]
    intro positive
    omega
  · rw [if_neg negative]
    cases t.rows[slot.toNat]? with
    | none => simp
    | some row => simp [Int.not_lt.1 negative]

/-- In a slot of a table stands one of its rows, or there is no such slot. -/
theorem inSlot_cases (t : SymbolTable) (slot : Int) :
    (∃ row ∈ t.toList, t.inSlot slot = .ok row) ∨
      t.inSlot slot = .error (.noSlot slot t.size) := by
  unfold inSlot Slots.inSlot
  split
  · exact .inr rfl
  · cases found : t.slots.row? slot.toNat with
    | none => exact .inr rfl
    | some row =>
      have found : t.rows[slot.toNat]? = some row := found
      exact .inl ⟨row, Array.mem_toList_iff.2 (Array.mem_of_getElem? found), rfl⟩

/-- There is a slot for every number below the number of descriptors, and for no other. -/
theorem exists_inSlot_iff {slot : Int} :
    (∃ d, t.inSlot slot = .ok d) ↔ 0 ≤ slot ∧ slot < t.size := by
  constructor
  · rintro ⟨d, found⟩
    obtain ⟨positive, there⟩ := inSlot_eq_ok.1 found
    obtain ⟨inside, -⟩ := Array.getElem?_eq_some_iff.1 there
    refine ⟨positive, ?_⟩
    unfold size
    omega
  · rintro ⟨positive, inside⟩
    have inside : slot.toNat < t.rows.size := by
      unfold size at inside
      omega
    exact ⟨_, inSlot_eq_ok.2 ⟨positive, Array.getElem?_eq_getElem inside⟩⟩

/-- The slot of an address is where its descriptor stands. -/
theorem slot?_of_getElem? (stands : t.rows[i]? = some d) : t.slot? d.addr = some i := by
  obtain ⟨inside, rfl⟩ := Array.getElem?_eq_some_iff.1 stands
  refine Array.findIdx?_eq_some_iff_getElem.2 ⟨inside, beq_self_eq_true _, fun j below => ?_⟩
  have known := Nat.lt_trans below inside
  have less : t.rows[j].addr < t.rows[i].addr :=
    List.pairwise_iff_getElem.1 t.sorted j i known inside below
  rw [beq_iff_eq]
  omega

theorem slot?_of_forall_ne (other : ∀ d ∈ t.toList, d.addr ≠ addr) : t.slot? addr = none := by
  apply Array.findIdx?_eq_none_iff.2
  intro d mem
  simpa using other d (by simpa [toList] using mem)

/-- Of the descriptors by increasing address, as many lie below one as stand in front of it. -/
theorem countP_lt_getElem (sorted : rows.Pairwise (·.addr < ·.addr)) (inside : i < rows.length) :
    rows.countP (·.addr < rows[i].addr) = i := by
  have order := List.pairwise_iff_getElem.1 sorted
  have front : (rows.take i).countP (·.addr < rows[i].addr) = i := by
    rw [List.countP_eq_length.2, List.length_take_of_le inside.le]
    intro d mem
    obtain ⟨j, below, rfl⟩ := List.mem_take_iff_getElem.1 mem
    simpa using order j i _ inside (by omega)
  have behind : (rows.drop i).countP (·.addr < rows[i].addr) = 0 := by
    rw [List.countP_eq_zero]
    intro d mem
    obtain ⟨j, below, rfl⟩ := List.mem_drop_iff_getElem.1 mem
    rcases Nat.eq_zero_or_pos j with rfl | more
    · simp
    · simpa using (order i (i + j) inside _ (by omega)).le
  calc rows.countP (·.addr < rows[i].addr)
      = (rows.take i ++ rows.drop i).countP (·.addr < rows[i].addr) := by
        rw [List.take_append_drop]
    _ = i := by rw [List.countP_append, front, behind, Nat.add_zero]

/-- The slot of an address that has a descriptor is the number of the lower ones. -/
theorem slot?_eq (t : SymbolTable) (addr : Int) :
    t.slot? addr =
      if addr ∈ t.toList.map (·.addr) then some (t.toList.countP (·.addr < addr)) else none := by
  split_ifs with known
  · obtain ⟨d, mem, rfl⟩ := List.mem_map.1 known
    obtain ⟨i, inside, rfl⟩ := List.mem_iff_getElem.1 mem
    rw [countP_lt_getElem t.sorted_toList inside]
    exact slot?_of_getElem? (Array.getElem?_eq_getElem inside)
  · exact slot?_of_forall_ne fun d mem same => known (List.mem_map.2 ⟨d, mem, same⟩)

/-! ### What is kept for an address -/

/-- Among descriptors with different addresses each is the first one of its address. -/
theorem find?_eq_some_iff_mem (distinct : (rows.map (·.addr)).Nodup) :
    rows.find? (·.addr == d.addr) = some d ↔ d ∈ rows := by
  refine ⟨List.mem_of_find?_eq_some, fun mem => ?_⟩
  cases found : rows.find? (·.addr == d.addr) with
  | none => simpa using List.find?_eq_none.1 found d mem
  | some e =>
    have same : e.addr = d.addr := by simpa using List.find?_some found
    rw [List.inj_on_of_nodup_map distinct (List.mem_of_find?_eq_some found) mem same]

/-- The descriptors of a table have different addresses. -/
theorem nodup_addr (t : SymbolTable) : (t.toList.map (·.addr)).Nodup :=
  List.pairwise_map.2 (t.sorted_toList.imp fun below => below.ne)

/-- Putting a descriptor in changes nothing for other addresses. -/
theorem find?_insertRow_of_ne (other : d.addr ≠ addr) :
    (insertRow d rows).find? (·.addr == addr) = rows.find? (·.addr == addr) := by
  induction rows with
  | nil => simp [insertRow, other]
  | cons row rest ih =>
    rw [insertRow]
    split_ifs
    · simp [other]
    · rfl
    · by_cases here : row.addr = addr <;> simp [here, ih]

/-- For its own address it is kept if nothing was there. -/
theorem find?_insertRow_self (sorted : rows.Pairwise (·.addr < ·.addr)) :
    (insertRow d rows).find? (·.addr == d.addr) =
      (rows.find? (·.addr == d.addr)).or (some d) := by
  induction rows with
  | nil => simp [insertRow]
  | cons row rest ih =>
    obtain ⟨above, sorted⟩ := List.pairwise_cons.1 sorted
    rw [insertRow]
    split_ifs with below same
    · have new : (row :: rest).find? (·.addr == d.addr) = none := by
        rw [List.find?_eq_none]
        intro e mem
        have higher : d.addr < e.addr := by
          rcases List.mem_cons.1 mem with rfl | inside
          · exact below
          · exact below.trans (above e inside)
        simpa using higher.ne'
      simp [new]
    · simp [same]
    · simp [Ne.symm same, ih sorted]

theorem find?_foldl_add (t : SymbolTable) (adds : List Descriptor) (addr : Int) :
    (adds.foldl add t).toList.find? (·.addr == addr) =
      (t.toList.find? (·.addr == addr)).or (adds.find? (·.addr == addr)) := by
  induction adds generalizing t with
  | nil => simp
  | cons d rest ih =>
    rw [List.foldl_cons, ih, toList_add]
    by_cases own : d.addr = addr
    · subst own
      simp [find?_insertRow_self t.sorted_toList]
    · simp [find?_insertRow_of_ne own, own]

/-- For an address the first descriptor is kept. -/
theorem find?_ofList (adds : List Descriptor) (addr : Int) :
    (ofList adds).toList.find? (·.addr == addr) = adds.find? (·.addr == addr) :=
  find?_foldl_add empty adds addr

theorem mem_ofList_iff : d ∈ (ofList adds).toList ↔ adds.find? (·.addr == d.addr) = some d := by
  rw [← find?_eq_some_iff_mem (nodup_addr _), find?_ofList]

/-- The addresses of a table are those that have come in. -/
theorem mem_addr_ofList : addr ∈ (ofList adds).toList.map (·.addr) ↔ addr ∈ adds.map (·.addr) := by
  have found : ∀ rows : List Descriptor,
      addr ∈ rows.map (·.addr) ↔ (rows.find? (·.addr == addr)).isSome := by
    intro rows
    simp [List.find?_isSome]
  rw [found, found, find?_ofList]

/-- The lower descriptors of a table are as many as the different lower addresses. -/
theorem countP_ofList (adds : List Descriptor) (addr : Int) :
    (ofList adds).toList.countP (·.addr < addr) =
      ((adds.map (·.addr)).toFinset.filter (· < addr)).card := by
  have same : (adds.map (·.addr)).toFinset = ((ofList adds).toList.map (·.addr)).toFinset := by
    ext a
    rw [List.mem_toFinset, List.mem_toFinset, mem_addr_ofList]
  have distinct := (ofList adds).nodup_addr.filter fun a => decide (a < addr)
  have lower : ((ofList adds).toList.map (·.addr)).toFinset.filter (· < addr) =
      (((ofList adds).toList.map (·.addr)).filter fun a => decide (a < addr)).toFinset := by
    simp [List.toFinset_filter]
  rw [same, lower, List.toFinset_card_of_nodup distinct, List.filter_map, List.length_map,
    List.countP_eq_length_filter]
  rfl

/-! ### Tables made of rows -/

/-- A table is known by its descriptors. -/
theorem ext_mem {t u : SymbolTable} (same : ∀ d, d ∈ t.toList ↔ d ∈ u.toList) : t = u := by
  have irreflexive : Std.Irrefl fun d e : Descriptor => d.addr < e.addr := ⟨fun d => lt_irrefl _⟩
  have antisymmetric : Std.Antisymm fun d e : Descriptor => d.addr < e.addr :=
    ⟨fun d e first second => absurd first second.asymm⟩
  have rows : t.toList = u.toList := t.sorted.eq_of_mem_iff u.sorted same
  obtain ⟨⟨rows⟩, sorted⟩ := t
  obtain ⟨⟨rows'⟩, sorted'⟩ := u
  cases rows
  rfl

/-- Descriptors that come by increasing address are taken in as they come. -/
theorem toList_foldl_add (sorted : (t.toList ++ rows).Pairwise (·.addr < ·.addr)) :
    (rows.foldl add t).toList = t.toList ++ rows := by
  induction rows generalizing t with
  | nil => exact (List.append_nil _).symm
  | cons d rest ih =>
    have above : ∀ row ∈ t.toList, row.addr < d.addr := fun row mem =>
      (List.pairwise_append.1 sorted).2.2 row mem d List.mem_cons_self
    have taken : (t.add d).toList = t.toList ++ [d] :=
      (toList_add t d).trans (insertRow_above above)
    rw [List.foldl_cons, ih (by rw [taken, List.append_assoc]; exact sorted), taken,
      List.append_assoc, List.singleton_append]

theorem toList_ofList (sorted : rows.Pairwise (·.addr < ·.addr)) : (ofList rows).toList = rows :=
  toList_foldl_add (t := empty) sorted

/-- A table is made again of its own descriptors. -/
theorem ofList_toList (t : SymbolTable) : ofList t.toList = t :=
  ext_mem fun d => by rw [toList_ofList t.sorted_toList]

/-- Of descriptors with different addresses the same table is made in whatever order they come. -/
theorem ofList_of_perm {other : List Descriptor} (perm : adds.Perm other)
    (distinct : (adds.map (·.addr)).Nodup) : ofList adds = ofList other := by
  refine ext_mem fun d => ?_
  rw [mem_ofList_iff, mem_ofList_iff, find?_eq_some_iff_mem distinct,
    find?_eq_some_iff_mem ((perm.map _).nodup_iff.1 distinct), perm.mem_iff]

/-! ### All together -/

theorem slotOf_eq_ok : t.slotOf addr = .ok i ↔ t.slot? addr = some i := Slots.slotOf_eq_ok

/-- The slot of an address that came in, which is the number of the lower ones. -/
theorem slotOf_ofList (adds : List Descriptor) (addr : Int) :
    (ofList adds).slotOf addr =
      if addr ∈ adds.map (·.addr) then
        .ok ((adds.map (·.addr)).toFinset.filter (· < addr)).card
      else .error (.noDescriptorAt addr) := by
  have same : (ofList adds).slots.slot? addr = (ofList adds).slot? addr := rfl
  rw [slotOf, Slots.slotOf, same, slot?_eq, countP_ofList]
  simp only [mem_addr_ofList]
  split_ifs <;> rfl

/-- The address of what stands in a slot has that slot. -/
theorem slotOf_of_inSlot {slot : Int} (found : t.inSlot slot = .ok d) :
    ∃ i : Nat, t.slotOf d.addr = .ok i ∧ slot = i := by
  obtain ⟨positive, there⟩ := inSlot_eq_ok.1 found
  exact ⟨slot.toNat, slotOf_eq_ok.2 (slot?_of_getElem? there),
    (Int.toNat_of_nonneg positive).symm⟩

/-- In the slot of an address stands its descriptor. -/
theorem inSlot_of_slotOf (found : t.slotOf addr = .ok i) :
    ∃ d, t.inSlot i = .ok d ∧ d.addr = addr := by
  obtain ⟨inside, same, -⟩ := Array.findIdx?_eq_some_iff_getElem.1 (slotOf_eq_ok.1 found)
  exact ⟨t.rows[i], inSlot_eq_ok.2 ⟨by omega, Array.getElem?_eq_getElem inside⟩,
    by simpa using same⟩

/-- In whatever order descriptors come in, the table holds the first one of every address, by
increasing address. The slot of an address is the number of different lower addresses that came in;
an address that never came in has none. There are as many slots as descriptors. In the slot of an
address stands its descriptor, and the address of what stands in a slot has that slot. The order in
which descriptors with different addresses come in does not matter, and from its own descriptors the
table is made again. -/
theorem laws_ofList (adds : List Descriptor) :
    let t := ofList adds
    t.toList.Pairwise (·.addr < ·.addr) ∧
    (∀ d, d ∈ t.toList ↔ adds.find? (·.addr == d.addr) = some d) ∧
    (∀ addr, t.slotOf addr =
      if addr ∈ adds.map (·.addr) then
        .ok ((adds.map (·.addr)).toFinset.filter (· < addr)).card
      else .error (.noDescriptorAt addr)) ∧
    (∀ slot : Int, if 0 ≤ slot ∧ slot < t.size then ∃ d, t.inSlot slot = .ok d
      else t.inSlot slot = .error (.noSlot slot t.size)) ∧
    (∀ addr i, t.slotOf addr = .ok i → ∃ d, t.inSlot i = .ok d ∧ d.addr = addr) ∧
    (∀ slot d, t.inSlot slot = .ok d → ∃ i : Nat, t.slotOf d.addr = .ok i ∧ slot = i) ∧
    (∀ other, adds.Perm other → (adds.map (·.addr)).Nodup → ofList other = t) ∧
    ofList t.toList = t := by
  intro t
  refine ⟨t.sorted_toList, fun d => mem_ofList_iff, slotOf_ofList adds, fun slot => ?_,
    fun _ _ => inSlot_of_slotOf, fun _ _ => slotOf_of_inSlot,
    fun other perm distinct => (ofList_of_perm perm distinct).symm, ofList_toList t⟩
  split_ifs with inside
  · exact exists_inSlot_iff.2 inside
  · rcases inSlot_cases t slot with ⟨d, -, found⟩ | missing
    · exact absurd (exists_inSlot_iff.1 ⟨d, found⟩) inside
    · exact missing

example : (ofList [⟨4, 1⟩, ⟨0, 2⟩, ⟨4, 8⟩]).toList = [⟨0, 2⟩, ⟨4, 1⟩] := by decide

end SymbolTable

end DebugScopes
