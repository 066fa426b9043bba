import DebugScopes.Abbreviation.Index
import Mathlib

/-!
# Keeping declarations

The index of an abbreviation table keeps the declarations that it has been asked for. Whoever asks
cannot tell: what is kept is what would be read again.

* `Index.Faithful`: an index that stands for a table, whatever it keeps;
* `Index.Faithful.declare_eq_ok`: asking a faithful index for a code gives the first declaration of
  the code, and leaves a faithful index.
-/

namespace DebugScopes

namespace Abbreviation

/-- The abbreviation as the scan notes it. -/
def unread (a : Abbreviation) : Abbreviation := { a with declaration := none }

theorem code_eq_of_unread {a b : Abbreviation} (same : a.unread = b.unread) : a.code = b.code := by
  have codes := congrArg Abbreviation.code same
  exact codes

theorem offset_eq_of_unread {a b : Abbreviation} (same : a.unread = b.unread) :
    a.offset = b.offset := by
  have offsets := congrArg Abbreviation.offset same
  exact offsets

/-- What is kept of a declaration is what stands in the table. -/
def Honest (s : Segment) (a : Abbreviation) : Prop :=
  ∀ d, a.declaration = some d → ∃ after, Declaration.read s a.offset = .ok d after

namespace Index

variable {s : Segment} {index index₀ index' : Index} {code : Int} {d : Declaration}

/-- Reading a declaration again would give what is kept. -/
theorem declareOne_eq {a : Abbreviation} (honest : Honest s a) :
    declareOne s a =
      match Declaration.read s a.offset with
      | .ok d _ => .ok (d, { a with declaration := some d })
      | .error e _ => .error e := by
  unfold declareOne
  cases kept : a.declaration with
  | none => rfl
  | some d =>
    obtain ⟨after, read⟩ := honest d kept
    rw [read]
    simp [← kept]

/-! ### The first declaration of a code -/

/-- The first row of the table for a code is the `i`-th. -/
structure FirstAt (index : Index) (code : Int) (i : Nat) (a : Abbreviation) : Prop where
  row : index.table[i]? = some a
  coded : (a.code : Int) = code
  before : ∀ j b, j < i → index.table[j]? = some b → (b.code : Int) ≠ code

/-- A code is found in the place of its first row. -/
theorem lookup_eq_ok {place : Fin index.table.size} :
    index.lookup code = .ok place ↔ ∃ a, FirstAt index code place a := by
  unfold lookup find?
  constructor
  · intro found
    split at found
    · next place' searched =>
      cases found
      obtain ⟨same, first⟩ := Array.findFinIdx?_eq_some_iff.1 searched
      refine ⟨index.table[place], by simp, by simpa using same, fun j b before row => ?_⟩
      have other := first ⟨j, Nat.lt_trans before place.2⟩ before
      obtain ⟨inside, rfl⟩ := Array.getElem?_eq_some_iff.1 row
      simpa using other
    · cases found
  · rintro ⟨a, row, same, first⟩
    obtain ⟨inside, rfl⟩ := Array.getElem?_eq_some_iff.1 row
    have searched : (index.table.findFinIdx? fun a => (a.code : Int) == code) = some place := by
      refine Array.findFinIdx?_eq_some_iff.2 ⟨by simpa using same, fun j before => ?_⟩
      have other := first j index.table[j] before (by simp)
      simpa using other
    rw [searched]

theorem FirstAt.unique {i j : Nat} {a b : Abbreviation} (one : FirstAt index code i a)
    (other : FirstAt index code j b) : a = b := by
  rcases Nat.lt_trichotomy i j with less | rfl | more
  · exact absurd one.coded (other.before i a less one.row)
  · exact Option.some.inj (one.row.symm.trans other.row)
  · exact absurd other.coded (one.before j b more other.row)

/-- A code is declared, and this is its first declaration. -/
def Declares (s : Segment) (index : Index) (code : Int) (d : Declaration) : Prop :=
  ∃ i a after, FirstAt index code i a ∧ Declaration.read s a.offset = .ok d after

/-- A code has one first declaration. -/
theorem Declares.unique {d' : Declaration} (one : Declares s index code d)
    (other : Declares s index code d') : d = d' := by
  obtain ⟨i, a, after, first, read⟩ := one
  obtain ⟨j, b, after', first', read'⟩ := other
  rw [first.unique first', read'] at read
  injection read with same
  exact same.symm

/-! ### Faithful indices -/

/-- The index stands for a scanned table: it has the same rows, and what it keeps is what stands
there. -/
structure Faithful (s : Segment) (index₀ index : Index) : Prop where
  rows : index.table.map unread = index₀.table.map unread
  honest : ∀ a ∈ index.table, Honest s a

theorem Faithful.row (faithful : Faithful s index₀ index) (i : Nat) :
    index.table[i]?.map unread = index₀.table[i]?.map unread := by
  rw [← Array.getElem?_map, faithful.rows, Array.getElem?_map]

/-- The first row of a code is the same in two tables with the same rows. -/
theorem FirstAt.of_rows {one other : Index} {i : Nat} {a : Abbreviation}
    (rows : ∀ i : Nat, one.table[i]?.map unread = other.table[i]?.map unread)
    (first : FirstAt one code i a) : ∃ b, FirstAt other code i b ∧ unread a = unread b := by
  have row := rows i
  rw [first.row] at row
  obtain ⟨b, there, same⟩ := Option.map_eq_some_iff.1 row.symm
  have code_eq : b.code = a.code := code_eq_of_unread same
  refine ⟨b, ⟨there, by rw [code_eq]; exact first.coded, fun j c before row => ?_⟩, same.symm⟩
  have row' := rows j
  rw [row] at row'
  obtain ⟨c', there', same'⟩ := Option.map_eq_some_iff.1 row'
  have code_eq' : c'.code = c.code := code_eq_of_unread same'
  rw [← code_eq']
  exact first.before j c' before there'

/-- Two tables with the same rows have a code in the same place. -/
theorem lookup_of_rows {one other : Index} {place : Fin one.table.size}
    (rows : ∀ i : Nat, one.table[i]?.map unread = other.table[i]?.map unread)
    (found : one.lookup code = .ok place) :
    ∃ (place' : Fin other.table.size) (a b : Abbreviation), other.lookup code = .ok place' ∧
      one.table[(place : Nat)]? = some a ∧ other.table[(place' : Nat)]? = some b ∧
        unread a = unread b := by
  obtain ⟨a, first⟩ := lookup_eq_ok.1 found
  obtain ⟨b, there, same⟩ := first.of_rows rows
  obtain ⟨inside, -⟩ := Array.getElem?_eq_some_iff.1 there.row
  exact ⟨⟨place, inside⟩, a, b, lookup_eq_ok.2 ⟨b, there⟩, first.row, there.row, same⟩

theorem lookup_eq_error {damage : Damage} (missing : index.lookup code = .error damage) :
    damage = .noAbbreviation code := by
  unfold lookup at missing
  split at missing
  · cases missing
  · cases missing
    rfl

/-- The index with a declaration kept in a place of its table. -/
def keeping (index : Index) (place : Nat) (a : Abbreviation) (d : Declaration) : Index :=
  { index with table := index.table.setIfInBounds place { a with declaration := some d } }

variable {a : Abbreviation}

/-- Keeping a declaration that stands in the table leaves the index faithful. -/
theorem Faithful.keeping (faithful : Faithful s index₀ index) {place : Nat} {after : Int}
    (row : index.table[place]? = some a) (read : Declaration.read s a.offset = .ok d after) :
    Faithful s index₀ (index.keeping place a d) := by
  obtain ⟨inside, rfl⟩ := Array.getElem?_eq_some_iff.1 row
  constructor
  · rw [Index.keeping, Array.map_setIfInBounds, ← faithful.rows]
    refine Array.ext (by simp) fun i _ bound => ?_
    rw [Array.getElem_setIfInBounds bound]
    by_cases same : place = i
    · subst same
      simp [unread]
    · rw [if_neg same]
  · intro b mem
    rcases Array.mem_or_eq_of_mem_setIfInBounds mem with old | rfl
    · exact faithful.honest b old
    · intro d' kept
      cases kept
      exact ⟨after, read⟩

/-- What a faithful index answers is what stands in the table. -/
theorem Faithful.declare_eq (faithful : Faithful s index₀ index) {place : Fin index.table.size}
    (row : index.table[(place : Nat)]? = some a) :
    index.declare s place =
      match Declaration.read s a.offset with
      | .ok d _ => .ok (d, index.keeping place a d)
      | .error e _ => .error e := by
  obtain ⟨inside, rfl⟩ := Array.getElem?_eq_some_iff.1 row
  unfold declare
  rw [Fin.getElem_fin, declareOne_eq (faithful.honest _ (Array.getElem_mem inside))]
  cases Declaration.read s index.table[(place : Nat)].offset with
  | error e after => rfl
  | ok d after =>
    have kept (b : Abbreviation) :
        index.table.setIfInBounds place b = index.table.set place b inside := dif_pos inside
    show _ = Except.ok (d, index.keeping place index.table[(place : Nat)] d)
    unfold Index.keeping
    rw [kept]

/-- Asking a faithful index for a code gives the first declaration of the code, and leaves a
faithful index. -/
theorem Faithful.declare_eq_ok (faithful : Faithful s index₀ index)
    {place : Fin index.table.size} (found : index.lookup code = .ok place)
    (given : index.declare s place = .ok (d, index')) :
    Declares s index₀ code d ∧ Faithful s index₀ index' := by
  obtain ⟨a, there⟩ := lookup_eq_ok.1 found
  rw [faithful.declare_eq there.row] at given
  cases read : Declaration.read s a.offset with
  | error e after =>
    rw [read] at given
    cases given
  | ok d' after =>
    rw [read] at given
    cases given
    obtain ⟨b, first, same⟩ := there.of_rows faithful.row
    exact ⟨⟨place, b, after, first, offset_eq_of_unread same ▸ read⟩,
      faithful.keeping there.row read⟩

/-- A faithful index gives every declaration that the table has. -/
theorem Faithful.exists_declare (faithful : Faithful s index₀ index)
    (declared : Declares s index₀ code d) :
    ∃ place index', index.lookup code = .ok place ∧ index.declare s place = .ok (d, index') ∧
      Faithful s index₀ index' := by
  obtain ⟨i, a, after, first, read⟩ := declared
  obtain ⟨b, there, same⟩ := first.of_rows fun i => (faithful.row i).symm
  rw [offset_eq_of_unread same] at read
  obtain ⟨inside, -⟩ := Array.getElem?_eq_some_iff.1 there.row
  let place : Fin index.table.size := ⟨i, inside⟩
  have found : index.lookup code = .ok place := lookup_eq_ok.2 ⟨b, there⟩
  have given : index.declare s place = _ := faithful.declare_eq there.row
  rw [read] at given
  exact ⟨place, _, found, given, faithful.keeping there.row read⟩

/-! ### The index that a scan makes -/

/-- The index keeps nothing. -/
def Fresh (index : Index) : Prop := ∀ a ∈ index.table, a.declaration = none

theorem scanFrom_unread {pos after : Int} {rows : List Abbreviation}
    (scanned : scanFrom s pos = .ok rows after) : ∀ a ∈ rows, a.declaration = none := by
  fun_induction scanFrom s pos generalizing rows after with
  | case1 => cases scanned
  | case2 => cases scanned; simp
  | case3 => cases scanned
  | case4 pos code between read more rest last found ih =>
    cases scanned
    intro a mem
    rcases List.mem_cons.1 mem with rfl | inside
    · rfl
    · exact ih found a inside

/-- A scanned index keeps nothing. -/
theorem fresh_scan {start : Int} (scanned : scan s start = .ok index) : index.Fresh := by
  unfold scan at scanned
  split at scanned
  · next rows stop found =>
    cases scanned
    exact fun a mem => scanFrom_unread found a (by simpa using mem)
  · cases scanned

/-- A scanned index stands for its table. -/
theorem faithful_scan {start : Int} (scanned : scan s start = .ok index) :
    Faithful s index index := by
  refine ⟨rfl, fun a mem d kept => ?_⟩
  rw [fresh_scan scanned a mem] at kept
  cases kept

end Index

end Abbreviation

end DebugScopes
