import DebugScopes.Proofs.Abbreviation.Reading
import DebugScopes.Proofs.Assembly.Program

/-!
# Assembled abbreviation tables

A row of a table is written as the scan and the decoder expect a declaration to be, so the rows are
scanned one by one, and each of them is read again.

* `scan_table`: the index of an assembled table;
* `declares_table`: it declares every row;
* `duplicates_table`: no code is declared twice.
-/

namespace DebugScopes

namespace Assembly

open Abbreviation Abbreviation.Index

variable {s : Segment} {pos : Nat} {row : Row} {rows : List Row}

/-! ### One row -/

/-- The declaration that a row is written as. -/
def Row.written (row : Row) (valid : row.Valid) : Written where
  code := UInt8.ofNat row.code
  tag := UInt8.ofNat row.tag
  children := if row.hasChildren then 1 else 0
  attributes := row.attributes
  code_ne := by
    intro zero
    have value := congrArg UInt8.toNat zero
    rw [UInt8.toNat_ofNat', Nat.mod_eq_of_lt valid.code] at value
    exact valid.positive value
  attributes_ne := valid.attributes

theorem Row.declaration_written (valid : row.Valid) :
    (row.written valid).declaration = row.toDeclaration := by
  have tag : (UInt8.ofNat row.tag).toNat = row.tag := by
    rw [UInt8.toNat_ofNat', Nat.mod_eq_of_lt valid.tag]
  have flag : ((row.written valid).children != 0) = row.hasChildren := by
    show ((if row.hasChildren then 1 else 0 : UInt8) != 0) = _
    cases row.hasChildren <;> rfl
  show Declaration.mk (UInt8.ofNat row.tag).toNat _ row.attributes = _
  rw [tag, flag]

/-- The declaration of a row is read. -/
theorem Row.read (valid : row.Valid) (held : s.Holds pos row.bytes) :
    ∃ after, Declaration.read s pos = .ok row.toDeclaration after := by
  rw [← Row.declaration_written valid]
  exact ⟨_, (row.written valid).read_of_holds held⟩

/-- A row is scanned. -/
theorem Row.scan (valid : row.Valid) (held : s.Holds pos row.bytes) :
    scanOne s pos = .ok row.code ((pos + row.bytes.length : Nat) : Int) := by
  have scanned := scanOne_of_holds (row.written valid).extent held
  have code : (row.written valid).extent.code.toNat = row.code := by
    show (UInt8.ofNat row.code).toNat = _
    rw [UInt8.toNat_ofNat', Nat.mod_eq_of_lt valid.code]
  rw [code] at scanned
  exact scanned

/-! ### All rows -/

/-- The abbreviations of rows that start at a position. -/
def abbreviationsFrom (pos : Nat) : List Row → List Abbreviation
  | [] => []
  | row :: rest => ⟨row.code, pos, none⟩ :: abbreviationsFrom (pos + row.bytes.length) rest

theorem codes_abbreviationsFrom (pos : Nat) (rows : List Row) :
    (abbreviationsFrom pos rows).map (·.code) = rows.map (·.code) := by
  induction rows generalizing pos with
  | nil => rfl
  | cons row rest ih => rw [abbreviationsFrom, List.map_cons, ih, List.map_cons]

theorem scanFrom_table (valid : ∀ row ∈ rows, row.Valid) (held : s.Holds pos (tableBytes rows)) :
    ∃ after, scanFrom s pos = .ok (abbreviationsFrom pos rows) after := by
  unfold tableBytes at held
  induction rows generalizing pos with
  | nil =>
    rw [scanFrom_eq, scanOne_of_zero held]
    exact ⟨_, rfl⟩
  | cons row rest ih =>
    rw [List.flatMap_cons, List.append_assoc] at held
    obtain ⟨first, others⟩ := Segment.holds_append.1 held
    obtain ⟨after, scanned⟩ := ih (fun other mem => valid other (List.mem_cons_of_mem _ mem)) others
    have positive := (valid row List.mem_cons_self).positive
    rw [scanFrom_eq, Row.scan (valid row List.mem_cons_self) first]
    show ∃ after, (if row.code = 0 then _ else _) = _
    rw [if_neg positive, scanned]
    exact ⟨after, rfl⟩

/-- An assembled table is scanned. -/
theorem scan_table (valid : ∀ row ∈ rows, row.Valid) (held : s.Holds pos (tableBytes rows)) :
    ∃ stop, scan s pos = .ok ⟨(abbreviationsFrom pos rows).toArray, stop⟩ := by
  obtain ⟨stop, scanned⟩ := scanFrom_table valid held
  refine ⟨stop, ?_⟩
  rw [scan, scanned]

/-- Where a row of the table stands. -/
theorem abbreviationsFrom_append (pos : Nat) (front back : List Row) :
    abbreviationsFrom pos (front ++ back) =
      abbreviationsFrom pos front ++
        abbreviationsFrom (pos + (front.flatMap (·.bytes)).length) back := by
  induction front generalizing pos with
  | nil => rfl
  | cons row rest ih =>
    rw [List.cons_append, abbreviationsFrom, ih, abbreviationsFrom, List.cons_append,
      List.flatMap_cons, List.length_append, Nat.add_assoc]

theorem length_abbreviationsFrom (pos : Nat) (rows : List Row) :
    (abbreviationsFrom pos rows).length = rows.length := by
  have lengths := congrArg List.length (codes_abbreviationsFrom pos rows)
  rwa [List.length_map, List.length_map] at lengths

/-- An assembled table declares its rows. -/
theorem declares_table {stop : Int} (valid : ∀ row ∈ rows, row.Valid)
    (distinct : (rows.map (·.code)).Nodup) (held : s.Holds pos (tableBytes rows))
    (mem : row ∈ rows) :
    Declares s ⟨(abbreviationsFrom pos rows).toArray, stop⟩ row.code row.toDeclaration := by
  obtain ⟨front, back, rfl⟩ := List.append_of_mem mem
  let start := pos + (front.flatMap (·.bytes)).length
  have split : tableBytes (front ++ row :: back) =
      front.flatMap (·.bytes) ++ (row.bytes ++ (back.flatMap (·.bytes) ++ [0])) := by
    rw [tableBytes, List.flatMap_append, List.flatMap_cons, List.append_assoc, List.append_assoc]
  rw [split] at held
  have there := (Segment.holds_append.1 (Segment.holds_append.1 held).2).1
  obtain ⟨after, read⟩ := Row.read (valid row mem) there
  refine ⟨front.length, ⟨row.code, start, none⟩, after, ⟨?_, rfl, ?_⟩, read⟩
  · rw [List.getElem?_toArray, abbreviationsFrom_append, List.getElem?_append_right
      (Nat.le_of_eq (length_abbreviationsFrom ..)), length_abbreviationsFrom, Nat.sub_self]
    rfl
  · intro j b before found
    rw [List.getElem?_toArray, abbreviationsFrom_append, List.getElem?_append_left
      (by rwa [length_abbreviationsFrom])] at found
    have inside : b.code ∈ front.map (·.code) := by
      rw [← codes_abbreviationsFrom pos]
      exact List.mem_map_of_mem (List.mem_of_getElem? found)
    rw [List.map_append, List.map_cons] at distinct
    intro same
    have other := (List.nodup_append.1 distinct).2.2 _ inside row.code List.mem_cons_self
    exact other (Int.ofNat.inj same)

/-! ### No code is declared twice -/

theorem duplicatesAfter_of_nodup {seen : List Nat} {table : List Abbreviation}
    (distinct : (table.map (·.code)).Nodup) (unseen : ∀ a ∈ table, a.code ∉ seen) :
    duplicatesAfter seen table = [] := by
  induction table generalizing seen with
  | nil => rfl
  | cons a rest ih =>
    obtain ⟨other, distinct⟩ := List.nodup_cons.1 distinct
    have fresh : ¬ seen.contains a.code := by
      simpa using unseen a List.mem_cons_self
    rw [duplicatesAfter, if_neg fresh]
    apply ih distinct
    intro b mem again
    rcases List.mem_cons.1 again with same | before
    · exact other (List.mem_map.2 ⟨b, mem, same⟩)
    · exact unseen b (List.mem_cons_of_mem _ mem) before

theorem duplicates_table {stop : Int} (distinct : (rows.map (·.code)).Nodup) :
    (⟨(abbreviationsFrom pos rows).toArray, stop⟩ : Abbreviation.Index).duplicates = [] := by
  rw [← codes_abbreviationsFrom pos] at distinct
  exact duplicatesAfter_of_nodup distinct fun _ _ => List.not_mem_nil

end Assembly

end DebugScopes
