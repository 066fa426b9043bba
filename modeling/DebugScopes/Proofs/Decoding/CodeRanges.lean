import DebugScopes.Proofs.Decoding.Ranges
import DebugScopes.Proofs.Decoding.Readings

/-!
# The ranges of a tree that is built

What is known of every entry by the record of what was read, said of its ranges: which ranges an
entry has, what its lists of ranges count from, and which of them end before they start.

* `ScopeTree.unitAround?` and `ScopeTree.baseOf`: the innermost unit around an entry, and what lists
  of ranges count from in it;
* `exists_readings`: every entry of a tree that is built, with what was read of it;
* `build_closed_ranges`: the ranges of an entry are those that its attributes close, in their order;
* `build_base_of_unit`: lists of ranges count from the innermost unit around the entry;
* `build_inverted_ranges`: which ranges end before they start, since none is refused for it.
-/

namespace DebugScopes

open Abbreviation (Index)

variable {src : Source} {index : Index}

/-! ### The unit around an entry -/

/-- The low bound of the range if it is the only one, and else zero. -/
def CodeRange.onlyLow : List CodeRange → Int
  | [r] => r.low
  | _ => 0

theorem baseBelow_of_unit {d : Description} (unit : d.isUnit) :
    d.baseBelow 0 = CodeRange.onlyLow d.ranges := by
  unfold Description.baseBelow
  rw [if_pos unit]
  rcases d.ranges with _ | ⟨r, _ | _⟩ <;> rfl

namespace ScopeTree

variable {t t' : ScopeTree} {record : Nat → Description} {i : Nat}

/-- The tag of an entry. -/
def tagOf (t : ScopeTree) (i : Nat) : Option Int := (t.get? i).bind (·.tag)

/-- The innermost entry around an entry that is a unit. -/
def unitAround? (t : ScopeTree) (i : Nat) : Option Nat :=
  (t.ancestors i).find? fun u => t.tagOf u = some Dwarf.Tag.compileUnit

/-- What the lists of ranges of an entry count from: the only range that was read of the innermost
unit around it, also if nothing has ended that range, and zero if there is no such unit or it has
several ranges or none. -/
def baseOf (t : ScopeTree) (record : Nat → Description) (i : Nat) : Int :=
  (t.unitAround? i).elim 0 fun u => CodeRange.onlyLow (record u).ranges

theorem Renamed.ancestors (renamed : Renamed t t') (i : Nat) : t'.ancestors i = t.ancestors i := by
  induction i using Nat.strongRecOn with
  | ind i ih =>
    have same := renamed.parentOf i
    cases found : t.parentOf i with
    | none => rw [ancestors_of_none found, ancestors_of_none (same.trans found)]
    | some parent =>
      rw [ancestors_of_parentOf found, ancestors_of_parentOf (same.trans found),
        ih parent (parentOf_lt found)]

theorem Renamed.tagOf (renamed : Renamed t t') (i : Nat) : t'.tagOf i = t.tagOf i := by
  obtain ⟨name, found⟩ := renamed.get? i
  rw [ScopeTree.tagOf, ScopeTree.tagOf, found]
  cases t.get? i <;> rfl

theorem Renamed.baseOf (renamed : Renamed t t') (record : Nat → Description) (i : Nat) :
    t'.baseOf record i = t.baseOf record i := by
  unfold ScopeTree.baseOf unitAround?
  simp only [renamed.ancestors, renamed.tagOf]

end ScopeTree

namespace Recorded

variable {t : ScopeTree} {record : Nat → Description} {i parent : Nat}

/-- The tag of an entry is the one that the record has. -/
theorem tagOf (recorded : Recorded src index t record) (inside : i < t.entries.size) :
    t.tagOf i = (record i).tag := by
  obtain ⟨e, found⟩ := ScopeTree.exists_get? inside
  rw [ScopeTree.tagOf, found]
  rcases Nat.eq_zero_or_pos i with rfl | positive
  · show e.toDescription.tag = _
    rw [recorded.root_blank e found, recorded.root]
  · obtain ⟨_, _, _, _, -, -, -, same⟩ := recorded.entry positive found
    show e.toDescription.tag = _
    rw [same]
    rfl

/-- Among entries of the tree the record and the tree have the same units. -/
theorem baseAmong_ancestors (recorded : Recorded src index t record)
    (inside : i < t.entries.size) :
    ScopeTree.baseAmong record (t.ancestors i) = t.baseOf record i := by
  have units : ∀ u ∈ t.ancestors i,
      (record u).isUnit = decide (t.tagOf u = some Dwarf.Tag.compileUnit) := fun u mem => by
    rw [recorded.tagOf (Nat.lt_trans (ScopeTree.lt_of_mem_ancestors mem) inside)]
    rfl
  unfold ScopeTree.baseAmong ScopeTree.baseOf ScopeTree.unitAround?
  rw [List.find?_congr units]
  cases found : (t.ancestors i).find? fun u => t.tagOf u = some Dwarf.Tag.compileUnit with
  | none => rfl
  | some u =>
    have unit := List.find?_some found
    rw [← units u (List.mem_of_find?_eq_some found)] at unit
    exact baseBelow_of_unit unit

/-- The frame in which an entry is read has the base of the entry. -/
theorem base_frameAt (recorded : Recorded src index t record)
    (found : t.parentOf i = some parent) (inside : i < t.entries.size) :
    (t.frameAt record parent).base = t.baseOf record i := by
  rw [← recorded.baseAmong_ancestors inside, ScopeTree.ancestors_of_parentOf found]
  rfl

end Recorded

/-! ### What was read of an entry -/

/-- What the attributes of the entry at a place say of its code. -/
def Place.marks (src : Source) (place : Place) (base : Int) (d : Declaration) (slot : Nat) :
    List RangeMark :=
  Decode.marks src ⟨place.addr, place.unit, base⟩ d.attributes
    ⟨place.addr + 1, slot, .tagged d.tag⟩

namespace Reading

variable {base : Int} {place : Place} {d : Declaration} {slot : Nat} {about : Description}

theorem ranges_eq (reading : Reading src index base place d slot about) :
    about.ranges = RangeMark.ranges base (place.marks src base d slot) := by
  obtain ⟨pos, last, decoded⟩ := reading.decoded
  exact Decode.ranges_eq decoded

theorem settled_eq (reading : Reading src index base place d slot about) :
    about.settled.ranges = RangeMark.closed base (place.marks src base d slot) := by
  obtain ⟨pos, last, decoded⟩ := reading.decoded
  exact Decode.settled_eq decoded

end Reading

/-- Every entry of a tree that is built stands where its attributes were read, with its lists of
ranges counted from its base, and has the ranges that these close. -/
theorem exists_readings {image : Image} {s s' : Session} {t : ScopeTree}
    (built : Session.build image.decoder s = .ok t s') :
    ∃ index record, Index.scan (image.segment s.settings.order) image.abbrevStart = .ok index ∧
      (∀ e, t.get? 0 = some e → e.ranges = []) ∧
        ∀ {i e}, 0 < i → t.get? i = some e → ∃ place d slot, e.place = some place ∧
          Reading (.of image s.settings.order) index (t.baseOf record i) place d slot (record i) ∧
            e.ranges = RangeMark.closed (t.baseOf record i)
              (place.marks (.of image s.settings.order) (t.baseOf record i) d slot) := by
  obtain ⟨index, before, record, scanned, recorded, renamed⟩ := exists_recorded built
  refine ⟨index, record, scanned, fun e found => ?_, fun {i e} positive found => ?_⟩
  · obtain ⟨old, there, same⟩ := renamed.get?_inv found
    rw [same]
    exact congrArg Description.ranges (recorded.root_blank old there)
  · obtain ⟨old, there, same⟩ := renamed.get?_inv found
    obtain ⟨parent, place, d, slot, hangs, placed, reading, described⟩ :=
      recorded.entry positive there
    have parentOf : before.parentOf i = some parent := by
      rw [ScopeTree.parentOf_eq, there]
      exact hangs
    rw [recorded.base_frameAt parentOf (ScopeTree.lt_size_of_get? there)] at reading
    have ranges : old.toDescription.ranges = (record i).settled.ranges := by
      rw [described]
      rfl
    rw [same, renamed.baseOf]
    exact ⟨place, d, slot, placed, reading, ranges.trans reading.settled_eq⟩

/-! ### Which ranges an entry has -/

/-- Whatever attributes are decoded, no more than one range is open behind each of them, also where
the decoding breaks off. And in every tree that is built no range is open, and each entry has just
the ranges that its attributes close, in their order: one for each low bound that a later bound
ends, where the low bound stands, and the pairs of each list where the list stands. -/
theorem build_closed_ranges (image : Image) :
    (∀ order subject attributes pos slot tag,
      (Decode.left (Decode.decodeAll (.of image order) subject attributes
        ⟨pos, slot, .tagged tag⟩)).about.openCount ≤ 1) ∧
    ∀ {s s' t}, Session.build image.decoder s = .ok t s' →
      (∀ {i e}, t.get? i = some e → ∀ r ∈ e.ranges, r.isOpen = false) ∧
      ∃ index record, Index.scan (image.segment s.settings.order) image.abbrevStart = .ok index ∧
        ∀ {i e}, 0 < i → t.get? i = some e → ∃ place d slot, e.place = some place ∧
          Reading (.of image s.settings.order) index (t.baseOf record i) place d slot (record i) ∧
            e.ranges = RangeMark.closed (t.baseOf record i)
              (place.marks (.of image s.settings.order) (t.baseOf record i) d slot) := by
  refine ⟨fun order subject attributes pos slot tag =>
    Decode.decodeAll_openCount _ subject attributes (Nat.zero_le 1), fun {s s' t} built => ?_⟩
  obtain ⟨index, record, scanned, bare, entries⟩ := exists_readings built
  refine ⟨fun {i e} found r mem => ?_, index, record, scanned, entries⟩
  rcases Nat.eq_zero_or_pos i with rfl | positive
  · rw [bare e found] at mem
    cases mem
  · obtain ⟨place, d, slot, -, -, ranges⟩ := entries positive found
    rw [ranges] at mem
    exact RangeMark.isOpen_closed mem

/-- An image with one unit of which only the start is known. In it there is the method `main`, whose
list of ranges stands between its two bounds, and in the method a block with the same list. -/
def listsImage : Image :=
  .ofParts
    #[0x21, 0, 0, 0, 2, 0, 0, 0, 0, 0, 4,
      1, 0, 1, 0, 0,
      2, 65, 0, 0, 0, 0x10, 0, 0, 0, 70, 0, 0, 0, 8,
      3, 70, 0, 0, 0, 0, 0,
      1, 0x11, 1, 0x11, 1, 0, 0,
      2, 0x2e, 1, 3, 0xe, 0x11, 1, 0x55, 0x17, 0x12, 0xb, 0, 0,
      3, 0x0b, 0, 0x55, 0x17, 0, 0, 0,
      0x6d, 0x61, 0x69, 0x6e, 0,
      1, 2, 0, 0]
    (.ofList [⟨12, 4⟩, ⟨17, 4⟩, ⟨21, 4⟩, ⟨25, 4⟩, ⟨29, 1⟩, ⟨31, 4⟩, ⟨70, 1⟩, ⟨71, 1⟩, ⟨72, 1⟩,
      ⟨73, 1⟩])
    0 37 none

/-- The unit of this image has lost its range, the method has two and the block one. -/
theorem exists_build_lists : ∃ t s',
    Session.build listsImage.decoder (.blank true .empty) = .ok t s' ∧
      (t.unitAround? 3, [1, 2, 3].map t.get?) = (some 1, [
        some ⟨⟨some 0x11, none, [], none⟩, some ⟨11, 0, 1⟩, some 0, #[2]⟩,
        some ⟨⟨some 0x2e, some "main", [⟨0x10, some 0x18⟩, ⟨0x101, some 0x102⟩], none⟩,
          some ⟨16, 0, 2⟩, some 1, #[3]⟩,
        some ⟨⟨some 0x0b, none, [⟨0x101, some 0x102⟩], none⟩, some ⟨30, 0, 3⟩, some 2, #[]⟩]) := by
  refine exists_ok_of ?_
  decide +kernel

/-- The method of this image has the two ranges that its attributes close. -/
theorem build_closed_ranges_lists : ∃ t s' e place d slot index record,
    Session.build listsImage.decoder (.blank true .empty) = .ok t s' ∧ t.get? 2 = some e ∧
      e.ranges = [⟨0x10, some 0x18⟩, ⟨0x101, some 0x102⟩] ∧
        Index.scan (listsImage.segment (.ok .little)) 37 = .ok index ∧ e.place = some place ∧
          Reading (.of listsImage (.ok .little)) index (t.baseOf record 2) place d slot (record 2) ∧
            e.ranges = RangeMark.closed (t.baseOf record 2)
              (place.marks (.of listsImage (.ok .little)) (t.baseOf record 2) d slot) := by
  obtain ⟨t, s', built, found⟩ := exists_build_lists
  simp only [Prod.mk.injEq, List.map_cons, List.map_nil, List.cons.injEq, and_true] at found
  obtain ⟨-, -, method, -⟩ := found
  obtain ⟨-, index, record, scanned, read⟩ := (build_closed_ranges listsImage).2 built
  obtain ⟨place, d, slot, placed, reading, ranges⟩ := read (by decide) method
  exact ⟨t, s', _, place, d, slot, index, record, built, method, rfl, scanned, placed, reading,
    ranges⟩

/-! ### What lists of ranges count from -/

theorem RangeMark.shifted_infix_closed {base : Int} {marks : List RangeMark}
    {pairs : List (Nat × Nat)} (mem : .list pairs ∈ marks) :
    pairs.map (shifted base) <:+: closed base marks := by
  induction marks with
  | nil => cases mem
  | cons m rest ih =>
    rcases List.mem_cons.1 mem with rfl | later
    · exact (List.prefix_append _ _).isInfix
    · have inner := ih later
      cases m with
      | low n => exact List.infix_append_of_infix_right inner
      | high form n => exact inner
      | list others => exact List.infix_append_of_infix_right inner

/-- In every tree that is built, the pairs of each list of ranges count from the only range that was
read of the innermost unit around the entry, also if nothing has ended that range; they count from
zero if that unit has several ranges or none, or there is none around the entry. -/
theorem build_base_of_unit {image : Image} {s s' : Session} {t : ScopeTree}
    (built : Session.build image.decoder s = .ok t s') :
    ∃ index, ∃ record : Nat → Description,
      Index.scan (image.segment s.settings.order) image.abbrevStart = .ok index ∧
      ∀ {i e}, 0 < i → t.get? i = some e → ∃ place d slot marks base, e.place = some place ∧
        Reading (.of image s.settings.order) index base place d slot (record i) ∧
          marks = place.marks (.of image s.settings.order) base d slot ∧
            (base = match t.unitAround? i with
              | some u => CodeRange.onlyLow (record u).ranges
              | none => 0) ∧
            (record i).ranges = RangeMark.ranges base marks ∧
              e.ranges = RangeMark.closed base marks ∧
                ∀ pairs, .list pairs ∈ marks →
                  pairs.map (RangeMark.shifted base) <:+: e.ranges := by
  obtain ⟨index, record, scanned, -, entries⟩ := exists_readings built
  refine ⟨index, record, scanned, fun {i e} positive found => ?_⟩
  obtain ⟨place, d, slot, placed, reading, ranges⟩ := entries positive found
  refine ⟨place, d, slot, _, _, placed, reading, rfl, ?_, reading.ranges_eq, ranges,
    fun pairs mem => ranges ▸ RangeMark.shifted_infix_closed mem⟩
  unfold ScopeTree.baseOf
  cases t.unitAround? i <;> rfl

/-- The list of the block of this image counts from the start of the unit, by way of the method. -/
theorem build_base_of_unit_lists : ∃ t s' e place d slot marks base index,
    ∃ record : Nat → Description,
      Session.build listsImage.decoder (.blank true .empty) = .ok t s' ∧ t.get? 3 = some e ∧
        e.ranges = [⟨0x101, some 0x102⟩] ∧ t.unitAround? 3 = some 1 ∧
          Index.scan (listsImage.segment (.ok .little)) 37 = .ok index ∧ e.place = some place ∧
            Reading (.of listsImage (.ok .little)) index base place d slot (record 3) ∧
              marks = place.marks (.of listsImage (.ok .little)) base d slot ∧
                base = CodeRange.onlyLow (record 1).ranges ∧
                  e.ranges = RangeMark.closed base marks := by
  obtain ⟨t, s', built, found⟩ := exists_build_lists
  simp only [Prod.mk.injEq, List.map_cons, List.map_nil, List.cons.injEq, and_true] at found
  obtain ⟨around, -, -, block⟩ := found
  obtain ⟨index, record, scanned, read⟩ := build_base_of_unit built
  obtain ⟨place, d, slot, marks, base, placed, reading, said, counted, -, ranges, -⟩ :=
    read (by decide) block
  rw [around] at counted
  exact ⟨t, s', _, place, d, slot, marks, base, index, record, built, block, rfl, around, scanned,
    placed, reading, said, counted, ranges⟩

/-! ### Ranges that end before they start -/

/-- In every tree that is built, an entry has a range that ends before it starts exactly if its
attributes make one: an address below the low bound that it ends, or a pair whose second number is
the smaller one. None is refused for it: an attribute that says where code lies is decoded if it can
be read, unless it starts a range while one is open or ends one while none is. -/
theorem build_inverted_ranges (image : Image) :
    (∀ {order subject attr form w m ranges},
      (Source.of image order).mark? attr form w.pos = some m →
        m.added subject.base w.about = some ranges →
          ∃ w', Decode.decode (.of image order) subject attr form w = .ok () w' ∧
            w'.about.ranges = ranges) ∧
    ∀ {s s' t}, Session.build image.decoder s = .ok t s' →
      ∃ index record, Index.scan (image.segment s.settings.order) image.abbrevStart = .ok index ∧
        ∀ {i e}, 0 < i → t.get? i = some e → ∃ place d slot, e.place = some place ∧
          Reading (.of image s.settings.order) index (t.baseOf record i) place d slot (record i) ∧
            ((∃ r ∈ e.ranges, r.Inverted) ↔ RangeMark.Inverts
              (place.marks (.of image s.settings.order) (t.baseOf record i) d slot)) := by
  refine ⟨fun {order subject attr form w m ranges} read taken => ?_, fun {s s' t} built => ?_⟩
  · obtain ⟨width, known⟩ := Decode.exists_width_of_mark? read
    exact ⟨_, (Decode.decode_eq_ok_of_marksCode (Decode.marksCode_of_mark? read)).2
      ⟨m, ranges, width, read, taken, known, rfl⟩, rfl⟩
  · obtain ⟨index, record, scanned, -, entries⟩ := exists_readings built
    refine ⟨index, record, scanned, fun {i e} positive found => ?_⟩
    obtain ⟨place, d, slot, placed, reading, ranges⟩ := entries positive found
    refine ⟨place, d, slot, placed, reading, ?_⟩
    rw [ranges]
    exact RangeMark.exists_inverted_iff ..

/-- An image with one unit, which holds the method `main`. The method starts at 16 and ends at 8. -/
def invertedImage : Image :=
  .ofParts
    #[0x16, 0, 0, 0, 2, 0, 0, 0, 0, 0, 4,
      1, 2, 43, 0, 0, 0, 0x10, 0, 0, 0, 8, 0, 0, 0, 0,
      1, 0x11, 1, 0, 0, 2, 0x2e, 0, 3, 0xe, 0x11, 1, 0x12, 1, 0, 0, 0,
      0x6d, 0x61, 0x69, 0x6e, 0]
    (.ofList [⟨12, 1⟩, ⟨13, 4⟩, ⟨17, 4⟩, ⟨21, 4⟩]) 0 26 none

theorem exists_build_inverted : ∃ t s',
    Session.build invertedImage.decoder (.blank true .empty) = .ok t s' ∧
      t.get? 2 = some ⟨⟨some 0x2e, some "main", [⟨0x10, some 8⟩], none⟩, some ⟨12, 0, 2⟩, some 1,
        #[]⟩ := by
  refine exists_ok_of ?_
  decide +kernel

/-- The tree of this image is built, with a range that ends before it starts. -/
theorem inverted_not_refused :
    ∃ t s' e, Session.build invertedImage.decoder (.blank true .empty) = .ok t s' ∧
      t.get? 2 = some e ∧ ∃ r ∈ e.ranges, ∃ high, r.high = some high ∧ ¬ r.low ≤ high := by
  obtain ⟨t, s', built, found⟩ := exists_build_inverted
  exact ⟨t, s', _, built, found, ⟨0x10, some 8⟩, List.mem_singleton_self _, 8, rfl, by decide⟩

/-- The marks of its method make that range. -/
theorem build_inverted_ranges_method : ∃ t s' e place d slot index record,
    Session.build invertedImage.decoder (.blank true .empty) = .ok t s' ∧ t.get? 2 = some e ∧
      Index.scan (invertedImage.segment (.ok .little)) 26 = .ok index ∧ e.place = some place ∧
        Reading (.of invertedImage (.ok .little)) index (t.baseOf record 2) place d slot
          (record 2) ∧
          RangeMark.Inverts
            (place.marks (.of invertedImage (.ok .little)) (t.baseOf record 2) d slot) := by
  obtain ⟨t, s', built, found⟩ := exists_build_inverted
  obtain ⟨index, record, scanned, read⟩ := (build_inverted_ranges invertedImage).2 built
  obtain ⟨place, d, slot, placed, reading, inverted⟩ := read (by decide) found
  have below : (⟨0x10, some 8⟩ : CodeRange).Inverted := ⟨8, rfl, by decide⟩
  exact ⟨t, s', _, place, d, slot, index, record, built, found, scanned, placed, reading,
    inverted.1 ⟨_, List.mem_singleton_self _, below⟩⟩

end DebugScopes
