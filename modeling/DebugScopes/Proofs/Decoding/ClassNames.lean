import DebugScopes.Proofs.Decoding.CodeRanges
import DebugScopes.Proofs.Decoding.Passing

/-!
# Names of class members

The name that an entry has of its own is the text that the last of its name attributes gives the
address of. The members of a class have the name of the class in front of their own: the one that
the class has of its own, so that of classes inside each other only the innermost is named.

* `Decode.name_decodeAll`: the name of an entry's own is read off its attributes;
* `ScopeTree.Member`: an entry stands in a class, and both have names of their own;
* `build_nameOf_member`: the name that an entry has in a tree that is built.
-/

namespace DebugScopes

open Dwarf
open Abbreviation (Index)

/-! ### The name of an entry's own -/

/-- The text that a name attribute at a position gives the address of. -/
def Source.name? (src : Source) (attr form pos : Int) : Option String :=
  if Attribute.role attr = .name then
    (src.number? form pos).bind fun addr => (src.textAt addr).toOption
  else none

/-- The names that attributes give, one after the other from where the cursors are. -/
def Decode.names (src : Source) (subject : Subject) : List (Nat × Nat) → Work → List String
  | [], _ => []
  | (attr, form) :: rest, w =>
    match decode src subject attr form w with
    | .ok () w' => (src.name? attr form w.pos).toList ++ names src subject rest w'
    | .error _ _ => []

/-- The name of its own that the entry at a place has: the last one that its attributes give. -/
def Place.ownName (src : Source) (place : Place) (base : Int) (d : Declaration) (slot : Nat) :
    Option String :=
  (Decode.names src ⟨place.addr, place.unit, base⟩ d.attributes
    ⟨place.addr + 1, slot, .tagged d.tag⟩).getLast?

namespace Decode

variable {src : Source} {subject : Subject} {attributes : List (Nat × Nat)} {w w' : Work}

/-- Only a name attribute changes the name. -/
theorem name_decode_of_ne {attr form : Int} (other : Attribute.role attr ≠ .name)
    (run : decode src subject attr form w = .ok () w') : w'.about.name = w.about.name := by
  by_cases marks : Attribute.MarksCode attr
  · obtain ⟨_, _, _, -, -, -, rfl⟩ := (decode_eq_ok_of_marksCode marks).1 run
    rfl
  · by_cases refers : Attribute.role attr = .reference
    · obtain ⟨_, -, _, _, -, -, rfl⟩ := (decode_eq_ok_of_reference refers).1 run
      rfl
    · by_cases absent : Attribute.role attr = .absent
      · rw [decode, if_pos absent] at run
        cases run
        rfl
      · have unread : Attribute.role attr = .other := by
          unfold Attribute.MarksCode at marks
          cases role : Attribute.role attr <;> simp_all
        rw [decode_of_other unread] at run
        exact congrArg Description.name (Changes.about (stepOver_silent src attr form w) run)

/-- Behind an attribute the name is the one that it gives, if it gives one. -/
theorem name_decode {attr form : Int} (run : decode src subject attr form w = .ok () w') :
    w'.about.name = (src.name? attr form w.pos).or w.about.name := by
  by_cases role : Attribute.role attr = .name
  · obtain ⟨-, addr, _, name, -, read, found, rfl⟩ := (decode_eq_ok_of_name role).1 run
    simp [Source.name?, role, read, found, Except.toOption]
  · rw [name_decode_of_ne role run, Source.name?, if_neg role]
    rfl

/-- Behind attributes the name is the last one that they give, if they give any. -/
theorem name_decodeAll (run : decodeAll src subject attributes w = .ok () w') :
    w'.about.name = (names src subject attributes w).getLast?.or w.about.name := by
  induction attributes generalizing w with
  | nil =>
    cases run
    rfl
  | cons first rest ih =>
    obtain ⟨attr, form⟩ := first
    obtain ⟨_, between, ran, run⟩ := bind_eq_ok.1 run
    have given : ((src.name? attr form w.pos).toList).getLast? = src.name? attr form w.pos := by
      cases src.name? attr form w.pos <;> rfl
    rw [names, ran]
    rw [List.getLast?_append, given, ih run, name_decode ran, Option.or_assoc]

end Decode

variable {src : Source} {index : Index}

theorem Reading.name_eq {base : Int} {place : Place} {d : Declaration} {slot : Nat}
    {about : Description} (reading : Reading src index base place d slot about) :
    about.name = place.ownName src base d slot := by
  obtain ⟨pos, last, decoded⟩ := reading.decoded
  exact (Decode.name_decodeAll decoded).trans (Option.or_none ..)

/-! ### Members of classes -/

/-- A tag is that of a class. -/
def Dwarf.Tag.IsClassTag (tag : Option Int) : Prop :=
  tag = some classType ∨ tag = some structureType

/-- An entry stands below a class, and both have names of their own that are not empty. -/
structure ScopeTree.Member (t : ScopeTree) (own : Nat → Option String) (parent i : Nat)
    (outer inner : String) : Prop where
  inClass : Tag.IsClassTag (t.tagOf parent)
  outer_own : own parent = some outer
  outer_ne : outer ≠ ""
  inner_own : own i = some inner
  inner_ne : inner ≠ ""

theorem Description.className_eq_some {d : Description} {outer : String} :
    d.className = some outer ↔ Tag.IsClassTag d.tag ∧ d.name = some outer ∧ outer ≠ "" := by
  have named : d.name? = some outer ↔ d.name = some outer ∧ outer ≠ "" := by
    unfold Description.name?
    by_cases blank : d.name = some ""
    · simp only [blank, reduceCtorEq, Option.some.injEq, false_iff, not_and, not_not]
      exact Eq.symm
    · split
      · next same => exact absurd same blank
      · exact ⟨fun same => ⟨same, fun isBlank => blank (isBlank ▸ same)⟩, And.left⟩
  unfold Description.className Tag.IsClassTag
  cases d.tag with
  | none => simp
  | some tag =>
    by_cases isClass : Tag.isClass tag
    · have tags : tag = Tag.classType ∨ tag = Tag.structureType := by
        simpa [Tag.isClass] using isClass
      simp [isClass, tags, named]
    · have tags : ¬ (tag = Tag.classType ∨ tag = Tag.structureType) := by
        simpa [Tag.isClass] using isClass
      simp [isClass, tags]

namespace Frame

variable {frame : Frame} {outer inner : String}

/-- Inside a class a name stands behind that of the class. -/
theorem qualify_of_class (className : frame.className = some outer) (named : inner ≠ "") :
    frame.qualify (some inner) = some (outer ++ "::" ++ inner) := by
  simp [qualify, className, named]

/-- Outside a class, or without a name, there is nothing to put in front. -/
theorem qualify_of_plain {name : Option String}
    (plain : ∀ outer inner, frame.className = some outer → name = some inner → inner = "") :
    frame.qualify name = name := by
  unfold qualify
  split
  · next outer inner className =>
    rw [if_pos (plain outer inner className rfl)]
  · rfl

end Frame

namespace Recorded

variable {t : ScopeTree} {record : Nat → Description} {i parent : Nat} {e : Entry}

/-- An entry is read with its own name, behind that of the class in which it stands. -/
theorem nameOf (recorded : Recorded src index t record) (positive : 0 < i)
    (found : t.get? i = some e) (below : e.parent = some parent) :
    t.nameOf i = (t.frameAt record parent).qualify (record i).name := by
  obtain ⟨_, _, _, _, hangs, -, -, same⟩ := recorded.entry positive found
  rw [below] at hangs
  cases hangs
  rw [ScopeTree.nameOf, found, Option.bind_some, same]
  rfl

/-- The frame of an entry has the name of a class exactly if the entry is one, and has a name. -/
theorem className_frameAt (recorded : Recorded src index t record)
    (inside : parent < t.entries.size) {outer : String} :
    (t.frameAt record parent).className = some outer ↔
      Tag.IsClassTag (t.tagOf parent) ∧ (record parent).name = some outer ∧ outer ≠ "" := by
  rw [recorded.tagOf inside]
  exact Description.className_eq_some

end Recorded

/-! ### Names in a tree that is built -/

/-- In every tree that is built, an entry that refers to no other has its own name, and in a class
that has a name of its own this name in front. It does not matter in which class that one stands. -/
theorem build_nameOf_member {image : Image} {s s' : Session} {t : ScopeTree}
    (built : Session.build image.decoder s = .ok t s') :
    ∃ index, ∃ record : Nat → Description, ∃ own : Nat → Option String,
      Index.scan (image.segment s.settings.order) image.abbrevStart = .ok index ∧
      ∀ {i e}, 0 < i → t.get? i = some e → ∃ parent place d slot,
        e.parent = some parent ∧ e.place = some place ∧
        Reading (.of image s.settings.order) index (t.baseOf record i) place d slot (record i) ∧
        own i = place.ownName (.of image s.settings.order) (t.baseOf record i) d slot ∧
        (e.target = none →
          (∀ outer inner, t.Member own parent i outer inner →
            e.name = some (outer ++ "::" ++ inner)) ∧
          ((∀ outer inner, ¬ t.Member own parent i outer inner) → e.name = own i)) := by
  obtain ⟨index, before, record, scanned, recorded, listed, completed⟩ :=
    exists_recorded_completed built
  have renamed := completed.renamed
  refine ⟨index, record, fun i => (record i).name, scanned, fun {i e} positive found => ?_⟩
  obtain ⟨old, there, same⟩ := renamed.get?_inv found
  obtain ⟨parent, place, d, slot, hangs, placed, reading, -⟩ := recorded.entry positive there
  have inside := ScopeTree.lt_size_of_get? there
  have parentOf : before.parentOf i = some parent := by
    rw [ScopeTree.parentOf_eq, there]
    exact hangs
  have around : parent < before.entries.size := Nat.lt_trans (ScopeTree.parentOf_lt parentOf) inside
  rw [recorded.base_frameAt parentOf inside, ← renamed.baseOf] at reading
  refine ⟨parent, place, d, slot, by rw [same]; exact hangs, by rw [same]; exact placed, reading,
    reading.name_eq, fun alone => ?_⟩
  have kept : e.name = (before.frameAt record parent).qualify (record i).name := by
    have untargeted : before.targetOf i = none := by
      rw [← renamed.targetOf, ScopeTree.targetOf, found]
      exact alone
    have name := completed.kept i ((mem_listing_iff listed).2 ⟨positive, inside⟩)
      fun target wanted => by simp [untargeted] at wanted
    rw [recorded.nameOf positive there hangs, ScopeTree.nameOf, found] at name
    exact name
  constructor
  · rintro outer inner ⟨inClass, outer_own, outer_ne, inner_own, inner_ne⟩
    rw [renamed.tagOf] at inClass
    rw [kept, inner_own]
    exact Frame.qualify_of_class ((recorded.className_frameAt around).2
      ⟨inClass, outer_own, outer_ne⟩) inner_ne
  · intro apart
    rw [kept]
    refine Frame.qualify_of_plain fun outer inner className inner_own => ?_
    obtain ⟨inClass, outer_own, outer_ne⟩ := (recorded.className_frameAt around).1 className
    by_contra inner_ne
    rw [← renamed.tagOf] at inClass
    exact apart outer inner ⟨inClass, outer_own, outer_ne, inner_own, inner_ne⟩

/-- An image with one unit, in which a class stands in a class, and both in turn around a method. A
method of the same name stands behind them. -/
def nestedClassesImage : Image :=
  .ofParts
    #[0x29, 0, 0, 0, 2, 0, 0, 0, 0, 0, 4,
      1, 2, 69, 0, 0, 0, 2, 71, 0, 0, 0, 3, 73, 0, 0, 0, 0x10, 0, 0, 0, 8, 0, 0,
      3, 73, 0, 0, 0, 0x20, 0, 0, 0, 8, 0,
      1, 0x11, 1, 0, 0, 2, 2, 1, 3, 0xe, 0, 0, 3, 0x2e, 0, 3, 0xe, 0x11, 1, 0x12, 0xb, 0, 0, 0,
      0x41, 0, 0x42, 0, 0x6d, 0x61, 0x69, 0x6e, 0]
    (.ofList [⟨12, 1⟩, ⟨13, 4⟩, ⟨17, 1⟩, ⟨18, 4⟩, ⟨22, 1⟩, ⟨23, 4⟩, ⟨27, 4⟩, ⟨31, 1⟩, ⟨32, 1⟩,
      ⟨33, 1⟩, ⟨34, 1⟩, ⟨35, 4⟩, ⟨39, 4⟩, ⟨43, 1⟩, ⟨44, 1⟩])
    0 45 none

/-- Of the classes of this image only the innermost is named in front of the method. -/
theorem build_nameOf_member_nested : ∃ t s' e parent place d slot index record,
    ∃ own : Nat → Option String,
      Session.build nestedClassesImage.decoder (.blank true .empty) = .ok t s' ∧
        t.get? 4 = some e ∧ e.target = none ∧ e.name = some "B::main" ∧
          [1, 2, 3, 5].map t.nameOf = [none, some "A", some "A::B", some "main"] ∧
            Index.scan (nestedClassesImage.segment (.ok .little)) 45 = .ok index ∧
              e.parent = some parent ∧ e.place = some place ∧
                Reading (.of nestedClassesImage (.ok .little)) index (t.baseOf record 4) place d
                  slot (record 4) ∧
                  own 4 = place.ownName (.of nestedClassesImage (.ok .little)) (t.baseOf record 4) d
                    slot ∧
                    (∀ outer inner, t.Member own parent 4 outer inner →
                      e.name = some (outer ++ "::" ++ inner)) ∧
                      ((∀ outer inner, ¬ t.Member own parent 4 outer inner) → e.name = own 4) := by
  have found : ∃ t s', Session.build nestedClassesImage.decoder (.blank true .empty) = .ok t s' ∧
      ((t.get? 4).map fun e => (e.target, e.name), [1, 2, 3, 5].map t.nameOf) =
        (some (none, some "B::main"), [none, some "A", some "A::B", some "main"]) := by
    refine exists_ok_of ?_
    decide +kernel
  obtain ⟨t, s', built, found⟩ := found
  rw [Prod.mk.injEq, Option.map_eq_some_iff] at found
  obtain ⟨⟨e, there, same⟩, names⟩ := found
  obtain ⟨alone, named⟩ := Prod.mk.injEq .. ▸ same
  obtain ⟨index, record, own, scanned, read⟩ := build_nameOf_member built
  obtain ⟨parent, place, d, slot, hangs, placed, reading, is_own, law⟩ := read (by decide) there
  exact ⟨t, s', e, parent, place, d, slot, index, record, own, built, there, alone, named, names,
    scanned, hangs, placed, reading, is_own, law alone⟩

end DebugScopes
