import DebugScopes.Proofs.Decoding.Names

/-!
# Where names come from

Names are handed on in one pass over the listing. So a reference that goes back takes the name that
its target has in the end, while a reference that goes on takes the name that its target was read
with, and no more: of a row of references only the last one may go on.

* `ScopeTree.origin`: the entry whose name, as it was read, an entry ends up with;
* `ScopeTree.Completed.nameOf_origin`: completing a tree gives every entry the name of its origin;
* `ScopeTree.LeadsBack`: rows of references that go back, up to the last one;
* `build_nameOf_refers`: which entries of a tree that is built have the name of their target.
-/

namespace DebugScopes

open Abbreviation (Index)

namespace ScopeTree

variable {t t' : ScopeTree} {i j d : Nat}

/-- An entry of the tree refers to another: the other one stands at the address that it names. -/
structure Refers (t : ScopeTree) (i j : Nat) : Prop where
  listed : i ∈ t.listing
  target_listed : j ∈ t.listing
  stands : ∃ target, t.targetOf i = some target ∧ t.addrOf j = some target

/-- References lead back to an entry: all of them go back in the listing, but perhaps the last. -/
inductive LeadsBack (t : ScopeTree) : Nat → Nat → Prop
  | last {i d : Nat} (refers : t.Refers i d) : LeadsBack t i d
  | back {i j d : Nat} (refers : t.Refers i j) (before : j < i) (rest : LeadsBack t j d) :
      LeadsBack t i d

theorem LeadsBack.listed (leads : LeadsBack t i d) : i ∈ t.listing := by
  cases leads with
  | last refers => exact refers.listed
  | back refers => exact refers.listed

theorem LeadsBack.listed_last (leads : LeadsBack t i d) : d ∈ t.listing := by
  induction leads with
  | last refers => exact refers.target_listed
  | back _ _ _ ih => exact ih

/-- The entry whose name, as it was read, an entry ends up with. Back along a reference it is the
origin of the target; a reference to the entry itself or further on ends at its target. -/
def origin (t : ScopeTree) (i : Nat) : Nat :=
  match t.sourceOf i with
  | none => i
  | some j => if j < i then t.origin j else j
termination_by i

theorem origin_of_none (alone : t.sourceOf i = none) : t.origin i = i := by
  rw [origin, alone]

theorem origin_of_back (source : t.sourceOf i = some j) (back : j < i) :
    t.origin i = t.origin j := by
  rw [origin, source]
  exact if_pos back

theorem origin_of_on (source : t.sourceOf i = some j) (on : i ≤ j) : t.origin i = j := by
  rw [origin, source]
  exact if_neg (Nat.not_lt.2 on)

theorem Renamed.refers (renamed : Renamed t t') : t'.Refers i j ↔ t.Refers i j := by
  have same : t'.listing = t.listing := renamed.listing
  constructor
  · rintro ⟨listed, target_listed, stands⟩
    rw [same] at listed target_listed
    rw [renamed.targetOf, renamed.addrOf] at stands
    exact ⟨listed, target_listed, stands⟩
  · rintro ⟨listed, target_listed, stands⟩
    rw [← same] at listed target_listed
    rw [← renamed.targetOf, ← renamed.addrOf] at stands
    exact ⟨listed, target_listed, stands⟩

theorem Renamed.leadsBack (renamed : Renamed t t') (leads : LeadsBack t' i d) :
    LeadsBack t i d := by
  induction leads with
  | last refers => exact .last (renamed.refers.1 refers)
  | back refers before _ ih => exact .back (renamed.refers.1 refers) before ih

/-! ### Trees in which every entry has its own address -/

/-- Every entry that is listed has an address of its own, and the entries are numbered as listed. -/
structure Addressed (t : ScopeTree) : Prop where
  placed : ∀ i ∈ t.listing, (t.addrOf i).isSome
  unique : ∀ {addr : Int} {i : Nat},
    t.entryAt? addr = some i ↔ i ∈ t.listing ∧ t.addrOf i = some addr
  numbered : t.listing = List.range' 1 t.size

namespace Addressed

variable (addressed : Addressed t)

include addressed

/-- The entry that is looked up is the one that is referred to. -/
theorem sourceOf_eq_some (listed : i ∈ t.listing) : t.sourceOf i = some j ↔ t.Refers i j := by
  obtain ⟨addr, there⟩ := Option.isSome_iff_exists.1 (addressed.placed i listed)
  rw [sourceOf, referenceOf_eq, there]
  constructor
  · intro found
    obtain ⟨reference, same, found⟩ := Option.bind_eq_some_iff.1 found
    obtain ⟨target, wanted, rfl⟩ := Option.map_eq_some_iff.1 same
    obtain ⟨target_listed, stands⟩ := addressed.unique.1 found
    exact ⟨listed, target_listed, target, wanted, stands⟩
  · rintro ⟨-, target_listed, target, wanted, stands⟩
    rw [wanted]
    exact addressed.unique.2 ⟨target_listed, stands⟩

theorem sourceOf_of_refers (refers : t.Refers i j) : t.sourceOf i = some j :=
  (addressed.sourceOf_eq_some refers.listed).2 refers

/-- An entry that refers to none of the tree is its own origin. -/
theorem origin_of_alone (listed : i ∈ t.listing) (alone : ∀ j, ¬ t.Refers i j) :
    t.origin i = i := by
  refine origin_of_none (Option.eq_none_iff_forall_ne_some.2 fun j source => ?_)
  exact alone j ((addressed.sourceOf_eq_some listed).1 source)

/-- Behind the first entry the listing has the next number in every place. -/
theorem getElem?_listing {k : Nat} (here : t.listing[k]? = some i) : i = k + 1 := by
  rw [addressed.numbered] at here
  obtain ⟨inside, rfl⟩ := List.getElem?_eq_some_iff.1 here
  rw [List.getElem_range', Nat.one_mul, Nat.add_comm]

/-- Where references lead back to an entry that refers to none, that one is the origin. -/
theorem origin_of_leadsBack (leads : LeadsBack t i d) (alone : ∀ j, ¬ t.Refers d j) :
    t.origin i = d := by
  induction leads with
  | @last i d refers =>
    have source := addressed.sourceOf_of_refers refers
    rcases Nat.lt_or_ge d i with back | on
    · rw [origin_of_back source back, addressed.origin_of_alone refers.target_listed alone]
    · exact origin_of_on source on
  | back refers before rest ih =>
    rw [origin_of_back (addressed.sourceOf_of_refers refers) before, ih alone]

end Addressed

namespace Completed

variable (completed : Completed t t') (addressed : Addressed t)

include completed addressed

/-- A name is taken in the form in which it stands when the pass comes to the entry. -/
theorem nameOf_refers (refers : t.Refers i j) :
    t'.nameOf i = if j < i then t'.nameOf j else t.nameOf j := by
  obtain ⟨k, here⟩ := List.mem_iff_getElem?.1 refers.listed
  obtain ⟨l, there⟩ := List.mem_iff_getElem?.1 refers.target_listed
  obtain ⟨target, wanted, stands⟩ := refers.stands
  rw [completed.taken here there wanted stands]
  obtain rfl := addressed.getElem?_listing here
  obtain rfl := addressed.getElem?_listing there
  simp only [Nat.add_lt_add_iff_right]

/-- Completing a tree gives every entry the name that its origin was read with. -/
theorem nameOf_origin (listed : i ∈ t.listing) : t'.nameOf i = t.nameOf (t.origin i) := by
  induction i using Nat.strongRecOn with
  | ind i ih =>
    cases source : t.sourceOf i with
    | none =>
      rw [origin_of_none source]
      refine completed.kept i listed fun target wanted j there stands => ?_
      have found := addressed.sourceOf_of_refers ⟨listed, there, target, wanted, stands⟩
      rw [source] at found
      cases found
    | some j =>
      have refers := (addressed.sourceOf_eq_some listed).1 source
      rw [completed.nameOf_refers addressed refers]
      rcases Nat.lt_or_ge j i with back | on
      · rw [if_pos back, origin_of_back source back, ih j back refers.target_listed]
      · rw [if_neg (Nat.not_lt.2 on), origin_of_on source on]

/-- An entry has the name of its target exactly if the target does not stand behind it, or has
kept the name that it was read with. -/
theorem nameOf_eq_iff (refers : t.Refers i j) :
    t'.nameOf i = t'.nameOf j ↔ j ≤ i ∨ t'.nameOf j = t.nameOf j := by
  have taken := completed.nameOf_refers addressed refers
  rcases Nat.lt_trichotomy j i with back | rfl | on
  · rw [if_pos back] at taken
    exact iff_of_true taken (.inl (Nat.le_of_lt back))
  · exact iff_of_true rfl (.inl (Nat.le_refl _))
  · rw [if_neg (Nat.lt_asymm on)] at taken
    rw [taken, eq_comm, or_iff_right (Nat.not_le.2 on)]

end Completed

end ScopeTree

/-! ### Trees that are built -/

variable {src : Source} {index : Index} {p : Progress}

theorem Sound.addressed (sound : Sound src index p)
    (listed : p.tree.listing = List.range' 1 p.tree.size) : p.tree.Addressed := by
  refine ⟨fun i mem => ?_, fun {addr i} => ?_, listed⟩
  · rw [mem_listing_iff listed] at mem
    exact sound.isSome_addrOf mem.1 mem.2
  · rw [mem_listing_iff listed]
    exact sound.entryAt?_iff_addrOf

/-- In a tree that a session builds, an entry has the name of the entry that it refers to exactly if
that one does not stand behind it or has kept the name that it was read with; and it has this name
if that one stands behind it. So all entries of a row of references have the name of the last, if no
reference but the last one goes on. Entries are numbered in the order of the listing. -/
theorem build_nameOf_refers {image : Image} {s s' : Session} {t : ScopeTree}
    (built : Session.build image.decoder s = .ok t s') :
    ∃ before, (do
        Building.table (.of image s.settings.order)
        Building.units (.of image s.settings.order)) (.start (.of image s.settings.order)) =
          .ok () before ∧
      (∀ {i j}, t.Refers i j →
        (t.nameOf i = t.nameOf j ↔ j ≤ i ∨ t.nameOf j = before.tree.nameOf j) ∧
          (i < j → t.nameOf i = before.tree.nameOf j)) ∧
      ∀ {i d}, t.LeadsBack i d → (∀ j, ¬ t.Refers d j) →
        t.nameOf i = t.nameOf d ∧ t.nameOf d = before.tree.nameOf d := by
  obtain ⟨index, p, start, scanned, units, -, rfl⟩ :=
    Building.decode_eq_ok.1 (Session.decode_of_build built).1
  obtain ⟨sound, grown⟩ := (sound_indexed scanned).units units
  have addressed := sound.addressed grown.listing_eq
  have completed := sound.completed grown.listing_eq start
  have renamed := completed.renamed
  refine ⟨p, bind_eq_ok.2 ⟨(), _, Building.table_eq_ok.2 ⟨index, scanned, rfl⟩,
    Building.units_eq_ok.2 units⟩, fun {i j} refers => ?_, fun {i d} leads alone => ?_⟩
  · have refers := renamed.refers.1 refers
    refine ⟨completed.nameOf_eq_iff addressed refers, fun on => ?_⟩
    rw [completed.nameOf_refers addressed refers, if_neg (Nat.lt_asymm on)]
  · have leads := renamed.leadsBack leads
    have alone : ∀ j, ¬ p.tree.Refers d j := fun j refers => alone j (renamed.refers.2 refers)
    have last : d ∈ p.tree.listing := leads.listed_last
    have own := completed.nameOf_origin addressed last
    rw [addressed.origin_of_alone last alone] at own
    refine ⟨?_, own⟩
    rw [own, completed.nameOf_origin addressed leads.listed,
      addressed.origin_of_leadsBack leads alone]

/-- An entry's number, its address, the address that it refers to, and its name. -/
def ScopeTree.reference (t : ScopeTree) (i : Nat) :
    Nat × Option Int × Option Int × Option String :=
  (i, t.addrOf i, t.targetOf i, t.nameOf i)

/-- In this image the second entry refers on to the third, that one on to the method, and the last
one back to the third. -/
theorem exists_build_referring : ∃ t s',
    Session.build referringImage.decoder (.blank true .empty) = .ok t s' ∧
      t.listing.map t.reference =
        [(1, some 11, none, none), (2, some 12, some 17, none),
          (3, some 17, some 22, some "main"), (4, some 22, none, some "main"),
          (5, some 32, some 17, some "main")] := by
  refine exists_ok_of ?_
  decide +kernel

/-- What a row of the listing says of an entry. -/
theorem ScopeTree.entry_of_row {t : ScopeTree} {i k : Nat} {addr target : Option Int}
    {name : Option String} {rows : List (Nat × Option Int × Option Int × Option String)}
    (table : t.listing.map t.reference = rows) (row : rows[k]? = some (i, addr, target, name)) :
    i ∈ t.listing ∧ t.addrOf i = addr ∧ t.targetOf i = target ∧ t.nameOf i = name := by
  obtain ⟨j, listed, same⟩ := List.mem_map.1 (table ▸ List.mem_of_getElem? row)
  simp only [ScopeTree.reference, Prod.mk.injEq] at same
  obtain ⟨rfl, rfl, rfl, rfl⟩ := same
  exact ⟨listed, rfl, rfl, rfl⟩

/-- The second entry refers to the third, which refers to the method behind it: the third entry has
the name of the method, and the second has none. -/
theorem names_differ_referring :
    ¬ ∀ {t s'}, Session.build referringImage.decoder (.blank true .empty) = .ok t s' →
      ∀ {i j}, t.Refers i j → t.nameOf i = t.nameOf j := by
  intro agree
  obtain ⟨t, s', built, rows⟩ := exists_build_referring
  obtain ⟨listed, -, refers, own⟩ := t.entry_of_row (k := 1) rows rfl
  obtain ⟨there, stands, -, other⟩ := t.entry_of_row (k := 2) rows rfl
  have same := agree built ⟨listed, there, 17, refers, stands⟩
  rw [own, other] at same
  cases same

/-- The last entry of this image leads back to the method by way of the third. -/
theorem build_nameOf_refers_referring : ∃ t s' before,
    Session.build referringImage.decoder (.blank true .empty) = .ok t s' ∧
      (do Building.table (.of referringImage (.ok .little))
          Building.units (.of referringImage (.ok .little)))
        (.start (.of referringImage (.ok .little))) = .ok () before ∧
        t.LeadsBack 5 4 ∧ (∀ j, ¬ t.Refers 4 j) ∧ t.nameOf 5 = t.nameOf 4 ∧
          t.nameOf 4 = before.tree.nameOf 4 := by
  obtain ⟨t, s', built, rows⟩ := exists_build_referring
  obtain ⟨before, read, -, along⟩ := build_nameOf_refers built
  obtain ⟨third, atThird, on, -⟩ := t.entry_of_row (k := 2) rows rfl
  obtain ⟨method, atMethod, ends, -⟩ := t.entry_of_row (k := 3) rows rfl
  obtain ⟨last, -, back, -⟩ := t.entry_of_row (k := 4) rows rfl
  have leads : t.LeadsBack 5 4 :=
    .back ⟨last, third, 17, back, atThird⟩ (by decide) (.last ⟨third, method, 22, on, atMethod⟩)
  have alone : ∀ j, ¬ t.Refers 4 j := by
    rintro j ⟨-, -, target, wanted, -⟩
    rw [ends] at wanted
    cases wanted
  exact ⟨t, s', before, built, read, leads, alone, along leads alone⟩

end DebugScopes
