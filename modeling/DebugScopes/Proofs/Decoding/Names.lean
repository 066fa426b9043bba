import DebugScopes.Proofs.Decoding.WellFormed
import DebugScopes.Proofs.Tree.Completing

/-!
# Names in a tree that is built

In a tree that has been read no two entries have the same address, so that following its references
hands the names on as `ScopeTree.Completed` has it.

* `Sound.completed`: whatever the references are, the names are handed on along them;
* `build_completed`: so they are in every tree that a session builds.
-/

namespace DebugScopes

open Abbreviation (Index)

variable {src : Source} {index : Index} {p : Progress}

theorem mem_listing_iff {t : ScopeTree} {i : Nat} (listed : t.listing = List.range' 1 t.size) :
    i ∈ t.listing ↔ 0 < i ∧ i < t.entries.size := by
  have rooted := t.rooted
  rw [listed, List.mem_range'_1, ScopeTree.size]
  omega

/-- Every entry but the root has an address. -/
theorem Sound.isSome_addrOf (sound : Sound src index p) {i : Nat} (positive : 0 < i)
    (inside : i < p.tree.entries.size) : (p.tree.addrOf i).isSome := by
  obtain ⟨e, found⟩ := ScopeTree.exists_get? inside
  obtain ⟨place, stands⟩ := sound.stands i e positive found
  rw [ScopeTree.addrOf_eq, ScopeTree.placeOf, found, Option.bind_some, stands.placed]
  rfl

/-- An address is looked up among all entries but the root, of which no two have the same. -/
theorem Sound.entryAt?_iff_addrOf (sound : Sound src index p) {addr : Int} {i : Nat} :
    p.tree.entryAt? addr = some i ↔
      (0 < i ∧ i < p.tree.entries.size) ∧ p.tree.addrOf i = some addr := by
  rw [entryAt?_iff sound.increasing, ScopeTree.addrOf_eq, Option.map_eq_some_iff]
  constructor
  · rintro ⟨place, stands, same⟩
    refine ⟨⟨?_, ?_⟩, place, stands, same⟩
    · rcases Nat.eq_zero_or_pos i with rfl | positive
      · rw [sound.root] at stands
        cases stands
      · exact positive
    · obtain ⟨e, found, -⟩ := Option.bind_eq_some_iff.1 stands
      exact ScopeTree.lt_size_of_get? found
  · exact And.right

/-- Following the references of what has been read hands the names on along them. -/
theorem Sound.completed (sound : Sound src index p)
    (listed : p.tree.listing = List.range' 1 p.tree.size) (start : Nat) :
    ScopeTree.Completed p.tree (p.tree.startingAt start).complete.1 := by
  have started := ScopeTree.renamed_startingAt p.tree start
  have listing : (p.tree.startingAt start).listing = p.tree.listing := started.listing
  refine .of_startingAt (ScopeTree.completed_complete ?_ (fun i mem => ?_) ?_)
  · rw [listing, listed]
    exact List.nodup_range'
  · rw [listing, mem_listing_iff listed] at mem
    exact sound.isSome_addrOf mem.1 mem.2
  · intro addr i
    rw [listing, mem_listing_iff listed]
    exact sound.entryAt?_iff_addrOf

/-- Every tree that a session builds is what has been read of the image with the names handed on. -/
theorem build_completed {image : Image} {s s' : Session} {t : ScopeTree}
    (built : Session.build image.decoder s = .ok t s') :
    ∃ before, (do
        Building.table (.of image s.settings.order)
        Building.units (.of image s.settings.order)) (.start (.of image s.settings.order)) =
          .ok () before ∧ ScopeTree.Completed before.tree t := by
  obtain ⟨index, p, start, scanned, units, -, rfl⟩ :=
    Building.decode_eq_ok.1 (Session.decode_of_build built).1
  obtain ⟨sound, grown⟩ := (sound_indexed scanned).units units
  refine ⟨p, bind_eq_ok.2 ⟨(), _, Building.table_eq_ok.2 ⟨index, scanned, rfl⟩,
    Building.units_eq_ok.2 units⟩, sound.completed grown.listing_eq start⟩

/-- An image with one unit, in which one entry refers to the next, that one to the method `main`
after it, and the last one back to the second. -/
def referringImage : Image :=
  .ofParts
    #[0x22, 0, 0, 0, 2, 0, 0, 0, 0, 0, 4,
      1, 3, 17, 0, 0, 0, 3, 22, 0, 0, 0, 2, 62, 0, 0, 0, 0x10, 0, 0, 0, 8, 3, 17, 0, 0, 0, 0,
      1, 0x11, 1, 0, 0, 2, 0x2e, 0, 3, 0xe, 0x11, 1, 0x12, 0xb, 0, 0,
      3, 0x2e, 0, 0x47, 0x13, 0, 0, 0,
      0x6d, 0x61, 0x69, 0x6e, 0]
    (.ofList [⟨12, 1⟩, ⟨13, 4⟩, ⟨17, 1⟩, ⟨18, 4⟩, ⟨22, 1⟩, ⟨23, 4⟩, ⟨27, 4⟩, ⟨31, 1⟩, ⟨32, 1⟩,
      ⟨33, 4⟩])
    0 38 none

/-- The first of these entries takes the name that the second does not have yet, and the last one
the name that it has by then. -/
theorem build_completed_referring : ∃ t s' before,
    Session.build referringImage.decoder (.blank true .empty) = .ok t s' ∧
      t.listing.map t.nameOf = [none, none, some "main", some "main", some "main"] ∧
        (do Building.table (.of referringImage (.ok .little))
            Building.units (.of referringImage (.ok .little)))
          (.start (.of referringImage (.ok .little))) = .ok () before ∧
          ScopeTree.Completed before.tree t := by
  have names : (match Session.build referringImage.decoder (.blank true .empty) with
    | .ok t _ => t.listing.map t.nameOf
    | .error _ _ => []) = [none, none, some "main", some "main", some "main"] := by decide +kernel
  cases built : Session.build referringImage.decoder (.blank true .empty) with
  | error fault s' =>
    rw [built] at names
    cases names
  | ok t s' =>
    rw [built] at names
    obtain ⟨before, read, completed⟩ := build_completed built
    exact ⟨t, s', before, rfl, names, read, completed⟩

end DebugScopes
