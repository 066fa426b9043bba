import DebugScopes.Proofs.Abbreviation.Keeping
import DebugScopes.Proofs.Decoding.Nesting
import DebugScopes.Proofs.Decoding.Telling
import DebugScopes.Proofs.Session.Building
import DebugScopes.Proofs.Tree.Renaming

/-!
# Decoded trees are well-formed

Whatever the data look like, a tree that is decoded from them hangs together. `Sound` is what holds
of the tree after every step: reading an entry keeps it (`Sound.enter`), and so do reading
everything below an entry (`Sound.below`) and reading all units (`Sound.units`). Entries are entered
in the order of the listing, which is `ScopeTree.Grown`.

* `WellFormed`: the shape of a decoded tree, and how its entries stand in the data;
* `wellFormed_of_decode`: every decoded tree has it;
* `build_wellFormed`: so has every tree that a session builds.
-/

namespace DebugScopes

open Abbreviation (Index)
open Abbreviation.Index (Declares Faithful)

/-! ### Entries in the data -/

/-- An entry stands in the data where it says: in the section, behind a code that is not zero and
whose first declaration gives its tag, and allows for children if it has any. -/
structure Stands (src : Source) (index : Index) (e : Entry) (place : Place) : Prop where
  placed : e.place = some place
  inside : src.infoStart ≤ place.addr ∧ place.addr < src.abbrevStart
  coded : 0 ≤ place.addr ∧
    (src.segment.data[place.addr.toNat]?.map fun b => (b.toNat : Int)) = some place.code
  code_ne : place.code ≠ 0
  declared : ∃ d, Declares src.segment index place.code d ∧ e.tag = some (d.tag : Int) ∧
    (d.hasChildren = false → e.children = #[])

/-- A unit's entry stands behind the header, and an entry in a unit belongs to the unit. -/
def Belongs (t : ScopeTree) (i : Nat) (place : Place) : Prop :=
  (t.parentOf i = some 0 ∧ place.addr = place.unit + 11) ∨
    ∃ parent above, t.parentOf i = some parent ∧ t.placeOf parent = some above ∧
      place.unit = above.unit

/-- The shape of a tree that was decoded from a source with this index of its abbreviation table. -/
structure WellFormed (src : Source) (index : Index) (t : ScopeTree) : Prop where
  listed : t.listing = List.range' 1 t.size
  increasing : ∀ {i j : Nat} {a b : Place}, i < j → t.placeOf i = some a → t.placeOf j = some b →
    a.addr < b.addr
  stands : ∀ {i : Nat} {e : Entry}, 0 < i → t.get? i = some e → ∃ place, Stands src index e place
  linked : t.Linked
  unit_addr : ∀ {u : Nat} {place : Place}, u ∈ t.units → t.placeOf u = some place →
    place.addr = place.unit + 11
  unit_eq : ∀ {u i : Nat} {place inner : Place}, u ∈ t.units → i ∈ t.preorder u →
    t.placeOf u = some place → t.placeOf i = some inner → inner.unit = place.unit
  entryAt : ∀ {addr : Int} {i : Nat},
    t.entryAt? addr = some i ↔ ∃ place, t.placeOf i = some place ∧ place.addr = addr

/-! ### What holds after every step -/

variable {src : Source} {index : Index} {unit : Int} {frame : Frame} {p p' : Progress}

/-- What holds of the progress after every step. -/
structure Sound (src : Source) (index : Index) (p : Progress) : Prop where
  faithful : Faithful src.segment index p.index
  root : p.tree.placeOf 0 = none
  stands : ∀ i e, 0 < i → p.tree.get? i = some e → ∃ place, Stands src index e place
  behind : ∀ i place, p.tree.placeOf i = some place → place.addr < p.pos
  increasing : ∀ i j a b, i < j → p.tree.placeOf i = some a → p.tree.placeOf j = some b →
    a.addr < b.addr
  linked : p.tree.Linked
  belongs : ∀ i place, p.tree.placeOf i = some place → Belongs p.tree i place

/-- Entries of a unit may be added below the frame's: below the root behind the header of the unit,
and else below an entry of the unit whose declaration allows for children. -/
inductive Admits (src : Source) (index : Index) (unit : Int) (frame : Frame) (p : Progress) : Prop
  | root (outermost : frame.entry = 0) (behind : p.pos = unit + 11)
  | inner {e : Entry} {place : Place} {d : Declaration} (positive : 0 < frame.entry)
      (found : p.tree.get? frame.entry = some e) (placed : e.place = some place)
      (same : place.unit = unit) (declared : Declares src.segment index place.code d)
      (parent : d.hasChildren = true)

theorem Admits.known (admits : Admits src index unit frame p) :
    frame.entry < p.tree.entries.size := by
  cases admits with
  | root outermost => rw [outermost]; exact p.tree.rooted
  | inner positive found => exact ScopeTree.lt_size_of_get? found

/-- An entry that admits others goes on to do so. -/
theorem Admits.kept {parent : Nat} (admits : Admits src index unit frame p)
    (positive : 0 < frame.entry) (kept : ScopeTree.Kept parent p.tree p'.tree) :
    Admits src index unit frame p' := by
  cases admits with
  | root outermost => omega
  | inner positive found placed same declared mayHave =>
    obtain ⟨added, found'⟩ := kept.get?_old found
    exact .inner positive found' placed same declared mayHave

/-- Passing over data keeps what holds. -/
theorem Sound.advance {pos : Int} {notices : Array Notice} (sound : Sound src index p)
    (forward : p.pos ≤ pos) : Sound src index { p with pos := pos, notices := notices } :=
  { sound with
    behind := fun i place found => Int.lt_of_lt_of_le (sound.behind i place found) forward }

/-! ### Reading an entry -/

section Entering

variable {code slot : Nat} {d : Declaration} {about : Description}

open Building

theorem Building.Entered.forward (entered : Entered src unit frame p code slot d about p') :
    p.pos + 1 ≤ p'.pos := by
  obtain ⟨last, described⟩ := entered.described
  exact (Decode.decodeAll_forward ..).le described

theorem Building.Entered.tag (entered : Entered src unit frame p code slot d about p') :
    (told frame about).tag = some (d.tag : Int) := by
  obtain ⟨last, described⟩ := entered.described
  exact Decode.decodeAll_tag described

theorem Building.Entered.declares (entered : Entered src unit frame p code slot d about p')
    (faithful : Faithful src.segment index p.index) :
    Declares src.segment index code d ∧ Faithful src.segment index p'.index := by
  obtain ⟨place, found, given⟩ := entered.declared
  exact faithful.declare_eq_ok found given

/-- The entry that is added stands in the data. -/
theorem Building.Entered.stands (entered : Entered src unit frame p code slot d about p')
    (faithful : Faithful src.segment index p.index) {parent : Option Nat} :
    Stands src index ⟨told frame about, some ⟨p.pos, unit, code⟩, parent, #[]⟩
      ⟨p.pos, unit, code⟩ := by
  obtain ⟨positive, short, held, -⟩ := Segment.byte_eq_ok.1 entered.coded
  obtain ⟨x, there, same⟩ := Option.map_eq_some_iff.1 held
  refine ⟨rfl, entered.inside, ⟨positive, ?_⟩, ?_, d, (entered.declares faithful).1, entered.tag,
    fun _ => rfl⟩
  · rw [there]
    exact congrArg some (congrArg Int.ofNat same)
  · exact Int.natCast_ne_zero.2 entered.code_ne

/-- The entry that gets a new child goes on to stand in the data. -/
theorem Stands.adopting {e : Entry} {place : Place} {c : Nat} (stands : Stands src index e place)
    (admits : Admits src index unit frame p) (found : p.tree.get? frame.entry = some e)
    (positive : 0 < frame.entry) : Stands src index (ScopeTree.adopting c e) place := by
  refine { stands with declared := ?_ }
  obtain ⟨d, declared, tagged, -⟩ := stands.declared
  cases admits with
  | root outermost => omega
  | inner _ found' placed _ declared' parent =>
    obtain rfl := Option.some.inj (found.symm.trans found')
    obtain rfl := Option.some.inj (stands.placed.symm.trans placed)
    refine ⟨d, declared, tagged, fun childless => ?_⟩
    rw [declared.unique declared', parent] at childless
    cases childless

/-- Nothing moves but that the new entry is placed where it was read. -/
theorem Building.Entered.placeOf (entered : Entered src unit frame p code slot d about p')
    (known : frame.entry < p.tree.entries.size) (i : Nat) :
    p'.tree.placeOf i =
      if i = p.tree.entries.size then some ⟨p.pos, unit, code⟩ else p.tree.placeOf i := by
  rw [entered.tree, ScopeTree.placeOf_add known]

theorem Building.Entered.parentOf (entered : Entered src unit frame p code slot d about p')
    (known : frame.entry < p.tree.entries.size) (i : Nat) :
    p'.tree.parentOf i =
      if i = p.tree.entries.size then some frame.entry else p.tree.parentOf i := by
  rw [entered.tree, ScopeTree.parentOf_add known]

/-- All entries stand in the data once another is read. -/
theorem Sound.enter_stands (sound : Sound src index p) (admits : Admits src index unit frame p)
    (entered : Entered src unit frame p code slot d about p') {i : Nat} {e : Entry}
    (positive : 0 < i) (found : p'.tree.get? i = some e) :
    ∃ place, Stands src index e place := by
  rw [entered.tree] at found
  rcases ScopeTree.get?_add_eq_some admits.known found with
    ⟨-, rfl⟩ | ⟨-, there⟩ | ⟨same, old, there, rfl⟩
  · exact ⟨_, entered.stands sound.faithful⟩
  · exact sound.stands i e positive there
  · obtain ⟨place, stands⟩ := sound.stands i old positive there
    exact ⟨place, stands.adopting admits (same ▸ there) (same ▸ positive)⟩

/-- All entries stand behind one another once another is read. -/
theorem Sound.enter_increasing (sound : Sound src index p) (admits : Admits src index unit frame p)
    (entered : Entered src unit frame p code slot d about p') {i j : Nat} {a b : Place}
    (before : i < j) (first : p'.tree.placeOf i = some a) (second : p'.tree.placeOf j = some b) :
    a.addr < b.addr := by
  rw [entered.placeOf admits.known] at first second
  by_cases last : i = p.tree.entries.size
  · rw [if_neg (by omega), ScopeTree.placeOf, ScopeTree.get?_eq_none (by omega)] at second
    cases second
  · rw [if_neg last] at first
    by_cases new : j = p.tree.entries.size
    · rw [if_pos new] at second
      cases second
      exact sound.behind i a first
    · rw [if_neg new] at second
      exact sound.increasing i j a b before first second

/-- All entries belong to their units once another is read. -/
theorem Sound.enter_belongs (sound : Sound src index p) (admits : Admits src index unit frame p)
    (entered : Entered src unit frame p code slot d about p') {i : Nat} {place : Place}
    (found : p'.tree.placeOf i = some place) : Belongs p'.tree i place := by
  have known := admits.known
  have parentOf := entered.parentOf known i
  rw [entered.placeOf known] at found
  by_cases new : i = p.tree.entries.size
  · rw [if_pos new] at found parentOf
    cases found
    cases admits with
    | root outermost behind => exact .inl ⟨outermost ▸ parentOf, behind⟩
    | @inner e above d positive there placed same =>
      refine .inr ⟨frame.entry, above, parentOf, ?_, same.symm⟩
      rw [entered.placeOf known, if_neg (Nat.ne_of_lt known), ScopeTree.placeOf, there]
      exact placed
  · rw [if_neg new] at found parentOf
    rcases sound.belongs i place found with ⟨top, addr⟩ | ⟨parent, above, inner, there, same⟩
    · exact .inl ⟨parentOf.trans top, addr⟩
    · refine .inr ⟨parent, above, parentOf.trans inner, ?_, same⟩
      obtain ⟨e, here, -⟩ := Option.bind_eq_some_iff.1 there
      rw [entered.placeOf known, if_neg (Nat.ne_of_lt (ScopeTree.lt_size_of_get? here))]
      exact there

/-- Reading an entry keeps what holds. -/
theorem Sound.enter (sound : Sound src index p) (admits : Admits src index unit frame p)
    (entered : Entered src unit frame p code slot d about p') : Sound src index p' := by
  have known := admits.known
  have forward := entered.forward
  have rooted := p.tree.rooted
  refine ⟨(entered.declares sound.faithful).2, ?_, fun i e => sound.enter_stands admits entered,
    fun i place found => ?_, fun i j a b => sound.enter_increasing admits entered, ?_,
    fun i place => sound.enter_belongs admits entered⟩
  · rw [entered.placeOf known, if_neg (by omega)]
    exact sound.root
  · rw [entered.placeOf known] at found
    split at found
    · cases found
      show p.pos < p'.pos
      omega
    · have := sound.behind i place found
      omega
  · rw [entered.tree]
    exact sound.linked.add known

/-- The entry that was read admits entries if its declaration allows for children. -/
theorem Building.Entered.admits (entered : Entered src unit frame p code slot d about p')
    (sound : Sound src index p) (known : frame.entry < p.tree.entries.size)
    (parent : d.hasChildren = true) :
    Admits src index unit (opening frame d about p.tree.entries.size).frame p' := by
  have found : p'.tree.get? p.tree.entries.size =
      some ⟨told frame about, some ⟨p.pos, unit, code⟩, some frame.entry, #[]⟩ := by
    rw [entered.tree]
    exact ScopeTree.get?_add_new known
  exact .inner p.tree.rooted found rfl rfl (entered.declares sound.faithful).1 parent

end Entering

/-! ### Reading what is below an entry -/

open Building

/-- Reading everything below an entry keeps what holds, and the tree grows there. -/
theorem Sound.below (sound : Sound src index p) (admits : Admits src index unit frame p)
    (positive : 0 < frame.entry) (below : Below src unit frame p p') :
    Sound src index p' ∧ ScopeTree.Grown frame.entry p.tree p'.tree := by
  induction below with
  | close ended =>
    obtain ⟨-, -, rfl⟩ := head_eq_none.1 ended
    exact ⟨sound.advance (by omega), .refl⟩
  | @leaf frame p p₁ p' opened read childless rest ih =>
    obtain ⟨code, slot, d, about, entered, rfl⟩ := head_eq_some.1 read
    have known := admits.known
    have kept : ScopeTree.Kept frame.entry p.tree p₁.tree := entered.tree ▸ .add known
    obtain ⟨sound', grown⟩ := ih (sound.enter admits entered) (admits.kept positive kept) positive
    exact ⟨sound', .added entered.tree .refl grown⟩
  | @nest frame p p₁ p₂ p' opened read parent inner rest ihInner ihRest =>
    obtain ⟨code, slot, d, about, entered, rfl⟩ := head_eq_some.1 read
    have known := admits.known
    obtain ⟨soundInner, grownInner⟩ := ihInner (sound.enter admits entered)
      (entered.admits sound known parent) p.tree.rooted
    -- all of it hangs below the new entry, so the frame's goes on to admit entries
    have grown : ScopeTree.Grown frame.entry p.tree p₂.tree := .added entered.tree grownInner .refl
    have kept := grown.kept known
    obtain ⟨sound', grownRest⟩ := ihRest soundInner (admits.kept positive kept) positive
    exact ⟨sound', grown.trans grownRest⟩

/-- Reading the entry of a unit keeps what holds, and the tree grows below the root. -/
theorem Sound.unitBody {start : Int} {found : Bool} (sound : Sound src index p)
    (behind : p.pos = start + 11) (body : UnitBody src start p found p') :
    Sound src index p' ∧ ScopeTree.Grown 0 p.tree p'.tree := by
  have admits : Admits src index start .root p := .root rfl behind
  cases body with
  | empty ended =>
    obtain ⟨-, -, rfl⟩ := head_eq_none.1 ended
    exact ⟨sound.advance (by omega), .refl⟩
  | leaf read childless =>
    obtain ⟨code, slot, d, about, entered, rfl⟩ := head_eq_some.1 read
    exact ⟨sound.enter admits entered, .added entered.tree .refl .refl⟩
  | nest read parent inner =>
    obtain ⟨code, slot, d, about, entered, rfl⟩ := head_eq_some.1 read
    obtain ⟨sound', grown⟩ := (sound.enter admits entered).below
      (entered.admits sound admits.known parent) p.tree.rooted inner
    exact ⟨sound', .added entered.tree grown .refl⟩

/-- Reading all units keeps what holds, and the tree grows below the root. -/
theorem Sound.units (sound : Sound src index p) (units : Units src p p') :
    Sound src index p' ∧ ScopeTree.Grown 0 p.tree p'.tree := by
  induction units with
  | done ended => exact ⟨sound, .refl⟩
  | @next p last p₁ p' header found more read rest ih =>
    obtain ⟨headed, body, rfl⟩ := read
    have start : Sound src index { p with pos := p.pos + 11 } := sound.advance (by omega)
    obtain ⟨soundUnit, grownUnit⟩ := start.unitBody rfl body
    obtain ⟨soundRest, grownRest⟩ := ih (soundUnit.advance (Int.le_refl _))
    exact ⟨soundRest, grownUnit.trans grownRest⟩

/-- Nothing has been read yet. -/
theorem sound_indexed (scanned : Index.scan src.segment src.abbrevStart = .ok index) :
    Sound src index (indexed src index) := by
  have none_placed : ∀ i, (indexed src index).tree.placeOf i = none := by
    intro i
    cases i with
    | zero => rfl
    | succ i =>
      rw [ScopeTree.placeOf, ScopeTree.get?_eq_none (Nat.succ_le_succ (Nat.zero_le i))]
      rfl
  refine ⟨Index.faithful_scan scanned, none_placed 0, fun i e positive found => ?_,
    fun i place found => ?_, fun i j a b _ found => ?_, ScopeTree.linked_empty,
    fun i place found => ?_⟩
  · have inside : i < 1 := ScopeTree.lt_size_of_get? found
    omega
  · rw [none_placed] at found
    cases found
  · rw [none_placed] at found
    cases found
  · rw [none_placed] at found
    cases found

/-! ### Decoded trees -/

theorem Stands.named {e : Entry} {place : Place} {name : Option String}
    (stands : Stands src index e place) : Stands src index (ScopeTree.named name e) place :=
  { stands with }

/-- What is below an entry of a unit belongs to the unit. -/
theorem unit_eq_of_belongs {t : ScopeTree} (linked : t.Linked)
    (stands : ∀ i e, 0 < i → t.get? i = some e → ∃ place, Stands src index e place)
    (belongs : ∀ i place, t.placeOf i = some place → Belongs t i place) {i j : Nat}
    (positive : 0 < i) (mem : j ∈ t.preorder i) {place inner : Place}
    (found : t.placeOf i = some place) (below : t.placeOf j = some inner) :
    inner.unit = place.unit := by
  induction h : t.entries.size - i using Nat.strongRecOn generalizing i place with
  | ind n ih =>
    subst h
    rw [ScopeTree.preorder_eq] at mem
    rcases List.mem_cons.1 mem with rfl | deeper
    · rw [Option.some.inj (below.symm.trans found)]
    · obtain ⟨c, child, mem⟩ := List.mem_flatMap.1 deeper
      obtain ⟨above, inside⟩ := ScopeTree.childrenOf_gt child
      have parentOf := (linked.child_iff i c).1 child
      have there : t.get? c = some t.entries[c] := Array.getElem?_eq_getElem inside
      obtain ⟨between, standing⟩ := stands c _ (by omega) there
      have placed : t.placeOf c = some between := by
        rw [ScopeTree.placeOf, there]
        exact standing.placed
      rw [ih _ (by omega) (by omega) mem placed rfl]
      rcases belongs c between placed with ⟨top, -⟩ | ⟨parent, around, up, there, same⟩
      · rw [parentOf] at top
        cases top
        omega
      · obtain rfl := Option.some.inj (parentOf.symm.trans up)
        rw [same, Option.some.inj (there.symm.trans found)]

/-- An address is looked up in a tree whose entries stand at different addresses. -/
theorem entryAt?_iff {t : ScopeTree}
    (increasing : ∀ i j a b, i < j → t.placeOf i = some a → t.placeOf j = some b → a.addr < b.addr)
    {addr : Int} {i : Nat} :
    t.entryAt? addr = some i ↔ ∃ place, t.placeOf i = some place ∧ place.addr = addr := by
  have placed {i : Nat} :
      t.addrOf i = some addr ↔ ∃ place, t.placeOf i = some place ∧ place.addr = addr := by
    rw [ScopeTree.addrOf_eq, Option.map_eq_some_iff]
  rw [ScopeTree.entryAt?_eq_some_iff, placed]
  refine ⟨And.left, fun ⟨place, found, same⟩ => ⟨⟨place, found, same⟩, fun j before again => ?_⟩⟩
  obtain ⟨place', found', same'⟩ := placed.1 again
  have := increasing j i place' place before found' found
  omega

/-- Every decoded tree is well-formed. -/
theorem wellFormed_of_decode {entryPoint : Value} {t : ScopeTree}
    (decoded : (ScopeTree.decode src entryPoint).1 = .ok t) :
    ∃ index, Index.scan src.segment src.abbrevStart = .ok index ∧ WellFormed src index t := by
  obtain ⟨index, p, start, scanned, units, -, rfl⟩ := decode_eq_ok.1 decoded
  obtain ⟨sound, grown⟩ := (sound_indexed scanned).units units
  refine ⟨index, scanned, ?_⟩
  -- following the references only renames entries, and so leaves the shape alone
  have renamed : ScopeTree.Renamed p.tree (p.tree.startingAt start).complete.1 :=
    (ScopeTree.renamed_startingAt p.tree start).trans (ScopeTree.renamed_complete _)
  have stands : ∀ i e, 0 < i → (p.tree.startingAt start).complete.1.get? i = some e →
      ∃ place, Stands src index e place := by
    intro i e positive found
    obtain ⟨old, there, same⟩ := renamed.get?_inv found
    obtain ⟨place, standing⟩ := sound.stands i old positive there
    exact ⟨place, same ▸ standing.named⟩
  have linked := renamed.linked sound.linked
  have increasing : ∀ i j a b, i < j → (p.tree.startingAt start).complete.1.placeOf i = some a →
      (p.tree.startingAt start).complete.1.placeOf j = some b → a.addr < b.addr := by
    intro i j a b before first second
    rw [renamed.placeOf] at first second
    exact sound.increasing i j a b before first second
  have belongs : ∀ i place, (p.tree.startingAt start).complete.1.placeOf i = some place →
      Belongs (p.tree.startingAt start).complete.1 i place := by
    intro i place found
    rw [renamed.placeOf] at found
    unfold Belongs
    simp only [renamed.placeOf, renamed.parentOf]
    exact sound.belongs i place found
  refine ⟨?_, increasing _ _ _ _, stands _ _, linked, fun {u place} unit found => ?_,
    fun {u i place inner} unit mem found below => ?_, entryAt?_iff increasing⟩
  · rw [renamed.listing, grown.listing_eq, ScopeTree.size, ScopeTree.size, renamed.size]
  · have top := (linked.child_iff 0 u).1 unit
    rcases belongs u place found with ⟨-, addr⟩ | ⟨parent, above, up, there, -⟩
    · exact addr
    · obtain rfl := Option.some.inj (top.symm.trans up)
      rw [renamed.placeOf, sound.root] at there
      cases there
  · exact unit_eq_of_belongs linked stands belongs (ScopeTree.childrenOf_gt unit).1 mem found below

/-- Every tree that a session builds is well-formed. -/
theorem build_wellFormed {image : Image} {s s' : Session} {t : ScopeTree}
    (built : Session.build image.decoder s = .ok t s') :
    ∃ index, Index.scan (image.segment s.settings.order) image.abbrevStart = .ok index ∧
      WellFormed (.of image s.settings.order) index t :=
  wellFormed_of_decode (Session.decode_of_build built).1

/-- An image with one unit, which holds the method `main`. -/
def methodImage : Image :=
  .ofParts
    #[0x13, 0, 0, 0, 2, 0, 0, 0, 0, 0, 4,
      1, 2, 40, 0, 0, 0, 0x10, 0, 0, 0, 8, 0,
      1, 0x11, 1, 0, 0, 2, 0x2e, 0, 3, 0xe, 0x11, 1, 0x12, 0xb, 0, 0, 0,
      0x6d, 0x61, 0x69, 0x6e, 0]
    (.ofList [⟨12, 1⟩, ⟨13, 4⟩, ⟨17, 4⟩, ⟨21, 1⟩]) 0 23 none

/-- The tree of the unit and its method is built, and so it is well-formed. -/
theorem build_wellFormed_method : ∃ t s' index,
    Session.build methodImage.decoder (.blank true .empty) = .ok t s' ∧ t.size = 2 ∧
      Index.scan (methodImage.segment (.ok .little)) 23 = .ok index ∧
        WellFormed (.of methodImage (.ok .little)) index t := by
  have size : (match Session.build methodImage.decoder (.blank true .empty) with
    | .ok t _ => t.size
    | .error _ _ => 0) = 2 := by decide +kernel
  cases built : Session.build methodImage.decoder (.blank true .empty) with
  | error fault s' =>
    rw [built] at size
    cases size
  | ok t s' =>
    rw [built] at size
    obtain ⟨index, scanned, shape⟩ := build_wellFormed built
    exact ⟨t, s', index, rfl, size, scanned, shape⟩

end DebugScopes
