import DebugScopes.Proofs.Decoding.Names
import DebugScopes.Proofs.Tree.Making

/-!
# How the entries of a tree were read

A tree keeps what its entries are left with, but not all that was read of them: the range that
nothing has ended is gone, and the name stands behind that of a class. A record beside the tree
keeps for each entry what its attributes have said. What an entry gets from around it, the base of
its lists and the name of a class, is a function of the tree and the record alone
(`ScopeTree.frameAt`), although the decoder hands it down from frame to frame.

* `Reading`: the attributes of an entry have been decoded from where it stands in the data;
* `Recorded`: each entry of a tree is what the record says of it, read in the frame of its parent;
* `Recorded.enter`: reading one more entry goes on with the record;
* `exists_recorded_completed`: there is a record beside every tree that a session builds.
-/

namespace DebugScopes

open Abbreviation (Index)
open Abbreviation.Index (Declares Faithful)
open Building (Entered Below UnitBody Units told opening indexed)

/-! ### The frame of an entry -/

namespace ScopeTree

variable {t t' : ScopeTree} {record record' : Nat → Description} {i : Nat}

/-- What lists of ranges count from below a row of entries, the innermost in front: from the first
that is a unit. -/
def baseAmong (record : Nat → Description) (around : List Nat) : Int :=
  (around.find? fun u => (record u).isUnit).elim 0 fun u => (record u).baseBelow 0

/-- The frame in which the children of an entry are read. -/
def frameAt (t : ScopeTree) (record : Nat → Description) (i : Nat) : Frame :=
  ⟨i, baseAmong record (i :: t.ancestors i), (record i).className⟩

theorem baseAmong_cons (record : Nat → Description) (i : Nat) (around : List Nat) :
    baseAmong record (i :: around) = (record i).baseBelow (baseAmong record around) := by
  unfold baseAmong Description.baseBelow
  cases unit : (record i).isUnit <;> simp [unit]

theorem baseAmong_congr {around : List Nat} (same : ∀ i ∈ around, record' i = record i) :
    baseAmong record' around = baseAmong record around := by
  induction around with
  | nil => rfl
  | cons i rest ih =>
    rw [baseAmong_cons, baseAmong_cons, same i List.mem_cons_self,
      ih fun j mem => same j (List.mem_cons_of_mem _ mem)]

/-- Below the root everything is read as in the frame of the root, of which nothing is told. -/
theorem frameAt_root (t : ScopeTree) (blank : record 0 = .blank) :
    t.frameAt record 0 = .root := by
  rw [frameAt, baseAmong_cons, ancestors_root, blank]
  rfl

/-- A tree and its record go on: what was there keeps its parent and what is recorded of it. -/
structure Continued (t t' : ScopeTree) (record record' : Nat → Description) : Prop where
  size_le : t.entries.size ≤ t'.entries.size
  parentOf : ∀ i < t.entries.size, t'.parentOf i = t.parentOf i
  record : ∀ i < t.entries.size, record' i = record i

namespace Continued

theorem refl (t : ScopeTree) (record : Nat → Description) : Continued t t record record :=
  ⟨Nat.le_refl _, fun _ _ => rfl, fun _ _ => rfl⟩

theorem trans {t₁ : ScopeTree} {record₁ : Nat → Description}
    (first : Continued t t₁ record record₁) (second : Continued t₁ t' record₁ record') :
    Continued t t' record record' := by
  refine ⟨Nat.le_trans first.size_le second.size_le, fun i old => ?_, fun i old => ?_⟩
  · rw [second.parentOf i (Nat.lt_of_lt_of_le old first.size_le), first.parentOf i old]
  · rw [second.record i (Nat.lt_of_lt_of_le old first.size_le), first.record i old]

theorem ancestors (continued : Continued t t' record record') (old : i < t.entries.size) :
    t'.ancestors i = t.ancestors i := by
  induction i using Nat.strongRecOn with
  | ind i ih =>
    have same := continued.parentOf i old
    cases found : t.parentOf i with
    | none => rw [ancestors_of_none found, ancestors_of_none (same.trans found)]
    | some parent =>
      have less := parentOf_lt found
      rw [ancestors_of_parentOf found, ancestors_of_parentOf (same.trans found),
        ih parent less (Nat.lt_trans less old)]

theorem frameAt (continued : Continued t t' record record') (old : i < t.entries.size) :
    t'.frameAt record' i = t.frameAt record i := by
  have same : ∀ j ∈ i :: t.ancestors i, record' j = record j := by
    intro j mem
    rcases List.mem_cons.1 mem with rfl | around
    · exact continued.record j old
    · exact continued.record j (Nat.lt_trans (lt_of_mem_ancestors around) old)
  rw [ScopeTree.frameAt, ScopeTree.frameAt, continued.ancestors old, baseAmong_congr same,
    continued.record i old]

end Continued

end ScopeTree

/-! ### Records of what was read -/

variable {src : Source} {index : Index} {unit : Int} {frame : Frame} {p p' : Progress}
  {record : Nat → Description}

/-- The attributes of the entry at a place have been decoded: by the first declaration of its code,
from the slot behind the code on, with lists of ranges counted from a base. -/
structure Reading (src : Source) (index : Index) (base : Int) (place : Place) (d : Declaration)
    (slot : Nat) (about : Description) : Prop where
  declared : Declares src.segment index place.code d
  slotted : src.items.slot? (place.addr + 1) = some slot
  decoded : ∃ pos last, Decode.decodeAll src ⟨place.addr, place.unit, base⟩ d.attributes
    ⟨place.addr + 1, slot, .tagged d.tag⟩ = .ok () ⟨pos, last, about⟩

/-- Each entry of a tree but the root was read in the frame of its parent, and is what the record
has of it, settled and named as that frame has it. -/
structure Recorded (src : Source) (index : Index) (t : ScopeTree) (record : Nat → Description) :
    Prop where
  root : record 0 = .blank
  root_blank : ∀ e, t.get? 0 = some e → e.toDescription = .blank
  entry : ∀ {i : Nat} {e : Entry}, 0 < i → t.get? i = some e → ∃ parent place d slot,
    e.parent = some parent ∧ e.place = some place ∧
      Reading src index (t.frameAt record parent).base place d slot (record i) ∧
        e.toDescription = told (t.frameAt record parent) (record i)

section Entering

variable {code slot : Nat} {d : Declaration} {about : Description}

/-- What was read of an entry that has been entered. -/
theorem Building.Entered.reading (entered : Entered src unit frame p code slot d about p')
    (faithful : Faithful src.segment index p.index) :
    Reading src index frame.base ⟨p.pos, unit, code⟩ d slot about := by
  obtain ⟨last, described⟩ := entered.described
  exact ⟨(entered.declares faithful).1, entered.slotted, p'.pos, last, described⟩

theorem Building.Entered.lt_size (entered : Entered src unit frame p code slot d about p')
    (known : frame.entry < p.tree.entries.size) : p.tree.entries.size < p'.tree.entries.size := by
  rw [entered.tree, ScopeTree.size_add known]
  exact Nat.lt_succ_self _

/-- Entering an entry goes on with what was there. -/
theorem Building.Entered.continued (entered : Entered src unit frame p code slot d about p')
    (known : frame.entry < p.tree.entries.size) (record : Nat → Description) :
    ScopeTree.Continued p.tree p'.tree record
      (Function.update record p.tree.entries.size about) := by
  refine ⟨?_, fun i old => ?_, fun i old => Function.update_of_ne (Nat.ne_of_lt old) ..⟩
  · exact Nat.le_of_lt (entered.lt_size known)
  · rw [entered.parentOf known, if_neg (Nat.ne_of_lt old)]

/-- The frame of the entry that has been entered is the one in which its children are read. -/
theorem Building.Entered.frameAt (entered : Entered src unit frame p code slot d about p')
    (known : frame.entry < p.tree.entries.size)
    (framed : p.tree.frameAt record frame.entry = frame) :
    p'.tree.frameAt (Function.update record p.tree.entries.size about) p.tree.entries.size =
      (opening frame d about p.tree.entries.size).frame := by
  have continued := entered.continued known record
  have parent : p'.tree.parentOf p.tree.entries.size = some frame.entry := by
    rw [entered.parentOf known, if_pos rfl]
  have base : ScopeTree.baseAmong (Function.update record p.tree.entries.size about)
      (frame.entry :: p'.tree.ancestors frame.entry) = frame.base :=
    congrArg Frame.base ((continued.frameAt known).trans framed)
  rw [ScopeTree.frameAt, ScopeTree.baseAmong_cons, ScopeTree.ancestors_of_parentOf parent,
    Function.update_self, base]
  rfl

/-- What is recorded of an entry holds on where the tree and the record go on. -/
theorem Recorded.entry_of_continued {t t' : ScopeTree} {record record' : Nat → Description}
    (recorded : Recorded src index t record)
    (continued : ScopeTree.Continued t t' record record') {i : Nat} {e : Entry} (positive : 0 < i)
    (found : t.get? i = some e) : ∃ parent place d slot,
      e.parent = some parent ∧ e.place = some place ∧
        Reading src index (t'.frameAt record' parent).base place d slot (record' i) ∧
          e.toDescription = told (t'.frameAt record' parent) (record' i) := by
  obtain ⟨parent, place, d, slot, hangs, placed, reading, same⟩ := recorded.entry positive found
  have old := ScopeTree.lt_size_of_get? found
  have parentOf : t.parentOf i = some parent := by
    rw [ScopeTree.parentOf_eq, found]
    exact hangs
  have frames : t'.frameAt record' parent = t.frameAt record parent :=
    continued.frameAt (Nat.lt_trans (ScopeTree.parentOf_lt parentOf) old)
  rw [← frames, ← continued.record i old] at reading same
  exact ⟨parent, place, d, slot, hangs, placed, reading, same⟩

/-- Reading one more entry goes on with the record. -/
theorem Recorded.enter (recorded : Recorded src index p.tree record)
    (faithful : Faithful src.segment index p.index) (known : frame.entry < p.tree.entries.size)
    (framed : p.tree.frameAt record frame.entry = frame)
    (entered : Entered src unit frame p code slot d about p') :
    Recorded src index p'.tree (Function.update record p.tree.entries.size about) := by
  have continued := entered.continued known record
  have rooted := p.tree.rooted
  refine ⟨(continued.record 0 rooted).trans recorded.root, fun e found => ?_,
    fun {i e} positive found => ?_⟩
  · rw [entered.tree] at found
    rcases ScopeTree.get?_add_eq_some known found with
      ⟨new, -⟩ | ⟨-, there⟩ | ⟨-, old, there, rfl⟩
    · omega
    · exact recorded.root_blank e there
    · exact recorded.root_blank old there
  · have entry := found
    rw [entered.tree] at entry
    rcases ScopeTree.get?_add_eq_some known entry with
      ⟨new, rfl⟩ | ⟨-, there⟩ | ⟨-, old, there, rfl⟩
    · have below := (continued.frameAt known).trans framed
      refine ⟨frame.entry, _, d, slot, rfl, rfl, ?_, ?_⟩
      · rw [below, new, Function.update_self]
        exact entered.reading faithful
      · rw [below, new, Function.update_self]
    · exact recorded.entry_of_continued continued positive there
    · obtain ⟨parent, place, d', slot', hangs, placed, reading, same⟩ :=
        recorded.entry_of_continued continued positive there
      exact ⟨parent, place, d', slot', hangs, placed, reading, same⟩

end Entering

/-! ### Reading everything -/

/-- The record goes on from one point of the decoding to another. -/
def Advances (src : Source) (index : Index) (record : Nat → Description) (p p' : Progress) : Prop :=
  ∃ record', Recorded src index p'.tree record' ∧
    ScopeTree.Continued p.tree p'.tree record record' ∧ Faithful src.segment index p'.index

theorem Advances.refl (recorded : Recorded src index p.tree record)
    (faithful : Faithful src.segment index p.index) {pos : Int} {notices : Array Notice} :
    Advances src index record p { p with pos := pos, notices := notices } :=
  ⟨record, recorded, .refl _ _, faithful⟩

/-- Reading everything below an entry goes on with the record. -/
theorem Recorded.below (recorded : Recorded src index p.tree record)
    (faithful : Faithful src.segment index p.index) (known : frame.entry < p.tree.entries.size)
    (framed : p.tree.frameAt record frame.entry = frame) (below : Below src unit frame p p') :
    Advances src index record p p' := by
  induction below generalizing record with
  | close ended =>
    obtain ⟨-, -, rfl⟩ := Building.head_eq_none.1 ended
    exact .refl recorded faithful
  | @leaf frame p p₁ p' opened read childless rest ih =>
    obtain ⟨code, slot, d, about, entered, rfl⟩ := Building.head_eq_some.1 read
    have entering := entered.continued known record
    obtain ⟨record', recorded', continued, faithful'⟩ :=
      ih (recorded.enter faithful known framed entered) (entered.declares faithful).2
        (Nat.lt_of_lt_of_le known entering.size_le) ((entering.frameAt known).trans framed)
    exact ⟨record', recorded', entering.trans continued, faithful'⟩
  | @nest frame p p₁ p₂ p' opened read parent inner rest ihInner ihRest =>
    obtain ⟨code, slot, d, about, entered, rfl⟩ := Building.head_eq_some.1 read
    have entering := entered.continued known record
    obtain ⟨record₁, recorded₁, inside, faithful₁⟩ :=
      ihInner (recorded.enter faithful known framed entered) (entered.declares faithful).2
        (entered.lt_size known) (entered.frameAt known framed)
    have through := entering.trans inside
    obtain ⟨record', recorded', continued, faithful'⟩ :=
      ihRest recorded₁ faithful₁ (Nat.lt_of_lt_of_le known through.size_le)
        ((through.frameAt known).trans framed)
    exact ⟨record', recorded', through.trans continued, faithful'⟩

/-- Reading the entry of a unit goes on with the record. -/
theorem Recorded.unitBody {start : Int} {found : Bool} (recorded : Recorded src index p.tree record)
    (faithful : Faithful src.segment index p.index)
    (body : UnitBody src start p found p') : Advances src index record p p' := by
  have known : Frame.root.entry < p.tree.entries.size := p.tree.rooted
  have framed := ScopeTree.frameAt_root p.tree recorded.root
  cases body with
  | empty ended =>
    obtain ⟨-, -, rfl⟩ := Building.head_eq_none.1 ended
    exact .refl recorded faithful
  | leaf read childless =>
    obtain ⟨code, slot, d, about, entered, rfl⟩ := Building.head_eq_some.1 read
    exact ⟨_, recorded.enter faithful known framed entered, entered.continued known record,
      (entered.declares faithful).2⟩
  | nest read parent inner =>
    obtain ⟨code, slot, d, about, entered, rfl⟩ := Building.head_eq_some.1 read
    obtain ⟨record', recorded', continued, faithful'⟩ :=
      (recorded.enter faithful known framed entered).below (entered.declares faithful).2
        (entered.lt_size known) (entered.frameAt known framed) inner
    exact ⟨record', recorded', (entered.continued known record).trans continued, faithful'⟩

/-- Reading all units goes on with the record. -/
theorem Recorded.units (recorded : Recorded src index p.tree record)
    (faithful : Faithful src.segment index p.index) (units : Building.Units src p p') :
    Advances src index record p p' := by
  induction units generalizing record with
  | done ended => exact ⟨record, recorded, .refl _ _, faithful⟩
  | @next p last p₁ p' header found more read rest ih =>
    obtain ⟨headed, body, rfl⟩ := read
    obtain ⟨record₁, recorded₁, inside, faithful₁⟩ :=
      Recorded.unitBody (p := { p with pos := p.pos + 11 }) recorded faithful body
    obtain ⟨record', recorded', continued, faithful'⟩ := ih recorded₁ faithful₁
    exact ⟨record', recorded', inside.trans continued, faithful'⟩

/-- Nothing has been read yet. -/
theorem recorded_indexed (src : Source) (index : Index) :
    Recorded src index (indexed src index).tree fun _ => .blank := by
  refine ⟨rfl, fun e found => ?_, fun {i e} positive found => ?_⟩
  · cases found
    rfl
  · have inside : i < 1 := ScopeTree.lt_size_of_get? found
    omega

/-- Beside every tree that a session builds there is a record of what was read, and the tree is what
was read with the names handed on. -/
theorem exists_recorded_completed {image : Image} {s s' : Session} {t : ScopeTree}
    (built : Session.build image.decoder s = .ok t s') :
    ∃ index before record,
      Index.scan (image.segment s.settings.order) image.abbrevStart = .ok index ∧
        Recorded (.of image s.settings.order) index before record ∧
          before.listing = List.range' 1 before.size ∧ ScopeTree.Completed before t := by
  obtain ⟨index, p, start, scanned, units, -, rfl⟩ :=
    Building.decode_eq_ok.1 (Session.decode_of_build built).1
  obtain ⟨record, recorded, -, -⟩ :=
    (recorded_indexed _ index).units (Index.faithful_scan scanned) units
  obtain ⟨sound, grown⟩ := (sound_indexed scanned).units units
  exact ⟨index, p.tree, record, scanned, recorded, grown.listing_eq,
    sound.completed grown.listing_eq start⟩

theorem exists_recorded {image : Image} {s s' : Session} {t : ScopeTree}
    (built : Session.build image.decoder s = .ok t s') :
    ∃ index before record,
      Index.scan (image.segment s.settings.order) image.abbrevStart = .ok index ∧
        Recorded (.of image s.settings.order) index before record ∧
          ScopeTree.Renamed before t := by
  obtain ⟨index, before, record, scanned, recorded, -, completed⟩ :=
    exists_recorded_completed built
  exact ⟨index, before, record, scanned, recorded, completed.renamed⟩

end DebugScopes
