import DebugScopes.Proofs.Decoding.Agreement
import DebugScopes.Proofs.Image.Foreseen.Building
import DebugScopes.Proofs.Session.Building

/-!
# Widths that cannot be named

An item can be declared to be so wide that no message can name the width. To say when that matters,
such widths are respelled: the respelled image has another number in their place, one that can be
named and is no item's width. It is decoded like the image, but where the decoding of the image
stops for want of words, the decoding of the respelled one reports the number.

* `Image.respelled`: the image with its unspeakable widths respelled;
* `interchangeable_respelled`: the two are read alike;
* `build_ends`: when the building of a tree fails on anything else than damage.
-/

namespace DebugScopes

open Abbreviation

/-! ### Respelled images -/

/-- The descriptor with another width. -/
def Descriptor.respell (f : Int → Int) (d : Descriptor) : Descriptor := { d with size := f d.size }

/-- The table with other widths. -/
def SymbolTable.respell (f : Int → Int) (t : SymbolTable) : SymbolTable where
  rows := t.rows.map (·.respell f)
  sorted := by
    rw [Array.toList_map, List.pairwise_map]
    exact t.sorted

/-- The number in the place of a width that is unspeakable. -/
def Image.spelling (image : Image) (number width : Int) : Int :=
  if image.unspeakable width then number else width

/-- The image with a number in the place of all widths that are unspeakable. -/
def Image.respelled (image : Image) (number : Int) : Image :=
  { image with symbols := image.symbols.respell (image.spelling number) }

/-- A number that can stand for unspeakable widths: it can be named, no item can be that wide, and
none is declared to be. -/
structure Image.Spells (image : Image) (number : Int) : Prop where
  negative : number < 0
  legible : Numeral.isLegible number
  fresh : ¬ image.Declares number

/-- There is such a number: one of the first negative ones is no item's width. -/
theorem Image.exists_spells {image : Image} (fits : ¬ image.Vast) :
    ∃ number, image.Spells number := by
  by_contra none_spells
  let candidates : List Int :=
    (List.range (image.symbols.size + 1)).map fun i : Nat => -(i + 1 : Int)
  have distinct : candidates.Nodup := by
    refine List.nodup_range.map fun i j same => ?_
    have same : -(i + 1 : Int) = -(j + 1 : Int) := same
    omega
  have declared : candidates ⊆ image.symbols.toList.map (·.size) := by
    intro number mem
    obtain ⟨i, inside, rfl⟩ := List.mem_map.1 mem
    have inside := List.mem_range.1 inside
    by_contra fresh
    refine none_spells ⟨-(i + 1 : Int), by omega, Numeral.isLegible_iff.2 ?_, ?_⟩
    · unfold Image.Vast at fits
      omega
    · rintro ⟨row, there, same⟩
      exact fresh (List.mem_map.2 ⟨row, there, same⟩)
  have bounded := (List.subperm_of_subset distinct declared).length_le
  have size : image.symbols.toList.length = image.symbols.size := rfl
  rw [List.length_map, List.length_range, List.length_map, size] at bounded
  omega

theorem SymbolTable.slots_respell (t : SymbolTable) (f : Int → Int) :
    (t.respell f).slots = t.slots.map (·.respell f) := by
  unfold SymbolTable.slots Slots.map SymbolTable.size SymbolTable.slot? SymbolTable.respell
  congr 1
  · exact Array.size_map
  · funext addr
    rw [Array.findIdx?_map]
    rfl
  · funext slot
    exact Array.getElem?_map

variable {image : Image} {order : ByteOrder} {number : Int}

/-- What stands in a slot of the respelled image. -/
theorem inSlot_respelled (image : Image) (number : Int) (order : Except OrderFault ByteOrder)
    (slot : Int) :
    (∃ row ∈ image.symbols.toList,
        (Source.of image order).items.inSlot slot = .ok (.ofDescriptor row) ∧
        (Source.of (image.respelled number) order).items.inSlot slot =
          .ok (.ofDescriptor (row.respell (image.spelling number)))) ∨
      (Source.of image order).items.inSlot slot = .error (.noSlot slot image.symbols.size) ∧
        (Source.of (image.respelled number) order).items.inSlot slot =
          .error (.noSlot slot image.symbols.size) := by
  have respelled : (image.respelled number).symbols.inSlot slot =
      (image.symbols.inSlot slot).map (·.respell (image.spelling number)) := by
    show (image.symbols.respell (image.spelling number)).slots.inSlot slot = _
    rw [SymbolTable.slots_respell, Slots.inSlot_map]
    rfl
  rw [Source.inSlot_of, Source.inSlot_of, respelled]
  rcases image.symbols.inSlot_cases slot with ⟨row, declared, found⟩ | missing
  · exact .inl ⟨row, declared, by rw [found]; rfl, by rw [found]; rfl⟩
  · exact .inr ⟨by rw [missing]; rfl, by rw [missing]; rfl⟩

/-! ### Decoding respelled images -/

/-- Two failures correspond: they have the same cause, or one lacks the words for what the other
names. -/
def Alike (number : Int) (e e' : Failure) : Prop :=
  e.cause = e'.cause ∨
    e.cause = .illegible ∧ ∃ d, e'.cause = .damage d ∧ d.named? = some number

theorem lasting_alike (number : Int) : Lasting (Alike number) :=
  ⟨fun _ => .inl rfl, fun _ related => related⟩

theorem ofDamage_of_illegible {d : Damage} (illegible : ¬ d.isLegible) :
    (Failure.ofDamage d).cause = .illegible := by
  show (if d.isLegible then Cause.damage d else .illegible) = _
  rw [if_neg illegible]

theorem ofDamage_of_legible {d : Damage} (legible : d.isLegible) :
    (Failure.ofDamage d).cause = .damage d := by
  show (if d.isLegible then Cause.damage d else .illegible) = _
  rw [if_pos legible]

/-- An item cannot be read by a width that is unspeakable, nor by the number in its place. -/
theorem alike_sized {s : Segment} {width : Int} (spells : image.Spells number)
    (unspeakable : image.unspeakable width) :
    Agree (Alike number) (s.sized width) (s.sized number) := by
  obtain ⟨illegible, -⟩ := Bool.and_eq_true_iff.1 unspeakable
  have refused : ∀ {size : Int}, size ≠ 1 → size ≠ 2 → size ≠ 4 → ∀ pos,
      s.sized size pos = .error (.ofDamage (.itemWidth pos size)) pos := by
    intro size one two four pos
    unfold Segment.sized
    rw [if_neg one, if_neg two, if_neg four]
    rfl
  have apart : ∀ {size : Int}, Numeral.isLegible size → width ≠ size := by
    rintro size legible rfl
    rw [legible] at illegible
    cases illegible
  have negative := spells.negative
  refine ⟨fun pos => ?_⟩
  rw [refused (apart rfl) (apart rfl) (apart rfl), refused (by omega) (by omega) (by omega)]
  refine .error (.inr ⟨ofDamage_of_illegible ?_, _, ofDamage_of_legible spells.legible, rfl⟩) pos
  show ¬ Numeral.isLegible width = true
  simpa using illegible

/-- Nor can it be passed over. -/
theorem alike_skip {width : Int} (spells : image.Spells number)
    (unspeakable : image.unspeakable width) :
    Agree (Alike number) ((image.segment (.ok order)).skip width)
      ((image.segment (.ok order)).skip number) := by
  obtain ⟨illegible, outside⟩ := Bool.and_eq_true_iff.1 unspeakable
  have outside : width < 0 ∨ image.length < width := by simpa using outside
  have refused : ∀ {count pos : Int}, pos < 0 ∨ count < 0 ∨ image.length < pos + count →
      (image.segment (.ok order)).skip count pos =
        .error (.ofDamage (.readPastEnd count pos image.length)) pos := by
    intro count pos past
    apply bind_of_error
    unfold Segment.take
    exact if_pos past
  have negative := spells.negative
  refine ⟨fun pos => ?_⟩
  rw [refused (by omega), refused (by omega)]
  refine .error (.inr ⟨ofDamage_of_illegible ?_, _, ofDamage_of_legible spells.legible, rfl⟩) pos
  show ¬ Numeral.isLegible width = true
  simpa using illegible

/-- The image and the respelled one are read alike. -/
theorem interchangeable_respelled (order : ByteOrder) (spells : image.Spells number) :
    Interchangeable (Alike number) (.of image (.ok order))
      (.of (image.respelled number) (.ok order)) := by
  have lasting := lasting_alike number
  refine ⟨rfl, rfl, .refl lasting _, fun _ => .refl lasting _, fun _ => .refl lasting _,
    fun _ => .refl lasting _, ?_, .refl lasting _, ?_, ?_, fun slot => ?_⟩
  · cases scanned : Index.scan (image.segment (.ok order)) image.abbrevStart with
    | ok index => exact .inl ⟨index, scanned, scanned⟩
    | error e => exact .inr ⟨e, e, scanned, scanned, .inl rfl⟩
  · have slots := congrArg Slots.slot?
      (SymbolTable.slots_respell image.symbols (image.spelling number))
    exact slots
  · have count := congrArg Slots.count
      (SymbolTable.slots_respell image.symbols (image.spelling number))
    exact count
  · rcases inSlot_respelled image number (.ok order) slot with ⟨row, -, found, found'⟩ |
      ⟨missing, missing'⟩
    · refine .inr ⟨_, _, found, found', rfl, rfl, ?_⟩
      show Agree (Alike number) ((image.segment (.ok order)).sized row.size)
          ((image.segment (.ok order)).sized (image.spelling number row.size)) ∧
        Agree (Alike number) ((image.segment (.ok order)).skip row.size)
          ((image.segment (.ok order)).skip (image.spelling number row.size))
      unfold Image.spelling
      by_cases unspeakable : image.unspeakable row.size
      · rw [if_pos unspeakable]
        exact ⟨alike_sized spells unspeakable, alike_skip spells unspeakable⟩
      · rw [if_neg unspeakable]
        exact ⟨.refl lasting _, .refl lasting _⟩
    · exact .inl ⟨_, missing, missing'⟩

/-! ### Building trees -/

/-- The respelled image declares no width that is unspeakable. -/
theorem not_unspeakable_respelled {width : Int} (spells : image.Spells number)
    (declared : (image.respelled number).Declares width) :
    ¬ (image.respelled number).unspeakable width := by
  obtain ⟨row, mem, rfl⟩ := declared
  have mem : row ∈ (image.symbols.rows.map (·.respell (image.spelling number))).toList := mem
  rw [Array.toList_map, List.mem_map] at mem
  obtain ⟨old, -, rfl⟩ := mem
  intro unspeakable
  have unspeakable : image.unspeakable (image.spelling number old.size) = true := unspeakable
  unfold Image.spelling at unspeakable
  split at unspeakable
  · have := (Bool.and_eq_true_iff.1 unspeakable).1
    rw [spells.legible] at this
    cases this
  · contradiction

/-- The decoding of an image wants for words: that of the respelled image reports the number, or the
entry point is missing and its name cannot be shown. -/
def Wordless (image : Image) (order : Except OrderFault ByteOrder) (entryPoint : Value)
    (number : Int) : Prop :=
  (∃ e d, ((image.respelled number).decoder order entryPoint).1 = .error e ∧
      e.cause = .damage d ∧ d.named? = some number) ∨
    entryPoint.shown? = none ∧ Startless (.of image order) entryPoint

section Failed

variable {entryPoint : Value} {e : Failure}

/-- Where the decoding of an image fails, so does that of the respelled one. -/
theorem exists_alike (spells : image.Spells number)
    (failed : (image.decoder (.ok order) entryPoint).1 = .error e) :
    ∃ e', ((image.respelled number).decoder (.ok order) entryPoint).1 = .error e' ∧
      Alike number e e' := by
  have same := interchangeable_respelled order spells
  have failed : (ScopeTree.decode (.of image (.ok order)) entryPoint).1 = .error e := failed
  rcases (same.decode (lasting_alike number) entryPoint).1 with
    ⟨t, found, -⟩ | ⟨e₀, e', failed₀, failed', related⟩
  · rw [found] at failed
    cases failed
  · obtain rfl : e₀ = e := Except.error.inj (failed₀.symm.trans failed)
    exact ⟨e', failed', related⟩

/-- A message cannot be worded if words are wanted. -/
theorem illegible_of_wordless (spells : image.Spells number)
    (failed : (image.decoder (.ok order) entryPoint).1 = .error e)
    (wordless : Wordless image (.ok order) entryPoint number) : e.cause = .illegible := by
  rcases wordless with ⟨e'', d, reported, caused, named⟩ | ⟨unshown, startless⟩
  · obtain ⟨e', failed', related⟩ := exists_alike spells failed
    obtain rfl : e' = e'' := Except.error.inj (failed'.symm.trans reported)
    rcases related with equal | ⟨illegible, -⟩
    · -- the number is no item's width, so the image itself does not report it
      rcases foreseen_decode failed with foreseen | ⟨name, -, missing⟩ | ⟨illegible, -⟩
      · rw [equal, caused] at foreseen
        cases foreseen with
        | damage plain owed =>
          rcases owed number named with positive | declared
          · exact absurd positive (Int.not_le.2 spells.negative)
          · exact absurd declared spells.fresh
      · rw [equal, caused] at missing
        cases missing
        cases named
      · exact illegible
    · exact illegible
  · obtain rfl : e = .ofCause .illegible :=
      Except.error.inj (failed.symm.trans (startless.decode unshown))
    rfl

/-- Words are wanted if a message cannot be worded, unless the image is vast. -/
theorem wordless_of_illegible (spells : image.Spells number)
    (failed : (image.decoder (.ok order) entryPoint).1 = .error e)
    (illegible : e.cause = .illegible) :
    Wordless image (.ok order) entryPoint number ∨ image.Vast := by
  have same := interchangeable_respelled order spells
  obtain ⟨e', failed', related⟩ := exists_alike spells failed
  rcases related with equal | ⟨-, d, caused, named⟩
  · rcases foreseen_decode failed' with
      foreseen | ⟨name, -, absent⟩ | ⟨-, unshown, index, p, scanned, read, missing⟩
    · rw [← equal, illegible] at foreseen
      cases foreseen with
      | unspeakable declared unspeakable =>
        exact absurd unspeakable (not_unspeakable_respelled spells declared)
      | vast vast =>
        apply Or.inr
        have size : (image.respelled number).symbols.size = image.symbols.size := Array.size_map
        unfold Image.Vast at vast ⊢
        rw [← size]
        exact vast
    · rw [← equal, illegible] at absent
      cases absent
    · refine .inl (.inr ⟨unshown, index, p, scanned, ?_, missing⟩)
      exact ((same.units (lasting_alike number)).run _).eq_ok_left read
  · exact .inl (.inl ⟨e', d, failed', caused, named⟩)

end Failed

theorem Foreseen.told {cause : Cause} (foreseen : Foreseen image cause) :
    (∃ d, cause = .damage d) ∨ cause = .illegible := by
  cases foreseen with
  | damage plain named => exact .inl ⟨_, rfl⟩
  | unspeakable declared unspeakable => exact .inr rfl
  | vast vast => exact .inr rfl

/-- How the building of a tree ends: with the tree, which is then the session's, or without one,
because of damage or for want of words. -/
inductive Ends (image : Image) (s : Session) : Prop
  | built {t : ScopeTree} {s' : Session} (run : Session.build image.decoder s = .ok t s')
      (kept : s'.tree = some t)
  | failed {e : Failure} {s' : Session}
      (run : Session.build image.decoder s = .error (.decoding e) s')
      (gone : s'.tree = none) (damaged : (∃ d, e.cause = .damage d) ∨ e.cause = .illegible)
      (spelled : ¬ image.Vast → ∃ number, image.Spells number)
      (wordless : ∀ number, image.Spells number →
        (Wordless image s.settings.order s.settings.entryPoint number → e.cause = .illegible) ∧
          (e.cause = .illegible →
            Wordless image s.settings.order s.settings.entryPoint number ∨ image.Vast))

/-- Whatever an image holds, building its tree in either byte order ends with the tree or fails on
damage, unless words are wanted for a number in the message. -/
theorem build_ends {s : Session}
    (ordered : s.settings.byteOrder = .text "little" ∨ s.settings.byteOrder = .text "big")
    (graphless : s.settings.graphFile = .null) : Ends image s := by
  obtain ⟨order, known⟩ : ∃ order, s.settings.order = .ok order := by
    rcases ordered with little | big
    · exact ⟨.little, by rw [Settings.order, little]; rfl⟩
    · exact ⟨.big, by rw [Settings.order, big]; rfl⟩
  cases decoded : image.decoder s.settings.order s.settings.entryPoint with
  | mk result notices =>
    cases result with
    | ok t =>
      obtain ⟨s', built⟩ := Session.build_of_ok decoded graphless
      exact .built built (Session.decode_of_build built).2
    | error e =>
      obtain ⟨s', failed, gone⟩ := Session.build_of_error decoded
      have undecoded : (image.decoder (.ok order) s.settings.entryPoint).1 = .error e := by
        rw [← known, decoded]
      refine .failed failed gone ?_ Image.exists_spells fun number spells => known ▸
        ⟨illegible_of_wordless spells undecoded, wordless_of_illegible spells undecoded⟩
      rcases foreseen_decode undecoded with foreseen | ⟨name, -, missing⟩ | ⟨illegible, -⟩
      · exact foreseen.told
      · exact .inl ⟨_, missing⟩
      · exact .inr illegible

/-- An image whose only item is declared to be wider than any message can tell. -/
def wideImage : Image :=
  .ofParts
    #[0x09, 0, 0, 0, 2, 0, 0, 0, 0, 0, 4, 1, 7,
      1, 0x11, 0, 0x3a, 0xb, 0, 0, 0]
    (.ofList [⟨12, 2 ^ 14800 - 1⟩]) 0 13 none

/-- The cause for which no tree was decoded. -/
def decodeCause? : Except Failure ScopeTree → Option Cause
  | .error e => some e.cause
  | .ok _ => none

/-- The cause for which no tree was decoded, where a build failed on that. -/
def buildCause? : EStateM.Result Session.Fault Session ScopeTree → Option Cause
  | .error (.decoding e) _ => some e.cause
  | _ => none

/-- Words are wanted for the wide item, and so the build fails. -/
theorem build_ends_wide :
    wideImage.Spells (-1) ∧ Wordless wideImage (.ok .little) (.text "main") (-1) ∧
      (Session.blank true .empty).settings.byteOrder = .text "little" ∧
        (Session.blank true .empty).settings.graphFile = .null ∧
          Ends wideImage (.blank true .empty) := by
  refine ⟨⟨by decide, by decide +kernel, ?_⟩, .inl ?_, rfl, rfl, build_ends (.inl rfl) rfl⟩
  · show ¬ ∃ row ∈ wideImage.symbols.toList, row.size = -1
    decide +kernel
  · have cause : decodeCause? ((wideImage.respelled (-1)).decoder (.ok .little) (.text "main")).1 =
        some (.damage (.readPastEnd (-1) 12 21)) := by decide +kernel
    cases failed : ((wideImage.respelled (-1)).decoder (.ok .little) (.text "main")).1 with
    | ok t =>
      rw [failed] at cause
      cases cause
    | error e =>
      rw [failed] at cause
      exact ⟨e, _, rfl, Option.some.inj cause, rfl⟩

/-- A build can fail on something else than damage. -/
theorem wide_not_damage :
    ¬ ∀ (image : Image) (s : Session),
      (s.settings.byteOrder = .text "little" ∨ s.settings.byteOrder = .text "big") →
        s.settings.graphFile = .null →
          (∃ t s', Session.build image.decoder s = .ok t s' ∧ s'.tree = some t) ∨
            ∃ e s', Session.build image.decoder s = .error (.decoding e) s' ∧ s'.tree = none ∧
              ∃ d, e.cause = .damage d := by
  intro confined
  have cause : buildCause? (Session.build wideImage.decoder (.blank true .empty)) =
      some .illegible := by decide +kernel
  rcases confined wideImage (.blank true .empty) (.inl rfl) rfl with ⟨t, s', run, -⟩ |
    ⟨e, s', run, -, d, damaged⟩
  · rw [run] at cause
    cases cause
  · rw [run] at cause
    have cause : some e.cause = some .illegible := cause
    rw [damaged] at cause
    cases cause

end DebugScopes
