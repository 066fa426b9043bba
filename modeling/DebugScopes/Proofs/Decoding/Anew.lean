import DebugScopes.Proofs.Abbreviation.Inquiries
import DebugScopes.Proofs.Decoding.WellFormed

/-!
# Decoding without keeping declarations

The index keeps the declarations that entries have asked for. A decoder that keeps none, and reads
the declaration of each entry anew, builds the same trees, takes the same notes and fails for the
same reasons.

* `Building.Asking.anew`: the way to a declaration that keeps nothing, and `Image.decoderAnew`: the
  decoder that takes it;
* `Mirrors`: what an action does with the index that keeps declarations, another does with the one
  that was scanned;
* `mirrors_unitsBy`: if a way to the declarations mirrors another, all reading with the one mirrors
  that with the other;
* `mirrors_layout`: reading anew mirrors asking the index;
* `declarations_unseen`: whatever asks for a declaration cannot tell whether it was kept.
-/

namespace DebugScopes

open Abbreviation

namespace Building

/-! ### The decoder that keeps nothing -/

/-- The declaration of a code, read anew. -/
def layoutAnew (src : Source) (code : Nat) : Building Declaration := do
  let index := (← get).index
  let place ← within .entryAbbreviation (checked (index.lookup code))
  within .entryDeclaration (MonadExcept.ofExcept (index.table[place].reread src.segment))

section Layout

variable {src : Source} {code : Nat} {p : Progress}

theorem layoutAnew_of_error {damage : Damage} (missing : p.index.lookup code = .error damage) :
    layoutAnew src code p = .error ((Failure.ofDamage damage).through .entryAbbreviation) p := by
  unfold layoutAnew
  rw [bind_of_ok (show (get : Building Progress) p = .ok p p from rfl), missing]
  rfl

/-- What can be read of the declaration is what comes of it. -/
theorem layoutAnew_of_ok {place : Fin p.index.table.size}
    (found : p.index.lookup code = .ok place) :
    layoutAnew src code p = within .entryDeclaration
      (MonadExcept.ofExcept (p.index.table[place].reread src.segment)) p := by
  unfold layoutAnew
  rw [bind_of_ok (show (get : Building Progress) p = .ok p p from rfl), found]
  rfl

theorem layoutAnew_forward (src : Source) (code : Nat) : Forward (layoutAnew src code) := by
  constructor
  intro p p' d run
  cases found : p.index.lookup code with
  | error damage =>
    rw [layoutAnew_of_error found] at run
    cases run
  | ok place =>
    rw [layoutAnew_of_ok found, within_eq_ok] at run
    cases read : p.index.table[place].reread src.segment with
    | ok d =>
      rw [read] at run
      cases run
      exact le_rfl
    | error e =>
      rw [read] at run
      cases run

end Layout

/-- Every declaration is read anew. -/
def Asking.anew (src : Source) : Asking := ⟨layoutAnew src, layoutAnew_forward src⟩

end Building

/-- The tree of a source and the notes that were taken, with no declaration kept. -/
def ScopeTree.decodeAnew (src : Source) (entryPoint : Value) :
    Except Failure ScopeTree × List Notice :=
  Building.outcome
    (Building.programBy (Building.unitsBy (.anew src) src) src entryPoint) (.start src)

/-- Decodes an image without keeping declarations. -/
def Image.decoderAnew (image : Image) : Decoder := fun order entryPoint =>
  ScopeTree.decodeAnew (.of image order) entryPoint

/-! ### Actions on two indices -/

/-- The progress with another index. -/
def Progress.over (p : Progress) (index : Index) : Progress := { p with index := index }

section Mirroring

variable {s : Segment} {index₀ : Index} {α β : Type}

/-- Two results are the same but for the index: one has an index that is faithful to the scanned
one, and the other the scanned one itself. -/
inductive Mirrored (s : Segment) (index₀ : Index) :
    EStateM.Result Failure Progress α → EStateM.Result Failure Progress α → Prop
  | ok (a : α) {after : Progress} (faithful : Index.Faithful s index₀ after.index) :
      Mirrored s index₀ (.ok a after) (.ok a (after.over index₀))
  | error (e : Failure) (after : Progress) :
      Mirrored s index₀ (.error e after) (.error e (after.over index₀))

/-- What one action does with a faithful index, the other does with the scanned one. -/
structure Mirrors (s : Segment) (index₀ : Index) (action action' : Building α) : Prop where
  run : ∀ {p : Progress}, Index.Faithful s index₀ p.index →
    Mirrored s index₀ (action p) (action' (p.over index₀))

theorem Mirrored.eq_ok {result result' : EStateM.Result Failure Progress α} {a : α}
    {after : Progress} (mirrored : Mirrored s index₀ result result') (done : result = .ok a after) :
    result' = .ok a (after.over index₀) ∧ Index.Faithful s index₀ after.index := by
  subst done
  cases mirrored with
  | ok a faithful => exact ⟨rfl, faithful⟩

theorem Mirrored.eq_error {result result' : EStateM.Result Failure Progress α} {e : Failure}
    {after : Progress} (mirrored : Mirrored s index₀ result result')
    (failed : result = .error e after) : result' = .error e (after.over index₀) := by
  subst failed
  cases mirrored
  rfl

namespace Mirrors

theorem pure (a : α) : Mirrors s index₀ (Pure.pure a) (Pure.pure a) :=
  ⟨fun faithful => .ok a faithful⟩

theorem refuse (damage : Damage) :
    Mirrors s index₀ (refuse damage : Building α) (DebugScopes.refuse damage) :=
  ⟨fun {p} _ => .error _ p⟩

theorem bind {action action' : Building α} {next next' : α → Building β}
    (first : Mirrors s index₀ action action') (second : ∀ a, Mirrors s index₀ (next a) (next' a)) :
    Mirrors s index₀ (action >>= next) (action' >>= next') := by
  constructor
  intro p faithful
  have mirrored := first.run faithful
  cases ran : action p with
  | ok a after =>
    obtain ⟨ran', kept⟩ := mirrored.eq_ok ran
    rw [bind_of_ok ran, bind_of_ok ran']
    exact (second a).run kept
  | error e after =>
    rw [bind_of_error ran, bind_of_error (mirrored.eq_error ran)]
    exact .error e after

/-- Looking at the progress, of which the index is not looked at. -/
theorem get_bind {next next' : Progress → Building β}
    (second : ∀ p, Mirrors s index₀ (next p) (next' (p.over index₀))) :
    Mirrors s index₀ (get >>= next) (get >>= next') :=
  ⟨fun {p} faithful => (second p).run faithful⟩

theorem within {step : Step} {action action' : Building α}
    (inner : Mirrors s index₀ action action') :
    Mirrors s index₀ (within step action) (DebugScopes.within step action') := by
  constructor
  intro p faithful
  have mirrored := inner.run faithful
  cases ran : action p with
  | ok a after =>
    obtain ⟨ran', kept⟩ := mirrored.eq_ok ran
    rw [within_eq_ok.2 ran, within_eq_ok.2 ran']
    exact .ok a kept
  | error e after =>
    rw [within_of_error ran, within_of_error (mirrored.eq_error ran)]
    exact .error _ after

end Mirrors

end Mirroring

namespace Building

variable {src : Source} {s : Segment} {index₀ : Index}

/-! ### Actions that do not touch the index -/

theorem mirrors_reading {α : Type} (read : Read α) :
    Mirrors s index₀ (reading read) (reading read) := by
  constructor
  intro p faithful
  unfold reading
  cases ran : read p.pos with
  | ok a pos =>
    have ran' : read (p.over index₀).pos = .ok a pos := ran
    rw [ran']
    exact .ok a faithful
  | error e pos =>
    have ran' : read (p.over index₀).pos = .error e pos := ran
    rw [ran']
    exact .error e _

theorem mirrors_note (n : Notice) : Mirrors s index₀ (note n) (note n) :=
  ⟨fun faithful => .ok () faithful⟩

theorem mirrors_firstSlot (addr : Int) :
    Mirrors s index₀ (firstSlot src addr) (firstSlot src addr) := by
  refine .get_bind fun p => ?_
  have pos : (p.over index₀).pos = p.pos := rfl
  rw [pos]
  cases src.items.slot? p.pos with
  | some slot => exact .pure slot
  | none => exact .refuse _

theorem mirrors_description (subject : Subject) (slot : Nat) (d : Declaration) :
    Mirrors s index₀ (description src subject slot d) (description src subject slot d) := by
  constructor
  intro p faithful
  unfold description
  have pos : (p.over index₀).pos = p.pos := rfl
  rw [pos]
  cases Decode.decodeAll src subject d.attributes ⟨p.pos, slot, .tagged d.tag⟩ with
  | ok u w => exact .ok w.about faithful
  | error e w => exact .error e _

theorem mirrors_noteOpenRange (addr : Int) (d : Description) :
    Mirrors s index₀ (noteOpenRange addr d) (noteOpenRange addr d) := by
  unfold noteOpenRange
  cases d.pending? with
  | some r => exact mirrors_note _
  | none => exact .pure ()

theorem mirrors_settle (frame : Frame) (place : Place) (d : Description) :
    Mirrors s index₀ (settle frame place d) (settle frame place d) :=
  ⟨fun {p} faithful => .ok p.tree.entries.size faithful⟩

theorem mirrors_noteEmpty (start : Int) (found : Bool) :
    Mirrors s index₀ (noteEmpty start found) (noteEmpty start found) := by
  cases found with
  | true => exact .pure ()
  | false => exact mirrors_note _

theorem mirrors_noteLength (start : Int) (header : UnitHeader) :
    Mirrors s index₀ (noteLength start header) (noteLength start header) := by
  refine .get_bind fun p => ?_
  show Mirrors _ _ _ (if p.pos = start + 4 + header.length then pure ()
    else note (.unitLength start header.length p.pos))
  dsimp only
  split
  · exact .pure ()
  · exact mirrors_note _

theorem mirrors_finish (entryPoint : Value) :
    Mirrors s index₀ (finish entryPoint) (finish entryPoint) := by
  refine .get_bind fun p => .bind (mirrors_note _) fun _ => .get_bind fun q => ?_
  show Mirrors _ _ _ (MonadExcept.ofExcept (q.tree.started entryPoint) >>= _)
  refine .bind ?_ fun t => .bind ⟨fun faithful => .ok () faithful⟩ fun _ =>
    ⟨fun faithful => .ok () faithful⟩
  cases q.tree.started entryPoint with
  | ok t => exact .pure t
  | error e => exact ⟨fun {p} _ => .error e p⟩

/-! ### Two ways to the declarations -/

section Ways

variable {asking asking' : Asking}

theorem mirrors_headBy (asked : ∀ code, Mirrors s index₀ (asking.ask code) (asking'.ask code))
    (unit : Int) (frame : Frame) :
    Mirrors s index₀ (headBy asking src unit frame) (headBy asking' src unit frame) := by
  refine .get_bind fun p => ?_
  show Mirrors _ _ _ (if p.pos < src.infoStart ∨ src.abbrevStart ≤ p.pos then _ else _)
  dsimp only
  split
  · exact .refuse _
  · refine .bind (.within (mirrors_reading _)) fun code => ?_
    split
    · exact .pure none
    · exact .bind (mirrors_firstSlot _) fun slot => .bind (asked code) fun d =>
        .bind (mirrors_description ..) fun about => .bind (mirrors_noteOpenRange ..) fun _ =>
          .bind (mirrors_settle ..) fun entry => .pure _

theorem mirrors_belowBy (asked : ∀ code, Mirrors s index₀ (asking.ask code) (asking'.ask code))
    (unit : Int) (stack : List Frame) :
    Mirrors s index₀ (belowBy asking src unit stack) (belowBy asking' src unit stack) := by
  have heads (frame : Frame) := @mirrors_headBy src _ _ _ _ asked unit frame
  constructor
  intro p faithful
  fun_induction belowBy asking src unit stack p with
  | case1 p =>
    rw [belowBy_nil]
    exact .ok () faithful
  | case2 p frame outer e after read =>
    rw [belowBy_cons, ((heads frame).run faithful).eq_error read]
    exact .error _ after
  | case3 p frame outer after read ih =>
    obtain ⟨read', kept⟩ := ((heads frame).run faithful).eq_ok read
    rw [belowBy_cons, read']
    exact ih kept
  | case4 p frame outer opened after read ih =>
    obtain ⟨read', kept⟩ := ((heads frame).run faithful).eq_ok read
    rw [belowBy_cons, read']
    exact ih kept

theorem mirrors_unitEntryBy (asked : ∀ code, Mirrors s index₀ (asking.ask code) (asking'.ask code))
    (start : Int) :
    Mirrors s index₀ (unitEntryBy asking src start) (unitEntryBy asking' src start) := by
  refine .bind (mirrors_headBy asked start .root) fun opened => ?_
  cases opened with
  | none => exact .pure false
  | some opened => exact .bind (mirrors_belowBy asked ..) fun _ => .pure true

theorem mirrors_unitBy (asked : ∀ code, Mirrors s index₀ (asking.ask code) (asking'.ask code)) :
    Mirrors s index₀ (unitBy asking src) (unitBy asking' src) :=
  .get_bind fun p => .bind (.within (mirrors_reading _)) fun _ =>
    .bind (.within (mirrors_unitEntryBy asked p.pos)) fun _ =>
      .bind (mirrors_noteEmpty ..) fun _ => mirrors_noteLength ..

/-- If a way to the declarations mirrors another, so do the units that are read with it. -/
theorem mirrors_unitsBy (asked : ∀ code, Mirrors s index₀ (asking.ask code) (asking'.ask code)) :
    Mirrors s index₀ (unitsBy asking src) (unitsBy asking' src) := by
  have each : Mirrors s index₀ (unitBy asking src) (unitBy asking' src) := mirrors_unitBy asked
  have unfolded (p : Progress) := @unitsBy_eq asking' src (p.over index₀)
  constructor
  intro p faithful
  fun_induction unitsBy asking src p with
  | case1 p more after read ih =>
    obtain ⟨read', kept⟩ := (each.run faithful).eq_ok read
    rw [unfolded, if_pos (show (p.over index₀).pos < _ from more), read']
    exact ih kept
  | case2 p more e after read =>
    rw [unfolded, if_pos (show (p.over index₀).pos < _ from more),
      (each.run faithful).eq_error read]
    exact .error e after
  | case3 p ended =>
    rw [unfolded, if_neg (show ¬ (p.over index₀).pos < _ from ended)]
    exact .ok () faithful

end Ways

/-! ### Reading anew -/

/-- Reading anew mirrors asking an index that keeps what it has read. -/
theorem mirrors_layout (code : Nat) :
    Mirrors src.segment index₀ (layout src code) (layoutAnew src code) := by
  constructor
  intro p faithful
  unfold layout
  cases found : p.index.lookup code with
  | error damage =>
    have missing : index₀.lookup code = .error damage := by
      cases found₀ : index₀.lookup code with
      | error damage₀ => rw [Index.lookup_eq_error found, Index.lookup_eq_error found₀]
      | ok place₀ =>
        obtain ⟨place, -, -, found', -⟩ :=
          Index.lookup_of_rows (fun i => (faithful.row i).symm) found₀
        rw [found] at found'
        cases found'
    rw [layoutAnew_of_error (p := p.over index₀) missing]
    exact .error _ p
  | ok place =>
    obtain ⟨place₀, a, b, found₀, row, row₀, same⟩ := Index.lookup_of_rows faithful.row found
    obtain ⟨inside, rfl⟩ := Array.getElem?_eq_some_iff.1 row₀
    have anew : index₀.table[place₀].reread src.segment = a.reread src.segment := by
      unfold reread
      rw [offset_eq_of_unread same]
      rfl
    have given : layoutAnew src code (p.over index₀) = within .entryDeclaration
        (MonadExcept.ofExcept (index₀.table[place₀].reread src.segment)) (p.over index₀) :=
      layoutAnew_of_ok found₀
    rw [given, anew, reread]
    simp only [faithful.declare_eq row]
    cases read : Declaration.read src.segment a.offset with
    | ok d after => exact .ok d (faithful.keeping row read)
    | error e after => exact .error _ p

end Building

/-- A source is decoded alike, whether declarations are kept or not. -/
theorem ScopeTree.decodeAnew_eq (src : Source) (entryPoint : Value) :
    ScopeTree.decodeAnew src entryPoint = ScopeTree.decode src entryPoint := by
  unfold decodeAnew decode Building.program Building.outcome Building.programBy
  cases ran : Building.table src (.start src) with
  | error e after => rw [bind_of_error ran, bind_of_error ran]
  | ok u p =>
    obtain ⟨index, scanned, rfl⟩ := Building.table_eq_ok.1 ran
    rw [bind_of_ok ran, bind_of_ok ran]
    -- behind the table both decoders have the scanned index, which is faithful to itself
    have mirrored : Mirrored src.segment index
        ((Building.units src >>= fun _ => Building.finish entryPoint) (Building.indexed src index))
        ((Building.unitsBy (.anew src) src >>= fun _ => Building.finish entryPoint)
          (Building.indexed src index)) :=
      (Mirrors.bind (Building.mirrors_unitsBy Building.mirrors_layout) fun _ =>
        Building.mirrors_finish entryPoint).run (p := Building.indexed src index)
          (Index.faithful_scan scanned)
    cases done : (Building.units src >>= fun _ => Building.finish entryPoint)
        (Building.indexed src index) with
    | ok u after =>
      rw [(mirrored.eq_ok done).1]
      rfl
    | error e after =>
      rw [mirrored.eq_error done]
      rfl

/-- **Whether a declaration is kept cannot be told.** Whatever an index that has been scanned is
asked for, in whatever order and through whichever readers of the data, every answer is that of
reading the abbreviation anew, with the reader where it was; what the index keeps in the end is what
could be read of the abbreviations that were asked for, and of the others nothing. And so a session
builds of every image what it would build with each entry's declaration read anew. -/
theorem declarations_unseen :
    (∀ (s : Segment) (start : Int) (index : Index), Index.scan s start = .ok index →
      ∀ inquiries : List Index.Inquiry, index.askAll s inquiries =
        (inquiries.map (index.anew s), index.keepingAt s (inquiries.map (·.place)))) ∧
      ∀ (image : Image) (session : Session),
        Session.build image.decoderAnew session = Session.build image.decoder session := by
  refine ⟨fun s start index scanned => Index.askAll_eq (Index.fresh_scan scanned),
    fun image session => ?_⟩
  have same : image.decoderAnew = image.decoder := by
    funext order entryPoint
    exact ScopeTree.decodeAnew_eq (.of image order) entryPoint
  rw [same]

/-- Two declarations, the second of which goes on behind the end of the data. -/
def brokenTable : Segment :=
  ⟨#[9, 2, 0, 3, 8, 0, 0, 7, 17, 1, 0x81, 0, 0, 0], 14, .ok .little⟩

theorem declarations_unseen_broken :
    let index : Index := ⟨#[⟨9, 0, none⟩, ⟨7, 7, none⟩], 14⟩
    let inquiries : List Index.Inquiry :=
      [⟨.ok .big, -5, 1⟩, ⟨.error .unknownName, 3, 0⟩, ⟨.ok .little, 100, 1⟩, ⟨.ok .big, 7, 0⟩]
    Index.scan brokenTable 0 = .ok index ∧
      index.askAll brokenTable inquiries =
        (inquiries.map (index.anew brokenTable), index.keepingAt brokenTable [1, 0, 1, 0]) ∧
      index.keepingAt brokenTable [1, 0, 1, 0] =
        ⟨#[⟨9, 0, some ⟨2, false, [(3, 8)]⟩⟩, ⟨7, 7, none⟩], 14⟩ ∧
      Session.build methodImage.decoderAnew (.blank true .empty) =
        Session.build methodImage.decoder (.blank true .empty) := by
  intro index inquiries
  have scanned : Index.scan brokenTable 0 = .ok index := by decide +kernel
  exact ⟨scanned, declarations_unseen.1 brokenTable 0 index scanned inquiries,
    by decide +kernel, declarations_unseen.2 methodImage _⟩

end DebugScopes
