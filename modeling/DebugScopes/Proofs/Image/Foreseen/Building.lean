import DebugScopes.Proofs.Decoding.Nesting
import DebugScopes.Proofs.Image.Foreseen.Attributes

/-!
# How the decoding of an image fails

Entries, units and whole images fail only for causes that are foreseen. In the end there is one
more: that no entry has the name of the entry point, which is whatever the settings say, and may be
such that it cannot be shown.

* `foreseen_head`: one entry;
* `foreseen_units`: all units;
* `foreseen_decode`: everything.
-/

namespace DebugScopes

section Building

variable {image : Image} {order : ByteOrder}

/-! ### Entries and units -/

open Building Abbreviation

variable {index : Index} {unit : Int} {frame : Frame}

/-- The index stands for the table of the image. -/
def Indexed (image : Image) (order : ByteOrder) (index : Index) (p : Progress) : Prop :=
  Index.Faithful (image.segment (.ok order)) index p.index

/-- The position is inside the data as well. -/
def Inside (image : Image) (order : ByteOrder) (index : Index) (p : Progress) : Prop :=
  0 ≤ p.pos ∧ p.pos ≤ image.length ∧ Indexed image order index p

theorem foreseen_reading {α : Type} {read : Read α} (fails : FailsForeseen image read)
    {V : α → Int → Prop} (given : ∀ {pos a after}, read pos = .ok a after → V a after) :
    Triple (Indexed image order index) (Building.reading read)
      (fun a p => V a p.pos ∧ Indexed image order index p) (Foreseen image) := by
  constructor
  · intro p a p' faithful run
    obtain ⟨pos, ran, rfl⟩ := reading_eq_ok.1 run
    exact ⟨given ran, faithful⟩
  · intro p e p' _ run
    simp only [Building.reading] at run
    cases ran : read p.pos with
    | ok b after => rw [ran] at run; cases run
    | error e' after =>
      rw [ran] at run
      cases run
      exact fails.error trivial ran

theorem foreseen_firstSlot {addr : Int} {P : Progress → Prop} :
    Triple P (firstSlot (.of image (.ok order)) addr)
      (fun slot p => slot < image.symbols.size ∧ P p) (Foreseen image) := by
  constructor
  · intro p slot p' holds run
    obtain ⟨found, rfl⟩ := firstSlot_eq_ok.1 run
    obtain ⟨inside, -⟩ := Array.findIdx?_eq_some_iff_getElem.1 found
    exact ⟨inside, holds⟩
  · intro p e p' _ run
    unfold firstSlot at run
    rcases bind_eq_error run with ran | ⟨q, _, got, run⟩
    · cases ran
    · cases got
      cases found : (Source.of image (.ok order)).items.slot? p.pos with
      | some slot => rw [found] at run; cases run
      | none =>
        rw [found] at run
        cases run
        exact foreseen_of_unnamed rfl rfl rfl

theorem foreseen_layout {code : Nat} (small : code < 256) :
    Triple (Inside image order index) (layout (.of image (.ok order)) code)
      (fun d p => (d.attributes.length : Int) ≤ image.length ∧ Inside image order index p)
      (Foreseen image) := by
  constructor
  · rintro p d p' ⟨positive, ahead, faithful⟩ run
    obtain ⟨place, index', found, given, rfl⟩ := layout_eq_ok.1 run
    obtain ⟨⟨i, a, after, first, read⟩, faithful'⟩ := faithful.declare_eq_ok found given
    exact ⟨Declaration.attributes_length_le read, positive, ahead, faithful'⟩
  · rintro p e p' ⟨-, -, faithful⟩ run
    unfold layout at run
    cases found : p.index.lookup code with
    | error damage =>
      rw [found] at run
      cases run
      unfold Index.lookup at found
      split at found
      · cases found
      · cases found
        exact foreseen_of_unnamed (Numeral.isLegible_of_lt (by omega)) rfl rfl
    | ok place =>
      rw [found] at run
      obtain ⟨a, there⟩ := Index.lookup_eq_ok.1 found
      have declare := faithful.declare_eq there.row
      cases read : Declaration.read (image.segment (.ok order)) a.offset with
      | ok d after =>
        rw [read] at declare
        have given : p.index.declare (Source.of image (.ok order)).segment place = _ := declare
        simp only [given] at run
        cases run
      | error e' after =>
        rw [read] at declare
        have refused : p.index.declare (Source.of image (.ok order)).segment place = _ := declare
        simp only [refused] at run
        cases run
        show Foreseen image e'.cause
        exact foreseen_declaration.error trivial read

theorem foreseen_description {subject : Subject} {slot : Nat} {d : Declaration}
    (inside : slot < image.symbols.size) (short : (d.attributes.length : Int) ≤ image.length) :
    Triple (Inside image order index)
      (description (.of image (.ok order)) subject slot d)
      (fun _ => Indexed image order index) (Foreseen image) := by
  have whole := image.length_le
  have decodes := fun pos : Int => @foreseen_decodeAll image order (slot - pos) subject d.attributes
  constructor
  · rintro p about p' ⟨-, -, faithful⟩ run
    obtain ⟨w, -, -, rfl⟩ := description_eq_ok.1 run
    exact faithful
  · rintro p e p' ⟨positive, ahead, -⟩ run
    unfold description at run
    cases ran : Decode.decodeAll (.of image (.ok order)) subject d.attributes
        ⟨p.pos, slot, .tagged d.tag⟩ with
    | ok u w => rw [ran] at run; cases run
    | error e' w =>
      rw [ran] at run
      cases run
      refine (decodes p.pos ?_).error ⟨?_, ?_, ahead⟩ ran
      · omega
      · exact Int.natCast_nonneg slot
      · show (slot : Int) ≤ p.pos + (slot - p.pos)
        omega

theorem foreseen_noteOpenRange {addr : Int} {about : Description} :
    Triple (Indexed image order index) (noteOpenRange addr about)
      (fun _ => Indexed image order index) (Foreseen image) := by
  constructor
  · intro p u p' faithful run
    rw [noteOpenRange_eq] at run
    cases run
    exact faithful
  · intro p e p' _ run
    rw [noteOpenRange_eq] at run
    cases run

theorem foreseen_settle {place : Place} {about : Description} :
    Triple (Indexed image order index) (settle frame place about)
      (fun _ => Indexed image order index) (Foreseen image) := by
  constructor
  · intro p entry p' faithful run
    cases run
    exact faithful
  · intro p e p' _ run
    cases run

/-- Reading an entry fails only for causes that are foreseen. -/
theorem foreseen_head :
    Triple (Indexed image order index) (head (.of image (.ok order)) unit frame)
      (fun _ => Indexed image order index) (Foreseen image) := by
  unfold head headBy
  refine .bind (Triple.get.weaken (fun _ => id) fun _ _ => And.right) fun before => ?_
  dsimp only
  split
  · exact .refuse (foreseen_of_unnamed rfl rfl rfl)
  · refine .bind (.within ((foreseen_reading (V := fun code after =>
      code < 256 ∧ 0 ≤ after ∧ after ≤ image.length) foreseen_byte fun read => ?_).weaken
        (fun _ => id) fun _ _ => id)) fun code => ?_
    · have moved := Segment.byte_ok read
      obtain ⟨rfl, positive, short⟩ := moved
      have short : _ < image.length := short
      exact ⟨Segment.byte_lt read, by omega, by omega⟩
    · split
      · exact .pure fun p ⟨_, faithful⟩ => faithful
      · refine .of_fact (fun _ => fun ⟨⟨small, _⟩, _⟩ => small) fun small => ?_
        refine .bind (foreseen_firstSlot.weaken (fun _ => id) fun _ _ => id) fun slot => ?_
        refine .of_fact (fun _ => And.left) fun inside => ?_
        refine .bind ((foreseen_layout small).weaken (fun p =>
          fun ⟨_, ⟨_, positive, short⟩, faithful⟩ => ⟨positive, short, faithful⟩) fun _ _ => id)
            fun d => ?_
        refine .of_fact (fun _ => And.left) fun short => ?_
        refine .bind ((foreseen_description inside short).weaken (fun _ => And.right) fun _ _ => id)
          fun about => ?_
        exact .bind foreseen_noteOpenRange fun _ => .bind foreseen_settle fun entry =>
          .pure fun _ => id

theorem foreseen_below (stack : List Frame) :
    Triple (Indexed image order index) (below (.of image (.ok order)) unit stack)
      (fun _ => Indexed image order index) (Foreseen image) := by
  constructor
  · intro p u p' faithful run
    unfold below at run
    fun_induction belowBy (.keeping (.of image (.ok order))) (.of image (.ok order)) unit stack p
    with
    | case1 => cases run; exact faithful
    | case2 => cases run
    | case3 p frame outer after read ih => exact ih (foreseen_head.ok faithful read) run
    | case4 p frame outer opened after read ih => exact ih (foreseen_head.ok faithful read) run
  · intro p e p' faithful run
    unfold below at run
    fun_induction belowBy (.keeping (.of image (.ok order))) (.of image (.ok order)) unit stack p
    with
    | case1 => cases run
    | case2 p frame outer e after read =>
      cases run
      show Foreseen image e.cause
      exact foreseen_head.error faithful read
    | case3 p frame outer after read ih => exact ih (foreseen_head.ok faithful read) run
    | case4 p frame outer opened after read ih => exact ih (foreseen_head.ok faithful read) run

theorem foreseen_header :
    FailsForeseen image (UnitHeader.read (image.segment (.ok order))) := by
  unfold UnitHeader.read Segment.word Segment.half
  refine .bind (.within (foreseen_number 4 (by decide))) fun length => .bind (Triple.also
    (V := fun version => version < 2 ^ 64) (.within (foreseen_number 2 (by decide))) fun read => ?_)
      fun version => .of_fact (fun _ => And.left) fun small => ?_
  · have := Segment.number_lt (within_eq_ok.1 read)
    omega
  · split
    · refine .bind ((Triple.within (foreseen_number 4 (by decide))).weaken (fun _ _ => trivial)
        fun _ _ => id) fun _ => .bind (Triple.also (V := fun width => width < 2 ^ 64)
          (.within foreseen_byte) fun read => ?_) fun width =>
            .of_fact (fun _ => And.left) fun narrow => ?_
      · have := Segment.byte_lt (within_eq_ok.1 read)
        omega
      · split
        · exact .pure fun _ _ => trivial
        · exact .refuse (foreseen_of_unnamed (Numeral.isLegible_of_lt narrow) rfl rfl)
    · exact .bind (Triple.get.weaken (fun _ => id) fun _ _ => And.right) fun _ =>
        .refuse (foreseen_of_unnamed (Numeral.isLegible_of_lt small) rfl rfl)

theorem foreseen_unit :
    Triple (Indexed image order index) (Building.unit (.of image (.ok order)))
      (fun _ => Indexed image order index) (Foreseen image) := by
  unfold Building.unit unitBy
  refine .bind (Triple.get.weaken (fun _ => id) fun _ _ => And.right) fun before => ?_
  refine .bind (.within ((foreseen_reading (V := fun _ _ => True) foreseen_header
    fun _ => trivial).weaken (fun _ => id) fun _ _ => And.right)) fun header => ?_
  refine .bind (Q := fun _ => Indexed image order index) (.within ?_) fun found =>
    .bind (Q := fun _ => Indexed image order index) ⟨?_, ?_⟩ fun _ => ⟨?_, ?_⟩
  · unfold unitEntryBy
    refine .bind foreseen_head fun opened => ?_
    cases opened with
    | none => exact .pure fun _ => id
    | some opened => exact .bind (foreseen_below _) fun _ => .pure fun _ => id
  · intro p u p' faithful run
    rw [noteEmpty_eq] at run
    cases run
    exact faithful
  · intro p e p' _ run
    rw [noteEmpty_eq] at run
    cases run
  · intro p u p' faithful run
    rw [noteLength_eq] at run
    cases run
    exact faithful
  · intro p e p' _ run
    rw [noteLength_eq] at run
    cases run

/-- Reading the units fails only for causes that are foreseen. -/
theorem foreseen_units :
    Triple (Indexed image order index) (units (.of image (.ok order)))
      (fun _ => Indexed image order index) (Foreseen image) := by
  constructor
  · intro p u p' faithful run
    unfold units at run
    fun_induction unitsBy (.keeping (.of image (.ok order))) (.of image (.ok order)) p with
    | case1 p more after read ih => exact ih (foreseen_unit.ok faithful read) run
    | case2 => cases run
    | case3 => cases run; exact faithful
  · intro p e p' faithful run
    unfold units at run
    fun_induction unitsBy (.keeping (.of image (.ok order))) (.of image (.ok order)) p with
    | case1 p more after read ih => exact ih (foreseen_unit.ok faithful read) run
    | case2 p more e after read =>
      cases run
      exact foreseen_unit.error faithful read
    | case3 => cases run

/-! ### Everything -/

/-- All units can be read, and no entry is the start of the program. -/
def Startless (src : Source) (entryPoint : Value) : Prop :=
  ∃ index p, Index.scan src.segment src.abbrevStart = .ok index ∧
    units src (indexed src index) = .ok () p ∧ p.tree.start? entryPoint = none

theorem scan_of_table_error {src : Source} {e : Failure} {p p' : Progress}
    (failed : table src p = .error e p') :
    ∃ e', Index.scan src.segment src.abbrevStart = .error e' ∧ e.cause = e'.cause := by
  rcases bind_eq_error failed with ran | ⟨index, _, _, run⟩
  · obtain ⟨e', ran, same⟩ := within_eq_error ran
    refine ⟨e', ?_, same⟩
    cases scanned : Index.scan src.segment src.abbrevStart with
    | ok index => rw [scanned] at ran; cases ran
    | error e'' =>
      rw [scanned] at ran
      cases ran
      rfl
  · cases run

theorem started_of_finish_error {entryPoint : Value} {e : Failure} {p p' : Progress}
    (failed : finish entryPoint p = .error e p') : p.tree.started entryPoint = .error e := by
  rcases bind_eq_error failed with got | ⟨_, _, got, run⟩
  · cases got
  cases got
  rcases bind_eq_error run with noted | ⟨_, _, noted, run⟩
  · cases noted
  cases noted
  rcases bind_eq_error run with got | ⟨_, _, got, run⟩
  · cases got
  cases got
  rcases bind_eq_error run with ran | ⟨_, _, _, run⟩
  · cases begun : p.tree.started entryPoint with
    | ok t => rw [begun] at ran; cases ran
    | error e' =>
      rw [begun] at ran
      cases ran
      rfl
  · cases run

/-- A name of a missing entry point that cannot be shown cannot be reported either. -/
theorem Startless.decode {src : Source} {entryPoint : Value} (startless : Startless src entryPoint)
    (unshown : entryPoint.shown? = none) :
    (ScopeTree.decode src entryPoint).1 = .error (.ofCause .illegible) := by
  obtain ⟨index, p, scanned, read, missing⟩ := startless
  have begun : p.tree.started entryPoint = .error (.ofCause .illegible) := by
    unfold ScopeTree.started
    rw [missing, unshown]
  let noted : Progress :=
    { p with notices := p.notices.push (.decoded p.tree.units.length p.tree.size) }
  have finished : finish entryPoint p = .error (.ofCause .illegible) noted := by
    have got : ∀ q : Progress, (get : Building Progress) q = .ok q q := fun _ => rfl
    have note : Building.note (.decoded p.tree.units.length p.tree.size) p = .ok () noted := rfl
    have undone : (MonadExcept.ofExcept (p.tree.started entryPoint) : Building ScopeTree) noted =
        .error (.ofCause .illegible) noted := by
      rw [begun]
      rfl
    unfold finish
    rw [bind_of_ok (got p), bind_of_ok note]
    unfold references
    rw [bind_of_ok (got noted)]
    exact bind_of_error undone
  have run : program src entryPoint (.start src) = .error (.ofCause .illegible) noted := by
    unfold program programBy
    rw [bind_of_ok (table_eq_ok.2 ⟨index, scanned, rfl⟩), bind_of_ok read]
    exact finished
  rw [ScopeTree.decode, outcome, run]

/-- Decoding fails only for causes that are foreseen, or for want of an entry point, which the
message names if it can be shown. -/
theorem foreseen_decode {entryPoint : Value} {e : Failure}
    (failed : (ScopeTree.decode (.of image (.ok order)) entryPoint).1 = .error e) :
    Foreseen image e.cause ∨
      (∃ name, entryPoint.shown? = some name ∧ e.cause = .damage (.noEntryPoint name)) ∨
      e.cause = .illegible ∧ entryPoint.shown? = none ∧
        Startless (.of image (.ok order)) entryPoint := by
  unfold ScopeTree.decode outcome at failed
  cases run : program (.of image (.ok order)) entryPoint (.start (.of image (.ok order))) with
  | ok u p => rw [run] at failed; cases failed
  | error e' p =>
    rw [run] at failed
    cases failed
    rcases bind_eq_error run with ran | ⟨_, p₀, ran, run⟩
    · obtain ⟨e', scanned, same⟩ := scan_of_table_error ran
      exact .inl (same ▸ foreseen_scan scanned)
    · obtain ⟨index, scanned, rfl⟩ := table_eq_ok.1 ran
      have faithful : Indexed image order index (indexed (.of image (.ok order)) index) :=
        Index.faithful_scan scanned
      rcases bind_eq_error run with ran | ⟨_, p₁, ran, run⟩
      · exact .inl (foreseen_units.error faithful ran)
      · have begun := started_of_finish_error run
        unfold ScopeTree.started at begun
        split at begun
        · cases begun
        · next name _ shown =>
          cases begun
          exact .inr (.inl ⟨name, shown, rfl⟩)
        · next startless unshown =>
          cases begun
          exact .inr (.inr ⟨rfl, unshown, index, p₁, scanned, ran, startless⟩)

end Building

end DebugScopes
