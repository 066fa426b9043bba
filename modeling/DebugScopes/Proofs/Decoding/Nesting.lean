import DebugScopes.Proofs.Decoding.Step

/-!
# Runs of the decoder that succeed

The decoder reads the entries of a unit one after the other and keeps a stack of the entries whose
children have not ended. A run that succeeds is nested all the same: `Below` is the reading of all
children of one entry, up to the zero behind them. Properties of decoded trees are proved by
induction on `Below` and on `Units`, the reading of all units.

* `Building.below_eq_ok`: what the stack does is `Below` for each frame on it;
* `Building.unit_eq_ok` and `Building.units_eq_ok`: units, one and all;
* `Building.program_eq_ok`: everything.
-/

namespace DebugScopes.Building

variable {src : Source}

/-! ### The children of an entry -/

/-- All children of the frame's entry are read, with all that is below them. -/
inductive Below (src : Source) (unit : Int) : Frame → Progress → Progress → Prop
  /-- A zero ends the children. -/
  | close {frame : Frame} {p p' : Progress} (ended : head src unit frame p = .ok none p') :
      Below src unit frame p p'
  /-- A child that cannot have children, and the children behind it. -/
  | leaf {frame : Frame} {p p₁ p' : Progress} {opened : Opened}
      (read : head src unit frame p = .ok (some opened) p₁) (childless : opened.hasChildren = false)
      (rest : Below src unit frame p₁ p') : Below src unit frame p p'
  /-- A child with its children, and the children behind it. -/
  | nest {frame : Frame} {p p₁ p₂ p' : Progress} {opened : Opened}
      (read : head src unit frame p = .ok (some opened) p₁) (parent : opened.hasChildren = true)
      (inner : Below src unit opened.frame p₁ p₂) (rest : Below src unit frame p₂ p') :
      Below src unit frame p p'

/-- The innermost frame of the stack is read to its end before the one around it goes on. -/
theorem below_of_below {unit : Int} {frame : Frame} {p p₁ : Progress}
    (inner : Below src unit frame p p₁) (outer : List Frame) :
    below src unit (frame :: outer) p = below src unit outer p₁ := by
  induction inner generalizing outer with
  | close ended => rw [below_cons, ended]
  | leaf read childless rest ih =>
    rw [below_cons, read]
    simp only [childless, Bool.false_eq_true, if_false]
    exact ih outer
  | nest read parent inner rest ihInner ihRest =>
    rw [below_cons, read]
    simp only [parent, if_true]
    rw [ihInner, ihRest]

/-- A stack that is read to its end: the innermost frame first, the others from where it ends. -/
inductive AllBelow (src : Source) (unit : Int) : List Frame → Progress → Progress → Prop
  | nil {p : Progress} : AllBelow src unit [] p p
  | cons {frame : Frame} {outer : List Frame} {p p₁ p' : Progress}
      (inner : Below src unit frame p p₁) (rest : AllBelow src unit outer p₁ p') :
      AllBelow src unit (frame :: outer) p p'

theorem allBelow_of_below_ok {unit : Int} {stack : List Frame} {p p' : Progress}
    (run : below src unit stack p = .ok () p') : AllBelow src unit stack p p' := by
  unfold below at run
  fun_induction belowBy (.keeping src) src unit stack p with
  | case1 => cases run; exact .nil
  | case2 => cases run
  | case3 p frame outer after read ih => exact .cons (.close read) (ih run)
  | case4 p frame outer opened after read ih =>
    have rest := ih run
    by_cases parent : opened.hasChildren
    · rw [dif_pos parent] at rest
      obtain - | ⟨inner, rest⟩ := rest
      obtain - | ⟨around, rest⟩ := rest
      exact .cons (.nest read parent inner around) rest
    · rw [dif_neg parent] at rest
      obtain - | ⟨around, rest⟩ := rest
      exact .cons (.leaf read (by simpa using parent) around) rest

/-- The children of one entry are read exactly if the stack that holds it alone is. -/
theorem below_eq_ok {unit : Int} {frame : Frame} {p p' : Progress} :
    below src unit [frame] p = .ok () p' ↔ Below src unit frame p p' := by
  constructor
  · intro run
    obtain - | ⟨inner, rest⟩ := allBelow_of_below_ok run
    cases rest
    exact inner
  · intro inner
    rw [below_of_below inner, below_nil]

/-! ### Units -/

/-- The entry of a unit is read, with all that is below it; a zero in the place of its code stands
for no entry. -/
inductive UnitBody (src : Source) (start : Int) : Progress → Bool → Progress → Prop
  | empty {p p' : Progress} (ended : head src start .root p = .ok none p') :
      UnitBody src start p false p'
  | leaf {p p' : Progress} {opened : Opened} (read : head src start .root p = .ok (some opened) p')
      (childless : opened.hasChildren = false) : UnitBody src start p true p'
  | nest {p p₁ p' : Progress} {opened : Opened}
      (read : head src start .root p = .ok (some opened) p₁) (parent : opened.hasChildren = true)
      (inner : Below src start opened.frame p₁ p') : UnitBody src start p true p'

theorem unitEntry_eq_ok {start : Int} {p p' : Progress} {found : Bool} :
    unitEntry src start p = .ok found p' ↔ UnitBody src start p found p' := by
  unfold unitEntry unitEntryBy
  rw [bind_eq_ok]
  constructor
  · rintro ⟨opened, between, read, run⟩
    cases opened with
    | none => cases run; exact .empty read
    | some opened =>
      obtain ⟨_, last, run, done⟩ := bind_eq_ok.1 run
      cases done
      by_cases parent : opened.hasChildren
      · rw [if_pos parent] at run
        exact .nest read parent (below_eq_ok.1 run)
      · rw [if_neg parent, belowBy_nil] at run
        cases run
        exact .leaf read (by simpa using parent)
  · intro body
    cases body with
    | empty ended => exact ⟨none, _, ended, rfl⟩
    | leaf read childless =>
      refine ⟨_, _, read, bind_eq_ok.2 ⟨(), _, ?_, rfl⟩⟩
      rw [childless, if_neg Bool.false_ne_true, belowBy_nil]
    | nest read parent inner =>
      refine ⟨_, _, read, bind_eq_ok.2 ⟨(), _, ?_, rfl⟩⟩
      rw [if_pos parent]
      exact below_eq_ok.2 inner

/-- The notes on a unit: that it has no entry, and that its entries do not end where they should. -/
def unitNotices (start : Int) (header : UnitHeader) (found : Bool) (stop : Int) : List Notice :=
  (if found then [] else [.emptyUnit start]) ++
    (if stop = start + 4 + header.length then [] else [.unitLength start header.length stop])

theorem noteEmpty_eq (start : Int) (found : Bool) (p : Progress) :
    noteEmpty start found p =
      .ok () { p with
        notices := p.notices ++ (if found then [] else [.emptyUnit start]).toArray } := by
  cases found with
  | true => simp [noteEmpty, Pure.pure, EStateM.pure]
  | false => rfl

theorem noteLength_eq (start : Int) (header : UnitHeader) (p : Progress) :
    noteLength start header p =
      .ok () { p with notices := p.notices ++ (if p.pos = start + 4 + header.length then []
        else [.unitLength start header.length p.pos]).toArray } := by
  show (if p.pos = start + 4 + header.length then (Pure.pure () : Building Unit)
    else note (.unitLength start header.length p.pos)) p = _
  split
  · simp [Pure.pure, EStateM.pure]
  · rfl

/-- A unit has been read: its header, its entries, and the notes on it. -/
structure UnitRead (src : Source) (p : Progress) (header : UnitHeader) (found : Bool)
    (last p' : Progress) : Prop where
  headed : UnitHeader.read src.segment p.pos = .ok header (p.pos + 11)
  body : UnitBody src p.pos { p with pos := p.pos + 11 } found last
  noted : p' = { last with
    notices := last.notices ++ (unitNotices p.pos header found last.pos).toArray }

theorem unit_eq_ok {p p' : Progress} :
    unit src p = .ok () p' ↔ ∃ header found last, UnitRead src p header found last p' := by
  unfold unit unitBy
  rw [bind_eq_ok]
  constructor
  · rintro ⟨_, _, got, run⟩
    cases got
    obtain ⟨header, between, ran, run⟩ := bind_eq_ok.1 run
    obtain ⟨pos, headed, rfl⟩ := reading_eq_ok.1 (within_eq_ok.1 ran)
    obtain ⟨rfl, -, -⟩ := UnitHeader.read_ok headed
    obtain ⟨found, last, ran, run⟩ := bind_eq_ok.1 run
    have body := unitEntry_eq_ok.1 (within_eq_ok.1 ran)
    obtain ⟨_, noted, ran, run⟩ := bind_eq_ok.1 run
    rw [noteEmpty_eq] at ran
    cases ran
    rw [noteLength_eq] at run
    cases run
    refine ⟨header, found, last, headed, body, ?_⟩
    simp only [unitNotices, ← List.append_toArray, Array.append_assoc]
  · rintro ⟨header, found, last, headed, body, rfl⟩
    refine ⟨p, p, rfl, bind_eq_ok.2 ⟨header, _, within_eq_ok.2 (reading_eq_ok.2
      ⟨_, headed, rfl⟩), bind_eq_ok.2 ⟨found, last, within_eq_ok.2 (unitEntry_eq_ok.2 body),
        bind_eq_ok.2 ⟨(), _, noteEmpty_eq .., ?_⟩⟩⟩⟩
    rw [noteLength_eq]
    simp only [unitNotices, ← List.append_toArray, Array.append_assoc]

/-- Units are read until the section ends. -/
inductive Units (src : Source) : Progress → Progress → Prop
  | done {p : Progress} (ended : src.abbrevStart ≤ p.pos) : Units src p p
  | next {p last p₁ p' : Progress} {header : UnitHeader} {found : Bool}
      (more : p.pos < src.abbrevStart) (read : UnitRead src p header found last p₁)
      (rest : Units src p₁ p') : Units src p p'

theorem units_eq_ok {p p' : Progress} : units src p = .ok () p' ↔ Units src p p' := by
  constructor
  · intro run
    unfold units at run
    fun_induction unitsBy (.keeping src) src p with
    | case1 p more after read ih =>
      obtain ⟨header, found, last, read⟩ := unit_eq_ok.1 read
      exact .next more read (ih run)
    | case2 => cases run
    | case3 p ended => cases run; exact .done (by omega)
  · intro all
    induction all with
    | done ended => rw [units_eq, if_neg (by omega)]
    | next more read rest ih =>
      rw [units_eq, if_pos more, unit_eq_ok.2 ⟨_, _, _, read⟩]
      exact ih

/-! ### Everything -/

/-- The table has been indexed, and no unit has been read. -/
def indexed (src : Source) (index : Abbreviation.Index) : Progress :=
  ⟨src.infoStart, index, .empty, (tableNotices (some src.abbrevStart) index).toArray⟩

theorem table_eq_ok {p : Progress} :
    table src (.start src) = .ok () p ↔
      ∃ index, Abbreviation.Index.scan src.segment src.abbrevStart = .ok index ∧
        p = indexed src index := by
  unfold table tableNoting
  rw [bind_eq_ok]
  constructor
  · rintro ⟨index, between, ran, run⟩
    have ran := within_eq_ok.1 ran
    cases scanned : Abbreviation.Index.scan src.segment src.abbrevStart with
    | error e => rw [scanned] at ran; cases ran
    | ok found =>
      rw [scanned] at ran
      cases ran
      cases run
      exact ⟨index, rfl, by simp [indexed, Progress.start]⟩
  · rintro ⟨index, scanned, rfl⟩
    refine ⟨index, .start src, within_eq_ok.2 (by rw [scanned]), bind_eq_ok.2 ⟨(), _, rfl, ?_⟩⟩
    show EStateM.Result.ok _ _ = _
    simp [indexed, Progress.start]

/-- The tree in which the references are followed and the program starts at an entry, with the notes
on references that lead nowhere. -/
def completed (p : Progress) (start : Nat) : Progress :=
  let (t, notices) := (p.tree.startingAt start).complete
  { p with
    tree := t
    notices := (p.notices.push (.decoded p.tree.units.length p.tree.size)).append notices.toArray }

theorem started_eq_ok {t t' : ScopeTree} {entryPoint : Value} :
    t.started entryPoint = .ok t' ↔ ∃ i, t.start? entryPoint = some i ∧ t' = t.startingAt i := by
  unfold ScopeTree.started
  cases t.start? entryPoint with
  | some i =>
    constructor
    · intro found
      cases found
      exact ⟨i, rfl, rfl⟩
    · rintro ⟨_, same, rfl⟩
      cases same
      rfl
  | none =>
    cases entryPoint.shown? with
    | some _ => exact ⟨nofun, nofun⟩
    | none => exact ⟨nofun, nofun⟩

theorem finish_eq_ok {entryPoint : Value} {p p' : Progress} :
    finish entryPoint p = .ok () p' ↔
      ∃ i, p.tree.start? entryPoint = some i ∧ p' = completed p i := by
  unfold finish
  rw [bind_eq_ok]
  constructor
  · rintro ⟨_, _, got, run⟩
    cases got
    obtain ⟨_, _, noted, run⟩ := bind_eq_ok.1 run
    cases noted
    unfold references at run
    obtain ⟨_, _, got, run⟩ := bind_eq_ok.1 run
    cases got
    obtain ⟨t, _, started, run⟩ := bind_eq_ok.1 run
    cases begun : p.tree.started entryPoint with
    | error e => rw [begun] at started; cases started
    | ok t' =>
      rw [begun] at started
      cases started
      obtain ⟨i, found, rfl⟩ := started_eq_ok.1 begun
      cases run
      exact ⟨i, found, rfl⟩
  · rintro ⟨i, found, rfl⟩
    have started := started_eq_ok.2 ⟨i, found, rfl⟩
    let noted : Progress :=
      { p with notices := p.notices.push (.decoded p.tree.units.length p.tree.size) }
    refine ⟨p, p, rfl, bind_eq_ok.2 ⟨(), noted, rfl, ?_⟩⟩
    unfold references
    refine bind_eq_ok.2 ⟨noted, noted, rfl, bind_eq_ok.2 ⟨p.tree.startingAt i, noted, ?_, rfl⟩⟩
    show (MonadExcept.ofExcept (p.tree.started entryPoint) : Building ScopeTree) _ = _
    rw [started]
    rfl

theorem program_eq_ok {entryPoint : Value} {p' : Progress} :
    program src entryPoint (.start src) = .ok () p' ↔
      ∃ index p i, Abbreviation.Index.scan src.segment src.abbrevStart = .ok index ∧
        Units src (indexed src index) p ∧ p.tree.start? entryPoint = some i ∧
          p' = completed p i := by
  unfold program programBy
  rw [bind_eq_ok]
  constructor
  · rintro ⟨_, _, ran, run⟩
    obtain ⟨index, scanned, rfl⟩ := table_eq_ok.1 ran
    obtain ⟨_, p, ran, run⟩ := bind_eq_ok.1 run
    obtain ⟨i, found, rfl⟩ := finish_eq_ok.1 run
    exact ⟨index, p, i, scanned, units_eq_ok.1 ran, found, rfl⟩
  · rintro ⟨index, p, i, scanned, all, found, rfl⟩
    exact ⟨(), _, table_eq_ok.2 ⟨index, scanned, rfl⟩, bind_eq_ok.2 ⟨(), p, units_eq_ok.2 all,
      finish_eq_ok.2 ⟨i, found, rfl⟩⟩⟩

/-- A tree has been decoded: the table was indexed, all units were read, and the entry point was
found. -/
theorem decode_eq_ok {entryPoint : Value} {t : ScopeTree} :
    (ScopeTree.decode src entryPoint).1 = .ok t ↔
      ∃ index p i, Abbreviation.Index.scan src.segment src.abbrevStart = .ok index ∧
        Units src (indexed src index) p ∧ p.tree.start? entryPoint = some i ∧
          t = (p.tree.startingAt i).complete.1 := by
  unfold ScopeTree.decode outcome
  cases ran : program src entryPoint (.start src) with
  | ok u p' =>
    obtain ⟨index, p, i, scanned, all, found, rfl⟩ := program_eq_ok.1 ran
    constructor
    · intro same
      cases same
      exact ⟨index, p, i, scanned, all, found, rfl⟩
    · rintro ⟨index', q, j, scanned', all', found', rfl⟩
      have again := program_eq_ok.2 ⟨index', q, j, scanned', all', found', rfl⟩
      rw [ran] at again
      injection again with _ same
      rw [same]
      rfl
  | error e p' =>
    refine ⟨nofun, fun ⟨index, p, i, scanned, all, found, _⟩ => ?_⟩
    have again := program_eq_ok.2 ⟨index, p, i, scanned, all, found, rfl⟩
    rw [ran] at again
    cases again

/-- Finding the start and following the references, of whatever tree there is by then. -/
theorem outcome_finish (entryPoint : Value) (p : Progress) :
    outcome (finish entryPoint) p =
      ((p.tree.started entryPoint).map (·.complete.1),
        (p.notices.push (.decoded p.tree.units.length p.tree.size)).toList ++
          match p.tree.started entryPoint with
          | .ok t => t.complete.2
          | .error _ => []) := by
  let noted : Progress :=
    { p with notices := p.notices.push (.decoded p.tree.units.length p.tree.size) }
  have run : finish entryPoint p = references entryPoint noted := rfl
  have got : (get : Building Progress) noted = .ok noted noted := rfl
  cases begun : p.tree.started entryPoint with
  | ok t =>
    have started : (MonadExcept.ofExcept (p.tree.started entryPoint) : Building ScopeTree) noted =
        .ok t noted := by
      rw [begun]
      rfl
    have done : finish entryPoint p = .ok () { noted with
        tree := t.complete.1
        notices := noted.notices ++ t.complete.2.toArray } := by
      rw [run, references, bind_of_ok got, bind_of_ok started]
      rfl
    rw [outcome, done]
    dsimp only
    rw [Array.toList_append]
    rfl
  | error e =>
    have started : (MonadExcept.ofExcept (p.tree.started entryPoint) : Building ScopeTree) noted =
        .error e noted := by
      rw [begun]
      rfl
    have failed : finish entryPoint p = .error e noted := by
      rw [run, references, bind_of_ok got]
      exact bind_of_error started
    rw [outcome, failed]
    exact Prod.ext rfl (List.append_nil _).symm

/-- If all units can be read, what is left is to finish. -/
theorem decode_of_units_ok {index : Abbreviation.Index} {p : Progress} {entryPoint : Value}
    (scanned : Abbreviation.Index.scan src.segment src.abbrevStart = .ok index)
    (read : units src (indexed src index) = .ok () p) :
    ScopeTree.decode src entryPoint = outcome (finish entryPoint) p := by
  have run : program src entryPoint (.start src) = finish entryPoint p := by
    unfold program programBy
    rw [bind_of_ok (table_eq_ok.2 ⟨index, scanned, rfl⟩)]
    exact bind_of_ok read
  rw [ScopeTree.decode, outcome, run, outcome]

/-- If a unit cannot be read, there is no tree. -/
theorem decode_of_units_error {index : Abbreviation.Index} {e : Failure} {p : Progress}
    {entryPoint : Value}
    (scanned : Abbreviation.Index.scan src.segment src.abbrevStart = .ok index)
    (failed : units src (indexed src index) = .error e p) :
    ScopeTree.decode src entryPoint = (.error e, p.notices.toList) := by
  have run : program src entryPoint (.start src) = .error e p := by
    unfold program programBy
    rw [bind_of_ok (table_eq_ok.2 ⟨index, scanned, rfl⟩)]
    exact bind_of_error failed
  rw [ScopeTree.decode, outcome, run]

/-- A tree without entries has no start. -/
theorem start?_empty (entryPoint : Value) : ScopeTree.empty.start? entryPoint = none := by
  unfold ScopeTree.start? ScopeTree.listing
  rfl

end DebugScopes.Building
