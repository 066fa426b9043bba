import DebugScopes.Proofs.Decoding.Nesting

/-!
# Decoding two sources

Two sources may differ and still be decoded alike: the same values, the same positions and notes,
and failures that correspond. `Agree` is that of two actions, for a relation between failures, and
every way in which the decoder puts actions together keeps it.

* `Interchangeable`: the reads of two sources agree;
* `Interchangeable.head` and `Interchangeable.units`: entries and units are then read alike;
* `Interchangeable.decode`: and so is everything.
-/

namespace DebugScopes

/-! ### Actions that agree -/

section Agreement

variable {σ α β : Type} {R : Failure → Failure → Prop}

/-- Two results agree: the same value in the same state, or failures that correspond. -/
inductive Matches (R : Failure → Failure → Prop) :
    EStateM.Result Failure σ α → EStateM.Result Failure σ α → Prop
  | ok (a : α) (after : σ) : Matches R (.ok a after) (.ok a after)
  | error {e e' : Failure} (related : R e e') (after : σ) :
      Matches R (.error e after) (.error e' after)

/-- Two actions agree wherever they start. -/
structure Agree (R : Failure → Failure → Prop) (action action' : EStateM Failure σ α) : Prop where
  run : ∀ before, Matches R (action before) (action' before)

/-- What is asked of a relation between failures: that it relates each to itself, and goes on to
hold as failures pass steps. -/
structure Lasting (R : Failure → Failure → Prop) : Prop where
  refl : ∀ e, R e e
  through : ∀ {e e'} (step : Step), R e e' → R (e.through step) (e'.through step)

theorem Lasting.throughEntries (lasting : Lasting R) {e e' : Failure} (related : R e e')
    (entries : Nat) : R (e.throughEntries entries) (e'.throughEntries entries) := by
  induction entries with
  | zero => exact related
  | succ entries ih => exact lasting.through .childEntry ih

theorem Matches.elim {result result' : EStateM.Result Failure σ α}
    (same : Matches R result result') :
    (∃ a after, result = .ok a after ∧ result' = .ok a after) ∨
      ∃ e e' after, result = .error e after ∧ result' = .error e' after ∧ R e e' := by
  cases same with
  | ok a after => exact .inl ⟨a, after, rfl, rfl⟩
  | error related after => exact .inr ⟨_, _, after, rfl, rfl, related⟩

theorem Matches.eq_ok {result result' : EStateM.Result Failure σ α} {a : α} {after : σ}
    (same : Matches R result result') (done : result = .ok a after) : result' = .ok a after := by
  subst done
  cases same
  rfl

theorem Matches.eq_ok_left {result result' : EStateM.Result Failure σ α} {a : α} {after : σ}
    (same : Matches R result result') (done : result' = .ok a after) : result = .ok a after := by
  subst done
  cases same
  rfl

theorem Matches.eq_error {result result' : EStateM.Result Failure σ α} {e : Failure} {after : σ}
    (same : Matches R result result') (failed : result = .error e after) :
    ∃ e', result' = .error e' after ∧ R e e' := by
  subst failed
  cases same with
  | error related => exact ⟨_, rfl, related⟩

theorem Matches.refl (lasting : Lasting R) (result : EStateM.Result Failure σ α) :
    Matches R result result := by
  cases result with
  | ok a after => exact .ok a after
  | error e after => exact .error (lasting.refl e) after

namespace Agree

theorem refl (lasting : Lasting R) (action : EStateM Failure σ α) : Agree R action action :=
  ⟨fun before => .refl lasting (action before)⟩

theorem bind {action action' : EStateM Failure σ α} {next next' : α → EStateM Failure σ β}
    (first : Agree R action action') (second : ∀ a, Agree R (next a) (next' a)) :
    Agree R (action >>= next) (action' >>= next') := by
  constructor
  intro before
  rcases (first.run before).elim with ⟨a, after, ran, ran'⟩ | ⟨e, e', after, ran, ran', related⟩
  · rw [bind_of_ok ran, bind_of_ok ran']
    exact (second a).run after
  · rw [bind_of_error ran, bind_of_error ran']
    exact .error related after

theorem within (lasting : Lasting R) {step : Step} {action action' : EStateM Failure σ α}
    (inner : Agree R action action') : Agree R (within step action) (within step action') := by
  constructor
  intro before
  rcases (inner.run before).elim with ⟨a, after, ran, ran'⟩ | ⟨e, e', after, ran, ran', related⟩
  · rw [DebugScopes.within, DebugScopes.within, ran, ran']
    exact .ok a after
  · rw [DebugScopes.within, DebugScopes.within, ran, ran']
    exact .error (lasting.through step related) after

end Agree

end Agreement

/-! ### Sources that agree -/

/-- The reads of two sources agree. -/
structure Interchangeable (R : Failure → Failure → Prop) (src src' : Source) : Prop where
  infoStart : src'.infoStart = src.infoStart
  abbrevStart : src'.abbrevStart = src.abbrevStart
  byte : Agree R src.segment.byte src'.segment.byte
  number : ∀ count, Agree R (src.segment.number count) (src'.segment.number count)
  skip : ∀ count, Agree R (src.segment.skip count) (src'.segment.skip count)
  text : ∀ addr, Agree R (MonadExcept.ofExcept (src.textAt addr) : Decode String)
    (MonadExcept.ofExcept (src'.textAt addr))
  scan : (∃ index, Abbreviation.Index.scan src.segment src.abbrevStart = .ok index ∧
      Abbreviation.Index.scan src'.segment src.abbrevStart = .ok index) ∨
    ∃ e e', Abbreviation.Index.scan src.segment src.abbrevStart = .error e ∧
      Abbreviation.Index.scan src'.segment src.abbrevStart = .error e' ∧ R e e'
  declaration : Agree R (Declaration.read src.segment) (Declaration.read src'.segment)
  slot? : src'.items.slot? = src.items.slot?
  count : src'.items.count = src.items.count
  item : ∀ slot, (∃ damage, src.items.inSlot slot = .error damage ∧
      src'.items.inSlot slot = .error damage) ∨
    ∃ there there', src.items.inSlot slot = .ok there ∧ src'.items.inSlot slot = .ok there' ∧
      there'.addr = there.addr ∧ src'.oddAddress there' = src.oddAddress there ∧
      Agree R (src.segment.sizedBy there.size) (src'.segment.sizedBy there'.size) ∧
      Agree R (src.segment.skipBy there.size) (src'.segment.skipBy there'.size)

namespace Interchangeable

variable {R : Failure → Failure → Prop} {src src' : Source}

/-! ### Attributes -/

theorem reading {α : Type} {read read' : Read α} (same : Agree R read read') :
    Agree R (Decode.reading read) (Decode.reading read') := by
  constructor
  intro w
  rcases (same.run w.pos).elim with ⟨a, after, ran, ran'⟩ | ⟨e, e', after, ran, ran', related⟩
  · simp only [Decode.reading, ran, ran']
    exact .ok _ _
  · simp only [Decode.reading, ran, ran']
    exact .error related _

theorem elsewhere {α : Type} {read read' : Read α} (same : Agree R read read') (addr : Int) :
    Agree R (Decode.elsewhere addr read) (Decode.elsewhere addr read') := by
  constructor
  intro w
  rcases (same.run addr).elim with ⟨a, after, ran, ran'⟩ | ⟨e, e', after, ran, ran', related⟩
  · simp only [Decode.elsewhere, ran, ran']
    exact .ok _ _
  · simp only [Decode.elsewhere, ran, ran']
    exact .error related _

theorem buildingReading {α : Type} {read read' : Read α} (agree : Agree R read read') :
    Agree R (Building.reading read) (Building.reading read') := by
  constructor
  intro p
  rcases (agree.run p.pos).elim with ⟨a, after, ran, ran'⟩ | ⟨e, e', after, ran, ran', related⟩
  · simp only [Building.reading, ran, ran']
    exact .ok _ _
  · simp only [Building.reading, ran, ran']
    exact .error related _

variable (same : Interchangeable R src src') (lasting : Lasting R)

include same lasting

theorem sized (size : Int) :
    Agree R (src.segment.sized size) (src'.segment.sized size) := by
  unfold Segment.sized Segment.half Segment.word
  split
  · exact .within lasting same.byte
  · split
    · exact .within lasting (same.number 2)
    · split
      · exact .within lasting (same.number 4)
      · exact .refl lasting _

theorem value (entry attr form : Int) :
    Agree R (Decode.value src entry attr form) (Decode.value src' entry attr form) := by
  unfold Decode.value
  cases Dwarf.Form.width? form with
  | none => exact .refl lasting _
  | some width => exact reading (.within lasting (same.sized lasting width))

/-- What goes on with the item in a slot goes on alike in both sources. -/
theorem checked_bind {α : Type} {slot : Int} {next next' : Item → Decode α}
    (goesOn : ∀ there there', there'.addr = there.addr →
      src'.oddAddress there' = src.oddAddress there →
      Agree R (src.segment.sizedBy there.size) (src'.segment.sizedBy there'.size) →
      Agree R (src.segment.skipBy there.size) (src'.segment.skipBy there'.size) →
      Agree R (next there) (next' there')) :
    Agree R (checked (src.items.inSlot slot) >>= next)
      (checked (src'.items.inSlot slot) >>= next') := by
  rcases same.item slot with ⟨damage, found, found'⟩ |
    ⟨there, there', found, found', addr, odd, sized, skipped⟩
  · rw [found, found']
    exact ⟨fun w => .error (lasting.refl _) w⟩
  · rw [found, found']
    exact goesOn there there' addr odd sized skipped

/-- The same with the item in the slot of the cursor. -/
theorem item_bind {α : Type} {step : Step} {next next' : Item → Decode α}
    (goesOn : ∀ there there',
      Agree R (src.segment.sizedBy there.size) (src'.segment.sizedBy there'.size) →
      Agree R (src.segment.skipBy there.size) (src'.segment.skipBy there'.size) →
      Agree R (next there) (next' there')) :
    Agree R (within step (Decode.item src) >>= next)
      (within step (Decode.item src') >>= next') := by
  constructor
  intro w
  have given : ∀ {source : Source} {there : Item}, source.items.inSlot w.slot = .ok there →
      within step (Decode.item source) w = .ok there w := by
    intro source there found
    apply within_eq_ok.2
    show (checked (source.items.inSlot w.slot) : Decode Item) w = _
    rw [found]
    rfl
  have refused : ∀ {source : Source} {damage : Damage},
      source.items.inSlot w.slot = .error damage →
        within step (Decode.item source) w = .error ((Failure.ofDamage damage).through step) w := by
    intro source damage found
    have ran : Decode.item source w = .error (.ofDamage damage) w := by
      show (checked (source.items.inSlot w.slot) : Decode Item) w = _
      rw [found]
      rfl
    rw [within, ran]
  rcases same.item w.slot with ⟨damage, found, found'⟩ |
    ⟨there, there', found, found', -, -, sized, skipped⟩
  · rw [bind_of_error (refused found), bind_of_error (refused found')]
    exact .error (lasting.refl _) w
  · rw [bind_of_ok (given found), bind_of_ok (given found')]
    exact (goesOn there there' sized skipped).run w

theorem bound (slot : Nat) : Agree R (Decode.bound src slot) (Decode.bound src' slot) := by
  refine same.checked_bind lasting fun there there' addr odd sized _ => ?_
  rw [addr, odd]
  cases there.addr.int? with
  | none => exact .refl lasting _
  | some addr => exact elsewhere (.within lasting sized) addr

theorem rangesFrom (entry list base : Int) (slot : Nat) :
    Agree R (Decode.rangesFrom src entry list base slot)
      (Decode.rangesFrom src' entry list base slot) := by
  fun_induction Decode.rangesFrom src entry list base slot with
  | case1 slot ended =>
    rw [Decode.rangesFrom, dif_pos (same.count ▸ ended)]
    exact .refl lasting _
  | case2 slot more ih =>
    rw [Decode.rangesFrom.eq_def src' entry list base slot, dif_neg (same.count ▸ more)]
    refine .bind (same.bound lasting slot) fun low =>
      .bind (same.bound lasting (slot + 1)) fun high => ?_
    split
    · exact .refl lasting _
    · exact .bind (.refl lasting _) fun _ => ih

theorem takeIn (subject : Subject) (attr form : Int) :
    Agree R (Decode.takeIn src subject attr form) (Decode.takeIn src' subject attr form) := by
  unfold Decode.takeIn
  have value := same.value lasting subject.addr attr form
  cases Dwarf.Attribute.role attr with
  | name =>
    dsimp only
    split
    · exact .refl lasting _
    · exact .bind (.within lasting value) fun addr =>
        .bind (.within lasting (same.text addr)) fun _ => .refl lasting _
  | lowPc =>
    refine .bind (.refl lasting _) fun w => ?_
    split
    · exact .refl lasting _
    · exact .bind (.within lasting value) fun _ => .refl lasting _
  | highPc =>
    refine .bind (.refl lasting _) fun w => ?_
    cases w.about.pending? with
    | none => exact .refl lasting _
    | some pending => exact .bind (.within lasting value) fun _ => .refl lasting _
  | ranges =>
    refine .bind (.within lasting value) fun list => ?_
    have slotOf : src'.items.slotOf list = src.items.slotOf list := by
      unfold Slots.slotOf
      rw [same.slot?]
    rw [slotOf]
    exact .bind (.refl lasting _) fun slot => same.rangesFrom lasting ..
  | reference =>
    dsimp only
    cases Dwarf.Form.referenceBase? form with
    | none => exact .refl lasting _
    | some origin =>
      rw [same.infoStart]
      exact .bind (.within lasting value) fun _ => .refl lasting _
  | absent => exact .refl lasting _
  | other => exact .refl lasting _

theorem stepOver (attr form : Int) :
    Agree R (Decode.stepOver src attr form) (Decode.stepOver src' attr form) := by
  refine .bind ?_ fun _ => .refl lasting _
  unfold Decode.stepData
  cases (Dwarf.Form.advance form).skipped with
  | block =>
    exact same.item_bind lasting fun there there' sized _ =>
      .bind (.within lasting (reading sized)) fun length =>
        .bind (reading (same.skip length)) fun _ => .refl lasting _
  | item =>
    dsimp only
    split
    · exact same.item_bind lasting fun there there' _ skipped => reading skipped
    · exact .refl lasting _
  | nothing => exact .refl lasting _

/-- Attributes are decoded alike. -/
theorem decodeAll (subject : Subject) (attributes : List (Nat × Nat)) :
    Agree R (Decode.decodeAll src subject attributes)
      (Decode.decodeAll src' subject attributes) := by
  induction attributes with
  | nil => exact .refl lasting _
  | cons first rest ih =>
    refine .bind ?_ fun _ => ih
    unfold Decode.decode
    split
    · exact .refl lasting _
    · exact .bind (same.takeIn lasting ..) fun _ => same.stepOver lasting ..

/-! ### Entries -/

omit lasting in
theorem declareOne (a : Abbreviation) :
    (∃ given, Abbreviation.Index.declareOne src.segment a = .ok given ∧
      Abbreviation.Index.declareOne src'.segment a = .ok given) ∨
    ∃ e e', Abbreviation.Index.declareOne src.segment a = .error e ∧
      Abbreviation.Index.declareOne src'.segment a = .error e' ∧ R e e' := by
  unfold Abbreviation.Index.declareOne
  cases a.declaration with
  | some d => exact .inl ⟨_, rfl, rfl⟩
  | none =>
    rcases (same.declaration.run a.offset).elim with ⟨d, after, ran, ran'⟩ |
      ⟨e, e', after, ran, ran', related⟩
    · rw [ran, ran']
      exact .inl ⟨_, rfl, rfl⟩
    · rw [ran, ran']
      exact .inr ⟨e, e', rfl, rfl, related⟩

theorem layout (code : Nat) : Agree R (Building.layout src code) (Building.layout src' code) := by
  constructor
  intro p
  unfold Building.layout Abbreviation.Index.declare
  cases p.index.lookup code with
  | error damage => exact .refl lasting _
  | ok place =>
    rcases same.declareOne p.index.table[place] with ⟨given, ran, ran'⟩ |
      ⟨e, e', ran, ran', related⟩
    · simp only [ran, ran']
      exact .ok _ _
    · simp only [ran, ran']
      exact .error (lasting.through _ related) p

theorem description (subject : Subject) (slot : Nat) (d : Declaration) :
    Agree R (Building.description src subject slot d)
      (Building.description src' subject slot d) := by
  constructor
  intro p
  unfold Building.description
  rcases ((same.decodeAll lasting subject d.attributes).run ⟨p.pos, slot, .tagged d.tag⟩).elim with
    ⟨u, w, ran, ran'⟩ | ⟨e, e', w, ran, ran', related⟩
  · rw [ran, ran']
    exact .ok _ _
  · rw [ran, ran']
    exact .error related _

/-- Entries are read alike. -/
theorem head (unit : Int) (frame : Frame) :
    Agree R (Building.head src unit frame) (Building.head src' unit frame) := by
  unfold Building.head Building.headBy Building.firstSlot
  rw [same.infoStart, same.abbrevStart, same.slot?]
  refine .bind (.refl lasting _) fun p => ?_
  dsimp only
  split
  · exact .refl lasting _
  · refine .bind (.within lasting (buildingReading same.byte)) fun code => ?_
    split
    · exact .refl lasting _
    · exact .bind (.refl lasting _) fun slot => .bind (same.layout lasting code) fun d =>
        .bind (same.description lasting ..) fun about => .refl lasting _

/-- What one source gives at a head, the other gives as well. -/
theorem head_eq_ok {unit : Int} {frame : Frame} {p after : Progress} {opened : Option Opened}
    (read : Building.head src unit frame p = .ok opened after) :
    Building.head src' unit frame p = .ok opened after :=
  ((same.head lasting unit frame).run p).eq_ok read

theorem below (unit : Int) (stack : List Frame) :
    Agree R (Building.below src unit stack) (Building.below src' unit stack) := by
  constructor
  intro p
  show Matches R (Building.belowBy (.keeping src) src unit stack p)
    (Building.below src' unit stack p)
  fun_induction Building.belowBy (.keeping src) src unit stack p with
  | case1 p =>
    rw [Building.below_nil]
    exact .ok () p
  | case2 p frame outer e after read =>
    rw [Building.below_cons]
    obtain ⟨e', ran', related⟩ := ((same.head lasting unit frame).run p).eq_error read
    rw [ran']
    exact .error (lasting.throughEntries related _) _
  | case3 p frame outer after read ih =>
    rw [Building.below_cons, same.head_eq_ok lasting read]
    exact ih
  | case4 p frame outer opened after read ih =>
    rw [Building.below_cons, same.head_eq_ok lasting read]
    exact ih

theorem unitEntry (start : Int) :
    Agree R (Building.unitEntry src start) (Building.unitEntry src' start) := by
  refine .bind (same.head lasting start .root) fun opened => ?_
  cases opened with
  | none => exact .refl lasting _
  | some opened => exact .bind (same.below lasting ..) fun _ => .refl lasting _

/-! ### Units -/

theorem header : Agree R (UnitHeader.read src.segment) (UnitHeader.read src'.segment) := by
  unfold UnitHeader.read Segment.word Segment.half
  refine .bind (.within lasting (same.number 4)) fun length =>
    .bind (.within lasting (same.number 2)) fun version => ?_
  split
  · exact .bind (.within lasting (same.number 4)) fun _ =>
      .bind (.within lasting same.byte) fun width => .refl lasting _
  · exact .refl lasting _

/-- Units are read alike. -/
theorem unit : Agree R (Building.unit src) (Building.unit src') := by
  unfold Building.unit Building.unitBy
  exact .bind (.refl lasting _) fun p =>
    .bind (.within lasting (buildingReading (same.header lasting))) fun header =>
      .bind (.within lasting (same.unitEntry lasting _)) fun found => .refl lasting _

theorem units : Agree R (Building.units src) (Building.units src') := by
  have abbrevStart := same.abbrevStart
  have unfolded (p : Progress) := @Building.units_eq src' p
  constructor
  intro p
  show Matches R (Building.unitsBy (.keeping src) src p) (Building.units src' p)
  fun_induction Building.unitsBy (.keeping src) src p with
  | case1 p more after read ih =>
    rw [unfolded p, if_pos (abbrevStart ▸ more), ((same.unit lasting).run p).eq_ok read]
    exact ih
  | case2 p more e after read =>
    obtain ⟨e', ran', related⟩ := ((same.unit lasting).run p).eq_error read
    rw [unfolded p, if_pos (abbrevStart ▸ more), ran']
    exact .error related _
  | case3 p ended =>
    rw [unfolded p, if_neg (abbrevStart ▸ ended)]
    exact .ok () p

/-! ### Everything -/

theorem table : Agree R (Building.table src) (Building.table src') := by
  unfold Building.table Building.tableNoting
  rw [same.abbrevStart]
  refine .bind (.within lasting ⟨fun p => ?_⟩) fun index => .refl lasting _
  rcases same.scan with ⟨index, scanned, scanned'⟩ | ⟨e, e', scanned, scanned', related⟩
  · rw [scanned, scanned']
    exact .ok index p
  · rw [scanned, scanned']
    exact .error related p

/-- Two sources whose reads agree give the same tree, or failures that correspond, and the same
notes. -/
theorem decode (entryPoint : Value) :
    ((∃ t, (ScopeTree.decode src entryPoint).1 = .ok t ∧
        (ScopeTree.decode src' entryPoint).1 = .ok t) ∨
      ∃ e e', (ScopeTree.decode src entryPoint).1 = .error e ∧
        (ScopeTree.decode src' entryPoint).1 = .error e' ∧ R e e') ∧
      (ScopeTree.decode src' entryPoint).2 = (ScopeTree.decode src entryPoint).2 := by
  have program : Agree R (Building.program src entryPoint) (Building.program src' entryPoint) :=
    .bind (same.table lasting) fun _ => .bind (same.units lasting) fun _ => .refl lasting _
  have start : Progress.start src' = .start src := by
    rw [Progress.start, Progress.start, same.infoStart, same.abbrevStart]
  unfold ScopeTree.decode Building.outcome
  rw [start]
  rcases (program.run (.start src)).elim with ⟨u, p, ran, ran'⟩ | ⟨e, e', p, ran, ran', related⟩
  · rw [ran, ran']
    exact ⟨.inl ⟨p.tree, rfl, rfl⟩, rfl⟩
  · rw [ran, ran']
    exact ⟨.inr ⟨e, e', rfl, rfl, related⟩, rfl⟩

end Interchangeable

end DebugScopes
