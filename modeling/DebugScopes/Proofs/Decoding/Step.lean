import DebugScopes.Decode.Tree
import Mathlib

/-!
# What a step of the decoder does

Reading an entry is one step of the decoder. Whatever it does when it succeeds is said here once,
and both ways: proofs about trees that were decoded take a step apart, proofs that something can be
decoded put one together.

* `Segment.byte_eq_ok`: which byte is read;
* `Building.head_eq_none`: a zero in the place of a code is an entry that is not there;
* `Building.head_eq_some`: an entry has been read exactly if `Entered` holds.
-/

namespace DebugScopes

/-! ### Actions that succeed -/

section Actions

variable {ε σ α β : Type} {before after : σ}

theorem bind_of_ok {action : EStateM ε σ α} {next : α → EStateM ε σ β} {a : α}
    {between : σ} (ran : action before = .ok a between) :
    (action >>= next) before = next a between := by
  show EStateM.bind action next before = _
  rw [EStateM.bind, ran]

theorem bind_of_error {action : EStateM ε σ α} {next : α → EStateM ε σ β} {e : ε}
    (ran : action before = .error e after) : (action >>= next) before = .error e after := by
  show EStateM.bind action next before = _
  rw [EStateM.bind, ran]

theorem bind_eq_ok {action : EStateM ε σ α} {next : α → EStateM ε σ β} {b : β} :
    (action >>= next) before = .ok b after ↔
      ∃ a between, action before = .ok a between ∧ next a between = .ok b after := by
  refine ⟨Segment.bind_ok, fun ⟨a, between, ran, run⟩ => ?_⟩
  rw [bind_of_ok ran]
  exact run

/-- An action that fails has failed in its first part or in what is left. -/
theorem bind_eq_error {action : EStateM ε σ α} {next : α → EStateM ε σ β} {e : ε}
    (failed : (action >>= next) before = .error e after) :
    action before = .error e after ∨
      ∃ a between, action before = .ok a between ∧ next a between = .error e after := by
  cases ran : action before with
  | ok a between =>
    rw [bind_of_ok ran] at failed
    exact .inr ⟨a, between, rfl, failed⟩
  | error e' between =>
    rw [bind_of_error ran] at failed
    cases failed
    exact .inl rfl

theorem within_eq_error {step : Step} {action : EStateM Failure σ α} {e : Failure}
    (failed : within step action before = .error e after) :
    ∃ e', action before = .error e' after ∧ e.cause = e'.cause := by
  unfold within at failed
  cases ran : action before with
  | ok a between =>
    rw [ran] at failed
    cases failed
  | error e' between =>
    rw [ran] at failed
    cases failed
    exact ⟨e', rfl, rfl⟩

theorem within_of_error {step : Step} {action : EStateM Failure σ α} {e : Failure}
    (failed : action before = .error e after) :
    within step action before = .error (e.through step) after := by
  unfold within
  rw [failed]

theorem within_eq_ok {step : Step} {action : EStateM Failure σ α} {a : α} :
    within step action before = .ok a after ↔ action before = .ok a after :=
  ⟨Segment.within_ok, fun run => by rw [within, run]⟩

/-- An action that has been run, and what is looked up in its result. -/
theorem exists_ok_of {result : EStateM.Result ε σ α} {look : α → β} {b : β}
    (ran : (match result with
      | .ok a _ => some (look a)
      | .error _ _ => none) = some b) : ∃ a after, result = .ok a after ∧ look a = b := by
  cases result with
  | error e after => cases ran
  | ok a after => exact ⟨a, after, rfl, Option.some.inj ran⟩

theorem refuse_ne_ok {damage : Damage} {a : α} :
    (refuse damage : EStateM Failure σ α) before ≠ .ok a after := nofun

theorem pure_eq_ok {a b : α} :
    (pure b : EStateM ε σ α) before = .ok a after ↔ b = a ∧ after = before := by
  constructor
  · intro run
    cases run
    exact ⟨rfl, rfl⟩
  · rintro ⟨rfl, rfl⟩
    rfl

theorem ofExcept_eq_ok {result : Except ε α} {a : α} :
    (MonadExcept.ofExcept result : EStateM ε σ α) before = .ok a after ↔
      result = .ok a ∧ after = before := by
  cases result with
  | ok b => exact Iff.trans (pure_eq_ok (a := a) (b := b)) (by rw [Except.ok.injEq])
  | error e => exact ⟨nofun, nofun⟩

theorem checked_eq_ok {result : Except Damage α} {a : α} :
    (checked result : EStateM Failure σ α) before = .ok a after ↔
      result = .ok a ∧ after = before := by
  cases result with
  | ok b => exact Iff.trans (pure_eq_ok (a := a) (b := b)) (by rw [Except.ok.injEq])
  | error damage => exact iff_of_false refuse_ne_ok nofun

end Actions

/-! ### Reads -/

namespace Segment

variable {s : Segment} {pos after : Int}

theorem take_eq_ok {count start : Int} :
    s.take count pos = .ok start after ↔
      start = pos ∧ after = pos + count ∧ 0 ≤ pos ∧ 0 ≤ count ∧ pos + count ≤ s.length := by
  refine ⟨take_ok, fun ⟨first, last, positive, counted, short⟩ => ?_⟩
  rw [take, if_neg (by omega), first, last]

/-- A byte is read exactly inside the usable data. -/
theorem byte_eq_ok {b : Nat} :
    s.byte pos = .ok b after ↔
      0 ≤ pos ∧ pos < s.length ∧ s.data[pos.toNat]?.map UInt8.toNat = some b ∧
        after = pos + 1 := by
  unfold byte
  rw [bind_eq_ok]
  constructor
  · rintro ⟨start, between, claimed, found⟩
    obtain ⟨rfl, rfl, positive, _, short⟩ := take_eq_ok.1 (within_eq_ok.1 claimed)
    cases held : s.data[start.toNat]? with
    | none => rw [held] at found; cases found
    | some x =>
      rw [held] at found
      cases found
      exact ⟨positive, by omega, rfl, rfl⟩
  · rintro ⟨positive, short, held, rfl⟩
    obtain ⟨x, found, rfl⟩ := Option.map_eq_some_iff.1 held
    refine ⟨pos, pos + 1, within_eq_ok.2 (take_eq_ok.2 ⟨rfl, rfl, positive, by omega, by omega⟩),
      ?_⟩
    rw [found]
    rfl

end Segment

/-! ### The parts of reading an entry -/

/-- The notes on a range that has never ended. -/
def Description.openNotices (d : Description) (addr : Int) : List Notice :=
  (d.pending?.map fun r => .openRange addr r.low).toList

namespace Building

variable {src : Source} {p p' : Progress}

theorem reading_eq_ok {α : Type} {read : Read α} {a : α} :
    reading read p = .ok a p' ↔ ∃ pos, read p.pos = .ok a pos ∧ p' = { p with pos := pos } := by
  simp only [reading]
  cases read p.pos with
  | ok b pos =>
    constructor
    · intro run
      cases run
      exact ⟨pos, rfl, rfl⟩
    · rintro ⟨_, same, rfl⟩
      cases same
      rfl
  | error e pos =>
    constructor
    · intro run
      cases run
    · rintro ⟨_, same, -⟩
      cases same

theorem firstSlot_eq_ok {addr : Int} {slot : Nat} :
    firstSlot src addr p = .ok slot p' ↔ src.items.slot? p.pos = some slot ∧ p' = p := by
  unfold firstSlot
  rw [bind_of_ok (show (get : Building Progress) p = .ok p p from rfl)]
  cases src.items.slot? p.pos with
  | none =>
    constructor
    · intro run
      cases run
    · rintro ⟨same, -⟩
      cases same
  | some found =>
    constructor
    · intro run
      cases run
      exact ⟨rfl, rfl⟩
    · rintro ⟨same, rfl⟩
      cases same
      rfl

/-- Asking for the declaration of a code keeps it in the index. -/
theorem layout_eq_ok {code : Nat} {d : Declaration} :
    layout src code p = .ok d p' ↔
      ∃ place index, p.index.lookup code = .ok place ∧
        p.index.declare src.segment place = .ok (d, index) ∧ p' = { p with index := index } := by
  simp only [layout]
  cases p.index.lookup code with
  | error damage =>
    constructor
    · intro run
      cases run
    · rintro ⟨_, _, same, -⟩
      cases same
  | ok place =>
    cases given : p.index.declare src.segment place with
    | error e =>
      constructor
      · intro run
        simp only [given] at run
        cases run
      · rintro ⟨_, _, same, declared, -⟩
        cases same
        rw [given] at declared
        cases declared
    | ok found =>
      obtain ⟨d', index⟩ := found
      constructor
      · intro run
        simp only [given] at run
        cases run
        exact ⟨place, index, rfl, given, rfl⟩
      · rintro ⟨_, index', same, declared, rfl⟩
        cases same
        rw [given] at declared
        cases declared
        simp only [given]

theorem description_eq_ok {subject : Subject} {slot : Nat} {d : Declaration}
    {about : Description} :
    description src subject slot d p = .ok about p' ↔
      ∃ w, Decode.decodeAll src subject d.attributes ⟨p.pos, slot, .tagged d.tag⟩ = .ok () w ∧
        w.about = about ∧ p' = { p with pos := w.pos } := by
  simp only [description]
  cases Decode.decodeAll src subject d.attributes ⟨p.pos, slot, .tagged d.tag⟩ with
  | ok u w =>
    constructor
    · intro run
      cases run
      exact ⟨w, rfl, rfl, rfl⟩
    · rintro ⟨_, same, rfl, rfl⟩
      cases same
      rfl
  | error e w =>
    constructor
    · intro run
      cases run
    · rintro ⟨_, same, -⟩
      cases same

theorem noteOpenRange_eq (addr : Int) (d : Description) :
    noteOpenRange addr d p =
      .ok () { p with notices := p.notices ++ (d.openNotices addr).toArray } := by
  unfold noteOpenRange Description.openNotices
  cases d.pending? with
  | none => simp [Pure.pure, EStateM.pure]
  | some r => rfl

/-! ### Reading an entry -/

/-- What is told of an entry below a frame: a range that has never ended is left out, and the name
stands as it does inside the frame. -/
def told (frame : Frame) (about : Description) : Description :=
  { about.settled with name := frame.qualify about.name }

/-- The entry that has been read as the `entry`-th of its tree. -/
def opening (frame : Frame) (d : Declaration) (about : Description) (entry : Nat) : Opened :=
  ⟨⟨entry, about.baseBelow frame.base, about.className⟩, d.hasChildren⟩

/-- An entry has been read: it starts inside the section with a code that is not zero, its layout is
declared, its first item has a descriptor, and its attributes have been decoded. -/
structure Entered (src : Source) (unit : Int) (frame : Frame) (p : Progress) (code slot : Nat)
    (d : Declaration) (about : Description) (p' : Progress) : Prop where
  inside : src.infoStart ≤ p.pos ∧ p.pos < src.abbrevStart
  coded : src.segment.byte p.pos = .ok code (p.pos + 1)
  code_ne : code ≠ 0
  slotted : src.items.slot? (p.pos + 1) = some slot
  declared : ∃ place, p.index.lookup code = .ok place ∧
    p.index.declare src.segment place = .ok (d, p'.index)
  described : ∃ last, Decode.decodeAll src ⟨p.pos, unit, frame.base⟩ d.attributes
    ⟨p.pos + 1, slot, .tagged d.tag⟩ = .ok () ⟨p'.pos, last, about⟩
  tree : p'.tree = p.tree.add frame.entry ⟨p.pos, unit, code⟩ (told frame about)
  notices : p'.notices = p.notices ++ (about.openNotices p.pos).toArray

variable {unit : Int} {frame : Frame}

theorem code_eq_ok {code : Nat} :
    within .entryCode (reading src.segment.byte) p = .ok code p' ↔
      src.segment.byte p.pos = .ok code (p.pos + 1) ∧ p' = { p with pos := p.pos + 1 } := by
  rw [within_eq_ok, reading_eq_ok]
  constructor
  · rintro ⟨pos, coded, rfl⟩
    obtain rfl : pos = p.pos + 1 := (Segment.byte_eq_ok.1 coded).2.2.2
    exact ⟨coded, rfl⟩
  · rintro ⟨coded, rfl⟩
    exact ⟨_, coded, rfl⟩

/-- In the place of an entry, inside the section, stands a zero, or an entry is read with all its
parts. -/
theorem head_cases {read : Option Opened} (run : head src unit frame p = .ok read p') :
    (read = none ∧ (src.infoStart ≤ p.pos ∧ p.pos < src.abbrevStart) ∧
      src.segment.byte p.pos = .ok 0 (p.pos + 1) ∧ p' = { p with pos := p.pos + 1 }) ∨
    ∃ code slot d about, Entered src unit frame p code slot d about p' ∧
      read = some (opening frame d about p.tree.entries.size) := by
  unfold head headBy at run
  obtain ⟨_, _, got, run⟩ := bind_eq_ok.1 run
  cases got
  by_cases outside : p.pos < src.infoStart ∨ src.abbrevStart ≤ p.pos
  · rw [if_pos outside] at run
    exact absurd run refuse_ne_ok
  rw [if_neg outside] at run
  obtain ⟨code, between, ran, run⟩ := bind_eq_ok.1 run
  obtain ⟨coded, rfl⟩ := code_eq_ok.1 ran
  by_cases ended : code = 0
  · rw [if_pos ended] at run
    cases run
    exact .inl ⟨rfl, by omega, ended ▸ coded, rfl⟩
  rw [if_neg ended] at run
  obtain ⟨slot, _, ran, run⟩ := bind_eq_ok.1 run
  obtain ⟨slotted, rfl⟩ := firstSlot_eq_ok.1 ran
  obtain ⟨d, _, ran, run⟩ := bind_eq_ok.1 run
  obtain ⟨place, index, found, declared, rfl⟩ := layout_eq_ok.1 ran
  obtain ⟨about, _, ran, run⟩ := bind_eq_ok.1 run
  obtain ⟨w, described, rfl, rfl⟩ := description_eq_ok.1 ran
  obtain ⟨_, _, ran, run⟩ := bind_eq_ok.1 run
  rw [noteOpenRange_eq] at ran
  cases ran
  cases run
  exact .inr ⟨code, slot, d, w.about, ⟨by omega, coded, ended, slotted, ⟨place, found, declared⟩,
    ⟨w.slot, described⟩, rfl, rfl⟩, rfl⟩

/-- A zero in the place of a code is an entry that is not there. -/
theorem head_eq_none :
    head src unit frame p = .ok none p' ↔
      (src.infoStart ≤ p.pos ∧ p.pos < src.abbrevStart) ∧
        src.segment.byte p.pos = .ok 0 (p.pos + 1) ∧ p' = { p with pos := p.pos + 1 } := by
  constructor
  · intro run
    rcases head_cases run with ⟨-, ended⟩ | ⟨_, _, _, _, -, same⟩
    · exact ended
    · cases same
  · rintro ⟨inside, coded, rfl⟩
    unfold head headBy
    refine bind_eq_ok.2 ⟨p, p, rfl, ?_⟩
    rw [if_neg (by omega), bind_eq_ok]
    exact ⟨0, _, code_eq_ok.2 ⟨coded, rfl⟩, rfl⟩

/-- An entry whose parts can all be read is read. -/
theorem Entered.head_eq {code slot : Nat} {d : Declaration} {about : Description}
    (entered : Entered src unit frame p code slot d about p') :
    head src unit frame p = .ok (some (opening frame d about p.tree.entries.size)) p' := by
  obtain ⟨inside, coded, code_ne, slotted, ⟨place, found, declared⟩, ⟨last, described⟩, tree,
    notices⟩ := entered
  unfold head headBy
  refine bind_eq_ok.2 ⟨p, p, rfl, ?_⟩
  rw [if_neg (by omega)]
  refine bind_eq_ok.2 ⟨code, _, code_eq_ok.2 ⟨coded, rfl⟩, ?_⟩
  rw [if_neg code_ne]
  refine bind_eq_ok.2 ⟨slot, _, firstSlot_eq_ok.2 ⟨slotted, rfl⟩, ?_⟩
  refine bind_eq_ok.2 ⟨d, _, layout_eq_ok.2 ⟨place, p'.index, found, declared, rfl⟩, ?_⟩
  refine bind_eq_ok.2 ⟨about, _, description_eq_ok.2 ⟨_, described, rfl, rfl⟩, ?_⟩
  refine bind_eq_ok.2 ⟨(), _, noteOpenRange_eq _ _, ?_⟩
  obtain ⟨pos, index, t, ns⟩ := p'
  cases tree
  cases notices
  rfl

/-- An entry that has been read has been entered into the tree, and conversely. -/
theorem head_eq_some {opened : Opened} :
    head src unit frame p = .ok (some opened) p' ↔
      ∃ code slot d about, Entered src unit frame p code slot d about p' ∧
        opened = opening frame d about p.tree.entries.size := by
  constructor
  · intro run
    rcases head_cases run with ⟨same, -⟩ | ⟨code, slot, d, about, entered, same⟩
    · cases same
    · exact ⟨code, slot, d, about, entered, Option.some.inj same⟩
  · rintro ⟨code, slot, d, about, entered, rfl⟩
    exact entered.head_eq

end Building

end DebugScopes
