import DebugScopes.Proofs.Decoding.Nesting
import DebugScopes.Proofs.Session.Building

/-!
# Entries and the end of their section

The decoder tests that an entry starts in the section, and nothing else: how far its attributes go
is up to its declaration and the widths of the items. `Building.unitsTaken` lists the stretches of
data that a run takes for entries, and for the zeros behind children.

* `Building.below_stays`: below an entry, something always has to follow an entry, so one that runs
  over the end of the section is found out;
* `Building.units_stay`: in a whole run only the last stretch can pass the end, and it goes
  unnoticed exactly if it is the entry of a unit that is declared without children;
* `build_taken_stays`: the same for the trees that a session builds.
-/

namespace DebugScopes

/-- A stretch of data that has been taken for an entry, or for the zero behind children. It is
`lone` if it is the entry of a unit that is declared without children. -/
structure Stretch where
  start : Int
  stop : Int
  lone : Bool
deriving DecidableEq, Repr

/-- Where a row of stretches ends that starts at a position. -/
def Stretch.endOf (pos : Int) : List Stretch → Int
  | [] => pos
  | taken :: rest => endOf taken.stop rest

namespace Building

/-! ### What a run takes -/

/-- What is taken for everything below the entries on a stack, up to a failure. -/
def belowTaken (src : Source) (unit : Int) (stack : List Frame) (p : Progress) : List Stretch :=
  match stack with
  | [] => []
  | frame :: outer =>
    match _read : head src unit frame p with
    | .error _ _ => []
    | .ok none after => ⟨p.pos, after.pos, false⟩ :: belowTaken src unit outer after
    | .ok (some opened) after =>
      ⟨p.pos, after.pos, false⟩ ::
        belowTaken src unit (if opened.hasChildren then opened.frame :: stack else stack) after
termination_by (src.abbrevStart - p.pos).toNat
decreasing_by
  all_goals
    have moved := head_ok _read
    omega

/-- What is taken for the entry of a unit and everything below it, up to a failure. -/
def bodyTaken (src : Source) (start : Int) (p : Progress) : List Stretch :=
  match head src start .root p with
  | .error _ _ => []
  | .ok none after => [⟨p.pos, after.pos, false⟩]
  | .ok (some opened) after =>
    ⟨p.pos, after.pos, !opened.hasChildren⟩ ::
      belowTaken src start (if opened.hasChildren then [opened.frame] else []) after

/-- What is taken for the entries of a unit, up to a failure. -/
def unitTaken (src : Source) (p : Progress) : List Stretch :=
  match UnitHeader.read src.segment p.pos with
  | .error _ _ => []
  | .ok _ pos => bodyTaken src p.pos { p with pos := pos }

/-- What is taken for the entries of all units, up to a failure. -/
def unitsTaken (src : Source) (p : Progress) : List Stretch :=
  if p.pos < src.abbrevStart then
    match _read : unit src p with
    | .ok () after => unitTaken src p ++ unitsTaken src after
    | .error _ _ => unitTaken src p
  else []
termination_by (src.abbrevStart - p.pos).toNat
decreasing_by
  have moved := unit_ok _read
  omega

end Building

/-- What is taken for the entries of an image. -/
def Image.taken (image : Image) (order : Except OrderFault ByteOrder) : List Stretch :=
  let src := Source.of image order
  match Abbreviation.Index.scan src.segment src.abbrevStart with
  | .ok index => Building.unitsTaken src (Building.indexed src index)
  | .error _ => []

namespace Building

variable {src : Source} {unit : Int} {frame : Frame} {p p' : Progress}

/-! ### The end of the section -/

/-- An entry that would start outside the section is refused. -/
theorem head_outside (outside : src.abbrevStart ≤ p.pos) :
    head src unit frame p =
      .error (.ofDamage (.entryOutside p.pos src.infoStart src.abbrevStart)) p := by
  show (if p.pos < src.infoStart ∨ src.abbrevStart ≤ p.pos then
    (refuse (.entryOutside p.pos src.infoStart src.abbrevStart) : Building (Option Opened))
    else _) p = _
  rw [if_pos (.inr outside)]
  rfl

/-- Stretches start in the section, and all of them but perhaps the last end there. -/
structure Stays (src : Source) (taken : List Stretch) : Prop where
  starts : ∀ st ∈ taken, src.infoStart ≤ st.start ∧ st.start < src.abbrevStart
  stops : ∀ st ∈ taken.dropLast, st.stop ≤ src.abbrevStart

/-- A run that is refused an entry at a position. -/
def RefusedAt (src : Source) (pos : Int) (e : Failure) : Prop :=
  e.cause = .damage (.entryOutside pos src.infoStart src.abbrevStart)

theorem Stays.nil : Stays src [] := ⟨nofun, nofun⟩

/-- A stretch in front of others ends where the next one starts, and so in the section. -/
theorem Stays.cons {taken : Stretch} {rest : List Stretch} (stays : Stays src rest)
    (start : src.infoStart ≤ taken.start ∧ taken.start < src.abbrevStart)
    (stop : rest ≠ [] → taken.stop ≤ src.abbrevStart) : Stays src (taken :: rest) := by
  refine ⟨List.forall_mem_cons.2 ⟨start, stays.starts⟩, fun st mem => ?_⟩
  by_cases last : rest = []
  · rw [last] at mem
    cases mem
  · rw [List.dropLast_cons_of_ne_nil last] at mem
    rcases List.mem_cons.1 mem with rfl | later
    · exact stop last
    · exact stays.stops st later

/-! ### Below an entry -/

/-- What is taken below entries stays in the section: if all is read, to the end, and if an entry
runs over the end, the next one is refused. -/
structure BelowStays (src : Source) (p : Progress) (taken : List Stretch)
    (result : EStateM.Result Failure Progress Unit) : Prop where
  stays : Stays src taken
  kept : ∀ st ∈ taken, st.lone = false
  begun : taken ≠ [] → p.pos < src.abbrevStart
  read : ∀ p', result = .ok () p' →
    p'.pos = Stretch.endOf p.pos taken ∧ (taken ≠ [] → p'.pos ≤ src.abbrevStart)
  refused : ∀ e p', result = .error e p' → src.abbrevStart ≤ Stretch.endOf p.pos taken →
    RefusedAt src (Stretch.endOf p.pos taken) e

/-- One more stretch in front: it ends in the section if another one follows, and has to if none
does and the run succeeds. -/
theorem BelowStays.cons {after : Progress} {rest : List Stretch}
    {result : EStateM.Result Failure Progress Unit} (below : BelowStays src after rest result)
    (inside : src.infoStart ≤ p.pos ∧ p.pos < src.abbrevStart)
    (ends : ∀ p', result = .ok () p' → rest = [] → after.pos ≤ src.abbrevStart) :
    BelowStays src p (⟨p.pos, after.pos, false⟩ :: rest) result := by
  refine ⟨below.stays.cons inside fun more => Int.le_of_lt (below.begun more),
    List.forall_mem_cons.2 ⟨rfl, below.kept⟩, fun _ => inside.2, fun p' done => ?_, below.refused⟩
  obtain ⟨pos, last⟩ := below.read p' done
  refine ⟨pos, fun _ => ?_⟩
  by_cases more : rest = []
  · rw [more] at pos
    have := ends p' done more
    rw [pos]
    exact this
  · exact last more

theorem belowTaken_cons {outer : List Frame} :
    belowTaken src unit (frame :: outer) p =
      match head src unit frame p with
      | .error _ _ => []
      | .ok none after => ⟨p.pos, after.pos, false⟩ :: belowTaken src unit outer after
      | .ok (some opened) after =>
        ⟨p.pos, after.pos, false⟩ ::
          belowTaken src unit (if opened.hasChildren then opened.frame :: frame :: outer
            else frame :: outer) after := by
  rw [belowTaken]
  split <;> simp_all

/-- As long as an entry is open, something has to be taken. -/
theorem belowTaken_ne_nil {stack : List Frame} (opened : stack ≠ [])
    (run : below src unit stack p = .ok () p') : belowTaken src unit stack p ≠ [] := by
  cases stack with
  | nil => exact absurd rfl opened
  | cons frame outer =>
    rw [below_cons] at run
    rw [belowTaken_cons]
    cases read : head src unit frame p with
    | error e after =>
      rw [read] at run
      cases run
    | ok found after =>
      cases found <;> exact List.cons_ne_nil _ _

theorem below_stays (src : Source) (unit : Int) (stack : List Frame) (p : Progress) :
    BelowStays src p (belowTaken src unit stack p) (below src unit stack p) := by
  fun_induction belowTaken src unit stack p with
  | case1 p =>
    rw [below_nil]
    refine ⟨.nil, List.forall_mem_nil _, fun more => absurd rfl more, fun p' done => ?_,
      fun e p' failed => ?_⟩
    · cases done
      exact ⟨rfl, fun more => absurd rfl more⟩
    · cases failed
  | case2 p frame outer e after read =>
    rw [below_cons, read]
    refine ⟨.nil, List.forall_mem_nil _, fun more => absurd rfl more, fun p' done => ?_,
      fun e' p' failed outside => ?_⟩
    · cases done
    · rw [head_outside outside] at read
      cases failed
      cases read
      rfl
  | case3 p frame outer after read ih =>
    rw [below_cons, read]
    obtain ⟨inside, -, rfl⟩ := head_eq_none.1 read
    exact ih.cons inside fun _ _ _ => Int.add_one_le_iff.2 inside.2
  | case4 p frame outer opened after read ih =>
    rw [below_cons, read]
    obtain ⟨-, inside⟩ := head_ok read
    -- the frame is still open, so something follows before the run can succeed
    refine ih.cons inside fun p' done nothing => absurd nothing (belowTaken_ne_nil ?_ done)
    split <;> exact List.cons_ne_nil _ _

/-! ### Units -/

/-- What is taken stays in the section: if all is read, to the end of the last stretch, which passes
the end of the section only if it is lone. If another one passes it, the next entry is refused. -/
structure TakenStays {α : Type} (src : Source) (taken : List Stretch)
    (result : EStateM.Result Failure Progress α) : Prop where
  stays : Stays src taken
  read : ∀ a p', result = .ok a p' → ∃ last, taken.getLast? = some last ∧ p'.pos = last.stop ∧
    (src.abbrevStart < last.stop → last.lone = true)
  refused : ∀ e p', result = .error e p' → ∀ last, taken.getLast? = some last →
    src.abbrevStart < last.stop → last.lone = false ∧ RefusedAt src last.stop e

/-- A run that fails before it takes anything. -/
theorem TakenStays.nothing {α : Type} (e : Failure) (p : Progress) :
    TakenStays src [] (.error e p : EStateM.Result Failure Progress α) := by
  refine ⟨.nil, fun a p' done => ?_, fun e' p' _ last found => ?_⟩
  · cases done
  · cases found

/-- A run that takes one stretch. -/
theorem TakenStays.one {α : Type} {a : α} {lone : Bool}
    (inside : src.infoStart ≤ p.pos ∧ p.pos < src.abbrevStart)
    (ends : src.abbrevStart < p'.pos → lone = true) :
    TakenStays src [⟨p.pos, p'.pos, lone⟩]
      (.ok a p' : EStateM.Result Failure Progress α) := by
  refine ⟨Stays.nil.cons inside fun more => absurd rfl more, fun b q done => ?_,
    fun e q failed => ?_⟩
  · cases done
    exact ⟨_, rfl, rfl, ends⟩
  · cases failed

theorem Stretch.endOf_eq {taken : List Stretch} {last : Stretch} (pos : Int)
    (found : taken.getLast? = some last) : Stretch.endOf pos taken = last.stop := by
  induction taken generalizing pos with
  | nil => cases found
  | cons first rest ih =>
    cases rest with
    | nil =>
      cases found
      rfl
    | cons second rest => exact ih first.stop (by simpa using found)

/-- The reading goes on from a result with the same position or the same cause. -/
theorem TakenStays.of_result {α β : Type} {taken : List Stretch}
    {result : EStateM.Result Failure Progress α} {result' : EStateM.Result Failure Progress β}
    (stays : TakenStays src taken result)
    (ok : ∀ b q, result' = .ok b q → ∃ a p', result = .ok a p' ∧ q.pos = p'.pos)
    (error : ∀ e q, result' = .error e q → ∃ e' p', result = .error e' p' ∧ e.cause = e'.cause) :
    TakenStays src taken result' := by
  refine ⟨stays.stays, fun b q done => ?_, fun e q failed last found passes => ?_⟩
  · obtain ⟨a, p', ran, pos⟩ := ok b q done
    obtain ⟨last, found, stop, lone⟩ := stays.read a p' ran
    exact ⟨last, found, pos.trans stop, lone⟩
  · obtain ⟨e', p', ran, cause⟩ := error e q failed
    obtain ⟨followed, refused⟩ := stays.refused e' p' ran last found passes
    exact ⟨followed, cause.trans refused⟩

/-- The stretches of entries below an entry, as part of a whole run. -/
theorem BelowStays.taken {taken : List Stretch} {result : EStateM.Result Failure Progress Unit}
    (below : BelowStays src p taken result) (some : taken ≠ []) : TakenStays src taken result := by
  refine ⟨below.stays, fun a p' done => ?_, fun e p' failed last found passes => ?_⟩
  · obtain ⟨pos, inside⟩ := below.read p' done
    refine ⟨taken.getLast some, List.getLast?_eq_some_getLast some, ?_, fun passes => ?_⟩
    · rw [pos, Stretch.endOf_eq _ (List.getLast?_eq_some_getLast some)]
    · rw [← Stretch.endOf_eq p.pos (List.getLast?_eq_some_getLast some), ← pos] at passes
      exact absurd (inside some) (Int.not_le.2 passes)
  · rw [← Stretch.endOf_eq p.pos found] at passes ⊢
    exact ⟨below.kept last (List.mem_of_getLast? found),
      below.refused e p' failed (Int.le_of_lt passes)⟩

theorem unitEntry_of_some {start : Int} {opened : Opened}
    (read : head src start .root p = .ok (some opened) p') :
    unitEntry src start p =
      (below src start (if opened.hasChildren then [opened.frame] else []) >>= fun _ =>
        pure true) p' :=
  bind_of_ok read

theorem bodyTaken_of_some {start : Int} {opened : Opened}
    (read : head src start .root p = .ok (some opened) p') :
    bodyTaken src start p = ⟨p.pos, p'.pos, !opened.hasChildren⟩ ::
      belowTaken src start (if opened.hasChildren then [opened.frame] else []) p' := by
  rw [bodyTaken, read]

theorem unitEntry_stays (src : Source) (start : Int) (p : Progress) :
    TakenStays src (bodyTaken src start p) (unitEntry src start p) := by
  cases read : head src start .root p with
  | error e after =>
    have failed : unitEntry src start p = .error e after := bind_of_error read
    rw [bodyTaken, read, failed]
    exact .nothing _ _
  | ok opened after =>
    obtain ⟨-, inside⟩ := head_ok read
    cases opened with
    | none =>
      obtain ⟨-, -, rfl⟩ := head_eq_none.1 read
      have done : unitEntry src start p = .ok false { p with pos := p.pos + 1 } := bind_of_ok read
      rw [bodyTaken, read, done]
      refine .one inside fun passes => ?_
      have passes : src.abbrevStart < p.pos + 1 := passes
      omega
    | some opened =>
      rw [bodyTaken_of_some read, unitEntry_of_some read]
      cases opened.hasChildren with
      | true =>
        rw [if_pos rfl]
        -- something has to follow the entry, so it can be treated like one below another
        have below : BelowStays src p
            (⟨p.pos, after.pos, false⟩ :: belowTaken src start [opened.frame] after)
            (Building.below src start [opened.frame] after) := by
          refine (below_stays src start [opened.frame] after).cons inside fun p' done nothing => ?_
          exact absurd nothing (belowTaken_ne_nil (List.cons_ne_nil _ _) done)
        refine (below.taken (List.cons_ne_nil _ _)).of_result (fun b q done => ?_)
          fun e q failed => ?_
        · obtain ⟨_, _, run, last⟩ := bind_eq_ok.1 done
          cases last
          exact ⟨_, _, run, rfl⟩
        · rcases bind_eq_error failed with run | ⟨_, _, _, last⟩
          · exact ⟨_, _, run, rfl⟩
          · cases last
      | false =>
        rw [if_neg Bool.false_ne_true, bind_of_ok below_nil, belowTaken]
        exact .one inside fun _ => rfl

/-- The notes on a unit do not fail and take nothing. -/
theorem notes_ok (start : Int) (header : UnitHeader) (found : Bool) (p : Progress) :
    ∃ notices, (noteEmpty start found >>= fun _ => noteLength start header) p =
      .ok () { p with notices := notices } := by
  rw [bind_of_ok (noteEmpty_eq start found p), noteLength_eq]
  exact ⟨_, rfl⟩

theorem unit_stays (src : Source) (p : Progress) :
    TakenStays src (unitTaken src p) (Building.unit src p) := by
  have begun : Building.unit src p = (within .unitHeader (reading (UnitHeader.read src.segment)) >>=
      fun header => within .unitEntry (unitEntry src p.pos) >>= fun found =>
        noteEmpty p.pos found >>= fun _ => noteLength p.pos header) p := rfl
  rw [unitTaken, begun]
  cases headed : UnitHeader.read src.segment p.pos with
  | error e pos =>
    have failed : within .unitHeader (reading (UnitHeader.read src.segment)) p =
        .error (e.through .unitHeader) { p with pos := pos } := by
      simp only [within, reading, headed]
    rw [bind_of_error failed]
    exact .nothing _ _
  | ok header pos =>
    have read : within .unitHeader (reading (UnitHeader.read src.segment)) p =
        .ok header { p with pos := pos } := within_eq_ok.2 (reading_eq_ok.2 ⟨pos, headed, rfl⟩)
    rw [bind_of_ok read]
    show TakenStays src (bodyTaken src p.pos { p with pos := pos })
      ((within .unitEntry (unitEntry src p.pos) >>= fun found =>
        noteEmpty p.pos found >>= fun _ => noteLength p.pos header) { p with pos := pos })
    refine (unitEntry_stays src p.pos { p with pos := pos }).of_result (fun _ q done => ?_)
      fun e q failed => ?_
    · obtain ⟨found, last, ran, noted⟩ := bind_eq_ok.1 done
      obtain ⟨notices, noting⟩ := notes_ok p.pos header found last
      rw [noting] at noted
      cases noted
      exact ⟨found, last, within_eq_ok.1 ran, rfl⟩
    · rcases bind_eq_error failed with ran | ⟨found, last, -, noted⟩
      · obtain ⟨e', ran, cause⟩ := within_eq_error ran
        exact ⟨e', q, ran, cause⟩
      · obtain ⟨notices, noting⟩ := notes_ok p.pos header found last
        rw [noting] at noted
        cases noted

/-- A unit that ends in the section, and what is taken behind it. -/
theorem TakenStays.append {α : Type} {first rest : List Stretch} {after : Progress}
    {result : EStateM.Result Failure Progress α}
    (unit : TakenStays src first (.ok () after : EStateM.Result Failure Progress Unit))
    (more : after.pos < src.abbrevStart) (units : TakenStays src rest result) :
    TakenStays src (first ++ rest) result := by
  obtain ⟨last, found, stop, -⟩ := unit.read () after rfl
  obtain ⟨before, rfl⟩ := List.getLast?_eq_some_iff.1 found
  have ends : last.stop < src.abbrevStart := stop ▸ more
  by_cases nothing : rest = []
  · -- nothing is taken behind the unit, so the run behind it has failed
    subst nothing
    rw [List.append_nil]
    refine ⟨unit.stays, fun a p' done => ?_, fun e p' _ other found' passes => ?_⟩
    · obtain ⟨_, none_left, -⟩ := units.read a p' done
      cases none_left
    · obtain rfl := Option.some.inj (found.symm.trans found')
      omega
  · have same : ((before ++ [last]) ++ rest).getLast? = rest.getLast? := by
      rw [List.getLast?_append, List.getLast?_eq_some_getLast nothing]
      rfl
    refine ⟨⟨fun st mem => ?_, fun st mem => ?_⟩, fun a p' done => ?_, fun e p' failed => ?_⟩
    · rcases List.mem_append.1 mem with mem | mem
      · exact unit.stays.starts st mem
      · exact units.stays.starts st mem
    · rw [List.dropLast_append_of_ne_nil nothing] at mem
      rcases List.mem_append.1 mem with mem | mem
      · rcases List.mem_append.1 mem with mem | mem
        · exact unit.stays.stops st (by rw [List.dropLast_concat]; exact mem)
        · obtain rfl := List.mem_singleton.1 mem
          omega
      · exact units.stays.stops st mem
    · rw [same]
      exact units.read a p' done
    · rw [same]
      exact units.refused e p' failed

theorem unitsTaken_eq (src : Source) (p : Progress) :
    unitsTaken src p =
      if p.pos < src.abbrevStart then
        match Building.unit src p with
        | .ok () after => unitTaken src p ++ unitsTaken src after
        | .error _ _ => unitTaken src p
      else [] := by
  rw [unitsTaken]
  split
  · split <;> simp_all
  · rfl

/-- In a whole run only the last stretch can pass the end of the section, and either it is lone or
the next entry is refused. -/
theorem units_stay (src : Source) (p : Progress) (more : p.pos < src.abbrevStart) :
    TakenStays src (unitsTaken src p) (units src p) := by
  fun_induction unitsTaken src p with
  | case1 p _ after read ih =>
    have unit := unit_stays src p
    rw [read] at unit
    rw [units_eq, if_pos more, read]
    by_cases further : after.pos < src.abbrevStart
    · exact unit.append further (ih further)
    · have none_left : unitsTaken src after = [] := by rw [unitsTaken_eq, if_neg further]
      have done : units src after = .ok () after := by rw [units_eq, if_neg further]
      show TakenStays src (unitTaken src p ++ unitsTaken src after) (units src after)
      rw [none_left, done, List.append_nil]
      exact unit
  | case2 p _ e after read =>
    have unit := unit_stays src p
    rw [read] at unit
    rw [units_eq, if_pos more, read]
    exact unit
  | case3 p ended => exact absurd more ended

/-- Behind a run that succeeds, the cursor stands at the end of the section exactly if everything
that was taken ends there. -/
theorem TakenStays.ended {α : Type} {a : α} {taken : List Stretch}
    (stay : TakenStays src taken (.ok a p : EStateM.Result Failure Progress α))
    (ended : src.abbrevStart ≤ p.pos) :
    ∃ last, taken.getLast? = some last ∧ p.pos = last.stop ∧
      ((∀ st ∈ taken, st.stop ≤ src.abbrevStart) ↔ p.pos = src.abbrevStart) ∧
      (p.pos ≠ src.abbrevStart ↔ last.lone = true ∧ src.abbrevStart < last.stop) := by
  obtain ⟨last, found, stop, lone⟩ := stay.read a p rfl
  obtain ⟨before, split⟩ := List.getLast?_eq_some_iff.1 found
  refine ⟨last, found, stop, ⟨fun inside => ?_, fun ends st mem => ?_⟩,
    ⟨fun passed => ?_, fun ⟨_, passes⟩ => ?_⟩⟩
  · have := inside last (List.mem_of_getLast? found)
    omega
  · rw [split] at mem
    rcases List.mem_append.1 mem with mem | mem
    · exact stay.stays.stops st (by rw [split, List.dropLast_concat]; exact mem)
    · obtain rfl := List.mem_singleton.1 mem
      omega
  · exact ⟨lone (by omega), by omega⟩
  · omega

/-- The cursor behind the last unit is at the end of the section or has passed it. -/
theorem Units.ended (units : Units src p p') : src.abbrevStart ≤ p'.pos := by
  induction units with
  | done ended => exact ended
  | next more read rest ih => exact ih

end Building

open Building

/-! ### Trees that are built -/

section Built

variable {image : Image} {order : Except OrderFault ByteOrder} {index : Abbreviation.Index}

theorem Image.taken_eq
    (scanned : Abbreviation.Index.scan (image.segment order) image.abbrevStart = .ok index) :
    image.taken order = unitsTaken (.of image order) (indexed (.of image order) index) := by
  show (match Abbreviation.Index.scan (image.segment order) image.abbrevStart with
    | .ok index => unitsTaken (.of image order) (indexed (.of image order) index)
    | .error _ => []) = _
  rw [scanned]

theorem Image.taken_of_error {e : Failure}
    (failed : Abbreviation.Index.scan (image.segment order) image.abbrevStart = .error e) :
    image.taken order = [] := by
  show (match Abbreviation.Index.scan (image.segment order) image.abbrevStart with
    | .ok index => unitsTaken (.of image order) (indexed (.of image order) index)
    | .error _ => []) = _
  rw [failed]

/-- Nothing is taken if there is no table or the section is empty. -/
theorem Image.taken_cases (image : Image) (order : Except OrderFault ByteOrder) :
    (image.taken order = [] ∧
      ∀ index, Abbreviation.Index.scan (image.segment order) image.abbrevStart = .ok index →
        image.abbrevStart ≤ image.infoStart) ∨
    ∃ index, Abbreviation.Index.scan (image.segment order) image.abbrevStart = .ok index ∧
      TakenStays (.of image order) (image.taken order)
        (units (.of image order) (indexed (.of image order) index)) := by
  cases scanned : Abbreviation.Index.scan (image.segment order) image.abbrevStart with
  | error e => exact .inl ⟨Image.taken_of_error scanned, nofun⟩
  | ok index =>
    rw [Image.taken_eq scanned]
    by_cases more : image.infoStart < image.abbrevStart
    · exact .inr ⟨index, rfl, units_stay (.of image order) (indexed (.of image order) index) more⟩
    · have nothing : unitsTaken (.of image order) (indexed (.of image order) index) = [] := by
        rw [unitsTaken_eq]
        exact if_neg more
      exact .inl ⟨nothing, fun _ _ => Int.not_lt.1 more⟩

/-- For a tree that is built, the units have been read, and there was at least one. -/
theorem Session.units_of_build {s s' : Session} {t : ScopeTree}
    (built : Session.build image.decoder s = .ok t s') :
    ∃ index p, Abbreviation.Index.scan (image.segment s.settings.order) image.abbrevStart =
        .ok index ∧
      units (.of image s.settings.order) (indexed (.of image s.settings.order) index) = .ok () p ∧
        image.infoStart < image.abbrevStart := by
  obtain ⟨index, p, start, scanned, units, found, -⟩ :=
    decode_eq_ok.1 (Session.decode_of_build built).1
  refine ⟨index, p, scanned, units_eq_ok.2 units, ?_⟩
  cases units with
  | done =>
    rw [indexed, start?_empty] at found
    cases found
  | next more => exact more

/-- If the units cannot be read, the build fails with the same failure. -/
theorem Session.build_of_units_error {s : Session} {e : Failure} {p : Progress}
    (scanned : Abbreviation.Index.scan (image.segment s.settings.order) image.abbrevStart =
      .ok index)
    (failed : units (.of image s.settings.order) (indexed (.of image s.settings.order) index) =
      .error e p) : ∃ s', Session.build image.decoder s = .error (.decoding e) s' := by
  have undecoded : image.decoder s.settings.order s.settings.entryPoint =
      (.error e, p.notices.toList) := decode_of_units_error scanned failed
  obtain ⟨s', failed, -⟩ := Session.build_of_error undecoded
  exact ⟨s', failed⟩

end Built

/-- Entries start in their section, and all but the last end there. If the last one passes the end
and is not lone, the build fails, since nothing can follow it; if it is lone, all units have been
read. A tree that is built has been read up to the end of the last entry, which is the end of the
section unless the entry is lone. -/
theorem build_taken_stays (image : Image) (s : Session) :
    let src := Source.of image s.settings.order
    let taken := image.taken s.settings.order
    Stays src taken ∧
      (∀ last, taken.getLast? = some last → src.abbrevStart < last.stop →
        if last.lone then
          ∃ index p, Abbreviation.Index.scan src.segment src.abbrevStart = .ok index ∧
            units src (indexed src index) = .ok () p ∧ p.pos = last.stop
        else
          ∃ e s', Session.build image.decoder s = .error (.decoding e) s' ∧
            e.damage? = some (.entryOutside last.stop src.infoStart src.abbrevStart)) ∧
      (∀ t s', Session.build image.decoder s = .ok t s' →
        ∃ index p last, Abbreviation.Index.scan src.segment src.abbrevStart = .ok index ∧
          units src (indexed src index) = .ok () p ∧ taken.getLast? = some last ∧
            p.pos = last.stop ∧ ((∀ st ∈ taken, st.stop ≤ src.abbrevStart) ↔
              p.pos = src.abbrevStart) ∧
              (p.pos ≠ src.abbrevStart ↔ last.lone = true ∧ src.abbrevStart < last.stop)) := by
  intro src taken
  rcases image.taken_cases s.settings.order with ⟨nothing, absent⟩ | ⟨index, scanned, stay⟩
  · have nothing : taken = [] := nothing
    refine ⟨nothing ▸ .nil, fun last found => ?_, fun t s' built => ?_⟩
    · rw [nothing] at found
      cases found
    · obtain ⟨index, _, scanned, _, more⟩ := Session.units_of_build built
      exact absurd more (Int.not_lt.2 (absent index scanned))
  · refine ⟨stay.stays, fun last found passes => ?_, fun t s' built => ?_⟩
    · cases run : units src (indexed src index) with
      | ok u p =>
        obtain ⟨last', found', stop, lone⟩ := stay.read u p run
        obtain rfl := Option.some.inj (found.symm.trans found')
        rw [if_pos (lone passes)]
        exact ⟨index, p, scanned, run, stop⟩
      | error e p =>
        obtain ⟨followed, refused⟩ := stay.refused e p run last found passes
        rw [followed, if_neg Bool.false_ne_true]
        obtain ⟨s', failed⟩ := Session.build_of_units_error scanned run
        refine ⟨e, s', failed, ?_⟩
        rw [Failure.damage?, refused]
    · obtain ⟨index', p, scanned', run, -⟩ := Session.units_of_build built
      obtain rfl := Except.ok.inj (scanned.symm.trans scanned')
      rw [run] at stay
      obtain ⟨last, found, stop, ends, passes⟩ := stay.ended (units_eq_ok.1 run).ended
      exact ⟨index, p, last, scanned, run, found, stop, ends, passes⟩

/-- An image whose one entry has its last item across the end of the section. -/
def overrunImage : Image :=
  .ofParts
    #[0x14, 0, 0, 0, 2, 0, 0, 0, 0, 0, 4,
      1, 36, 0, 0, 0, 0x10, 0, 0, 0, 8, 0,
      1, 0x11, 0, 3, 0xe, 0x11, 1, 0x12, 0xb, 0x3a, 0xb, 0, 0, 0,
      0x6d, 0x61, 0x69, 0x6e, 0]
    (.ofList [⟨12, 4⟩, ⟨16, 4⟩, ⟨20, 1⟩, ⟨21, 3⟩]) 0 22 none

/-- A tree can be built although an entry runs over the end of the section. -/
theorem overrun_unnoticed :
    ¬ ∀ (image : Image) (s s' : Session) (t : ScopeTree),
      Session.build image.decoder s = .ok t s' →
        ∀ st ∈ image.taken s.settings.order, image.infoStart ≤ st.start ∧
          st.stop ≤ image.abbrevStart := by
  intro confined
  have size : (match Session.build overrunImage.decoder (.blank true .empty) with
    | .ok t _ => t.size
    | .error _ _ => 0) = 1 := by decide +kernel
  have taken : overrunImage.taken (.ok .little) = [⟨11, 24, true⟩] := by decide +kernel
  cases built : Session.build overrunImage.decoder (.blank true .empty) with
  | error fault s' =>
    rw [built] at size
    cases size
  | ok t s' =>
    have inside := confined _ _ _ _ built ⟨11, 24, true⟩ (taken ▸ List.mem_singleton.2 rfl)
    exact absurd inside.2 (by decide)

end DebugScopes
