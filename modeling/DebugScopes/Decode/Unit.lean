import DebugScopes.Decode.Entry

/-!
# Decoding units

A unit is a header, the unit's entry, and everything below that entry. Units follow each other up to
the end of the section.

* `UnitHeader.read` reads a header and refuses the versions and address widths that are not read;
* `Building.unitBy` reads one unit, and `Building.unitsBy` the units from the position on;
* `Building.unit` and `Building.units` do so with declarations that are kept.
-/

namespace DebugScopes

/-! ### Headers -/

/-- What a unit's header says: how many bytes follow the length itself, the version of the layout,
and the width of addresses. -/
structure UnitHeader where
  length : Nat
  version : Nat
  addressWidth : Nat
deriving DecidableEq, Repr

namespace UnitHeader

/-- The versions that are read. -/
def versions : List Nat := [2, 4]

/-- The width of the addresses that are read. -/
def width : Nat := 4

/-- Reads a header. All units share one abbreviation table, so where a unit's table starts is passed
over. -/
def read (s : Segment) : Read UnitHeader := do
  let length ← within .headerLength s.word
  let version ← within .headerVersion s.half
  if versions.contains version then do
    let _ ← within .headerOffset s.word
    let addressWidth ← within .headerWidth s.byte
    if addressWidth = width then pure ⟨length, version, addressWidth⟩
    else refuse (.addressWidth addressWidth)
  else do refuse (.unitVersion version ((← get) - 6))

theorem read_ok {s : Segment} {pos after : Int} {header : UnitHeader}
    (run : read s pos = .ok header after) :
    after = pos + 11 ∧ header.version ∈ versions ∧ header.addressWidth = width := by
  obtain ⟨length, afterLength, first, run⟩ := Segment.bind_ok run
  obtain ⟨version, afterVersion, second, run⟩ := Segment.bind_ok run
  have first := Segment.number_ok (Segment.within_ok first)
  have second := Segment.number_ok (Segment.within_ok second)
  by_cases known : versions.contains version
  · rw [if_pos known] at run
    obtain ⟨_, afterOffset, third, run⟩ := Segment.bind_ok run
    obtain ⟨addressWidth, afterWidth, fourth, run⟩ := Segment.bind_ok run
    have third := Segment.number_ok (Segment.within_ok third)
    have fourth := Segment.byte_ok (Segment.within_ok fourth)
    by_cases wide : addressWidth = width
    · rw [if_pos wide] at run
      cases run
      refine ⟨by omega, ?_, wide⟩
      simpa using known
    · rw [if_neg wide] at run
      cases run
  · rw [if_neg known] at run
    cases run

end UnitHeader

namespace Building

/-! ### One unit -/

/-- Reads the entry of a unit and all entries below it, and says whether there was one. -/
def unitEntryBy (asking : Asking) (src : Source) (start : Int) : Building Bool := do
  match ← headBy asking src start .root with
  | none => pure false
  | some opened => do
    belowBy asking src start (if opened.hasChildren then [opened.frame] else [])
    pure true

/-- Notes that a unit has no entry. -/
def noteEmpty (start : Int) (found : Bool) : Building Unit :=
  if found then pure () else note (.emptyUnit start)

/-- Notes that a unit's entries do not end where the header says. -/
def noteLength (start : Int) (header : UnitHeader) : Building Unit := do
  let stop := (← get).pos
  if stop = start + 4 + header.length then pure ()
  else note (.unitLength start header.length stop)

/-- Reads the unit at the position. -/
def unitBy (asking : Asking) (src : Source) : Building Unit := do
  let start := (← get).pos
  let header ← within .unitHeader (reading (UnitHeader.read src.segment))
  let found ← within .unitEntry (unitEntryBy asking src start)
  noteEmpty start found
  noteLength start header

/-- Reads the entry of a unit and all entries below it, with declarations that are kept. -/
def unitEntry (src : Source) : Int → Building Bool := unitEntryBy (.keeping src) src

/-- Reads the unit at the position, with declarations that are kept. -/
def unit (src : Source) : Building Unit := unitBy (.keeping src) src

theorem unitEntryBy_forward (asking : Asking) (src : Source) (start : Int) :
    Forward (unitEntryBy asking src start) := by
  refine .bind ⟨fun run => ?_⟩ fun opened => ?_
  · have moved := headBy_ok run
    omega
  · split
    · exact .pure _
    · exact .bind (belowBy_forward ..) fun _ => .pure _

theorem noteEmpty_forward (start : Int) (found : Bool) : Forward (noteEmpty start found) := by
  unfold noteEmpty
  split
  · exact .pure _
  · exact .note _

theorem noteLength_forward (start : Int) (header : UnitHeader) :
    Forward (noteLength start header) := by
  refine .bind .get fun p => ?_
  dsimp only
  split
  · exact .pure _
  · exact .note _

/-- Reading a unit moves the position on. -/
theorem unitBy_ok {asking : Asking} {src : Source} {p p' : Progress}
    (run : unitBy asking src p = .ok () p') : p.pos < p'.pos := by
  obtain ⟨_, _, got, run⟩ := Segment.bind_ok run
  cases got
  obtain ⟨header, between, headed, run⟩ := Segment.bind_ok run
  have moved := UnitHeader.read_ok (reading_ok (Segment.within_ok headed))
  obtain ⟨found, last, entered, run⟩ := Segment.bind_ok run
  have entered := (unitEntryBy_forward asking src p.pos).le (Segment.within_ok entered)
  have noted := (Forward.bind (noteEmpty_forward p.pos found) fun _ =>
    noteLength_forward p.pos header).le run
  omega

theorem unit_ok {src : Source} {p p' : Progress} (run : unit src p = .ok () p') :
    p.pos < p'.pos :=
  unitBy_ok run

/-! ### All units -/

/-- Reads units until the section ends. -/
def unitsBy (asking : Asking) (src : Source) : Building Unit := fun p =>
  if p.pos < src.abbrevStart then
    match _read : unitBy asking src p with
    | .ok () after => unitsBy asking src after
    | .error e after => .error e after
  else .ok () p
termination_by p => (src.abbrevStart - p.pos).toNat
decreasing_by
  have moved := unitBy_ok _read
  omega

/-- Reads units until the section ends, with declarations that are kept. -/
def units (src : Source) : Building Unit := unitsBy (.keeping src) src

theorem unitsBy_eq {asking : Asking} {src : Source} {p : Progress} :
    unitsBy asking src p =
      if p.pos < src.abbrevStart then
        match unitBy asking src p with
        | .ok () after => unitsBy asking src after
        | .error e after => .error e after
      else .ok () p := by
  rw [unitsBy]
  split
  · split <;> simp_all
  · rfl

theorem units_eq {src : Source} {p : Progress} :
    units src p =
      if p.pos < src.abbrevStart then
        match unit src p with
        | .ok () after => units src after
        | .error e after => .error e after
      else .ok () p :=
  unitsBy_eq

end Building

end DebugScopes
