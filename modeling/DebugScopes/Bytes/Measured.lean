import DebugScopes.Bytes.Segment
import DebugScopes.Value.Printer

/-!
# Reading by measure

How many bytes are read, or where, may stand in a file, and there it is a value. Integers are what
they are; this module says what comes of everything else. A value that equals one of the three
widths is as good as the width when a number is read. Nothing can be read behind a position that is
no integer, and a message that would have to name one in base sixteen fails instead.

* `sizedBy` and `skipBy` are `sized` and `skip` with a value for the count;
* `faultAt` is what comes of a read at a float;
* `sizedBy_int` and `skipBy_int`: integers are what they are.
-/

namespace DebugScopes.Segment

/-- The widths that an item may have. -/
def widths : List Int := [1, 2, 4]

/-- The width that a value stands for. -/
def width? (v : Value) : Option Int :=
  match v.int? with
  | some i => some i
  | none => widths.find? fun width => v.same (.int width)

/-- A number of as many bytes as a value says. -/
def sizedBy (s : Segment) (size : Value) : Read Nat :=
  match width? size with
  | some width => s.sized width
  | none =>
    match size.shown? with
    | some shown => do refuse (.oddWidth (← get) shown)
    | none => throw (.ofCause .illegible)

/-- Whether a float lies outside the usable data, or so near its end that the count does not fit. -/
def endsBefore (s : Segment) (x : Float) (count : Int) : Bool :=
  x < 0 || (Value.Numeric.float (x + .ofInt count)).compare? (.int s.length) == some .gt

/-- Why nothing can be read at a float. -/
def faultAt (s : Segment) (x : Float) (count : Int) : Cause :=
  if s.endsBefore x count then .digitless "float" else .wrongKind

/-- Why no count of bytes can be moved over that is no integer. -/
def skipFault (s : Segment) (count : Value) (pos : Int) : Failure :=
  match count with
  | .float x =>
    if pos < 0 || x < 0 || s.endsBefore (.ofInt pos + x) 0 then
      .ofDamage (.oddRead (Value.floatText x) pos s.length)
    else .ofCause .wrongKind
  | _ => .ofCause .wrongKind

/-- Moves over as many bytes as a value says. -/
def skipBy (s : Segment) (count : Value) : Read Unit :=
  match count.int? with
  | some i => s.skip i
  | none => fun pos => .error (s.skipFault count pos) pos

theorem sizedBy_int (s : Segment) (size : Int) : s.sizedBy (.int size) = s.sized size := rfl

theorem skipBy_int (s : Segment) (count : Int) : s.skipBy (.int count) = s.skip count := rfl

/-! ### The position does not move back -/

theorem sizedBy_ok {s : Segment} {size : Value} {pos after : Int} {n : Nat}
    (read : s.sizedBy size pos = .ok n after) : pos ≤ after := by
  unfold sizedBy at read
  cases whole : width? size with
  | some width =>
    rw [whole] at read
    have := sized_ok read
    omega
  | none =>
    rw [whole] at read
    cases shown : size.shown? with
    | some _ => rw [shown] at read; cases read
    | none => rw [shown] at read; cases read

theorem skipBy_ok {s : Segment} {count : Value} {pos after : Int}
    (read : s.skipBy count pos = .ok () after) : pos ≤ after := by
  unfold skipBy at read
  cases whole : count.int? with
  | some i =>
    rw [whole] at read
    have := skip_ok read
    omega
  | none => rw [whole] at read; cases read

end DebugScopes.Segment
