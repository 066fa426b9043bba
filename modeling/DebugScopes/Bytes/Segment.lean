import DebugScopes.Failure.Trail
import DebugScopes.Text.Utf8

/-!
# Reading a data segment

A segment is a row of bytes with a usable length and a byte order. Reading it is an action on a
position (`Read`): a read that succeeds leaves the position behind what it has read, and one that
leaves the usable length fails and leaves the position where it was. A long number alone, which is
read byte by byte, stops at the byte that is missing.

* `take` claims bytes; `byte`, `half`, `word` and `sized` read a fixed number of them;
* `uleb128` reads seven bits a byte, the lowest first, up to a byte below `80`;
* `textAt` is the text at an address, up to a zero byte;
* `take_ok`, `byte_ok` and `uleb128_ok` say how far the position moves.
-/

namespace DebugScopes

/-- The order of the bytes in a number. -/
inductive ByteOrder
  | little
  | big
deriving DecidableEq, Repr

/-- The number that a row of bytes spells, the lowest byte first. -/
def ofBytes : List UInt8 → Nat
  | [] => 0
  | b :: rest => b.toNat + 256 * ofBytes rest

/-- The number that a row of bytes spells in a byte order. -/
def ByteOrder.number (order : ByteOrder) (bytes : List UInt8) : Nat :=
  match order with
  | .little => ofBytes bytes
  | .big => ofBytes bytes.reverse

/-- The byte order of a name. -/
def ByteOrder.ofName? : String → Except OrderFault ByteOrder
  | "little" => .ok .little
  | "big" => .ok .big
  | _ => .error .unknownName

/-- A row of bytes, its usable length, and the byte order of its numbers. -/
structure Segment where
  data : Array UInt8
  length : Int
  order : Except OrderFault ByteOrder

/-- An action that reads at a position and moves it. -/
abbrev Read (α : Type) := EStateM Failure Int α

namespace Segment

/-- Whether nothing is left to read. -/
def atEnd (s : Segment) (pos : Int) : Bool := s.length ≤ pos

/-- A segment with a position, as text. -/
def describe (s : Segment) (pos : Int) : String :=
  "ByteReader(pos=" ++ Numeral.markedHex pos ++ ", length=" ++ Numeral.markedHex s.length ++ ")"

/-- Claims `count` bytes and returns where they start. -/
def take (s : Segment) (count : Int) : Read Int := fun pos =>
  if pos < 0 ∨ count < 0 ∨ s.length < pos + count then
    .error (.ofDamage (.readPastEnd count pos s.length)) pos
  else .ok pos (pos + count)

/-- Moves over `count` bytes. -/
def skip (s : Segment) (count : Int) : Read Unit := do
  let _ ← s.take count

/-- One byte. -/
def byte (s : Segment) : Read Nat := do
  let start ← within .taken (s.take 1)
  match s.data[start.toNat]? with
  | some b => pure b.toNat
  | none => throw ⟨.missingByte, []⟩

/-- A number of `count` bytes; bytes that the data lacks are left out. -/
def number (s : Segment) (count : Nat) : Read Nat := do
  let start ← within .taken (s.take count)
  match s.order with
  | .ok order => pure (order.number (s.data.extract start.toNat (start.toNat + count)).toList)
  | .error fault => throw ⟨.byteOrder fault, []⟩

/-- A number of two bytes. -/
def half (s : Segment) : Read Nat := s.number 2

/-- A number of four bytes. -/
def word (s : Segment) : Read Nat := s.number 4

/-- A number of as many bytes as a descriptor declares. -/
def sized (s : Segment) (size : Int) : Read Nat :=
  if size = 1 then within .sizedItem s.byte
  else if size = 2 then within .sizedItem s.half
  else if size = 4 then within .sizedItem s.word
  else do refuse (.itemWidth (← get) size)

/-! ### How far the position moves -/

theorem take_ok {s : Segment} {count pos start after : Int}
    (read : s.take count pos = .ok start after) :
    start = pos ∧ after = pos + count ∧ 0 ≤ pos ∧ 0 ≤ count ∧ pos + count ≤ s.length := by
  simp only [take] at read
  split at read
  · cases read
  · cases read; omega

theorem within_ok {σ α : Type} {step : Step} {action : EStateM Failure σ α} {before after : σ}
    {a : α} (run : within step action before = .ok a after) : action before = .ok a after := by
  simp only [within] at run
  split at run
  · next success => cases run; exact success
  · cases run

theorem bind_ok {ε σ α β : Type} {action : EStateM ε σ α} {next : α → EStateM ε σ β}
    {before after : σ} {b : β} (run : (action >>= next) before = .ok b after) :
    ∃ a between, action before = .ok a between ∧ next a between = .ok b after := by
  simp only [bind, EStateM.bind] at run
  split at run
  · next a between success => exact ⟨a, between, success, run⟩
  · cases run

theorem byte_ok {s : Segment} {pos after : Int} {b : Nat} (read : s.byte pos = .ok b after) :
    after = pos + 1 ∧ 0 ≤ pos ∧ pos < s.length := by
  obtain ⟨start, between, claimed, found⟩ := bind_ok read
  have claim := take_ok (within_ok claimed)
  cases held : s.data[start.toNat]? with
  | none => rw [held] at found; cases found
  | some _ => rw [held] at found; cases found; omega

theorem number_ok {s : Segment} {count : Nat} {pos after : Int} {n : Nat}
    (read : s.number count pos = .ok n after) :
    after = pos + count ∧ 0 ≤ pos ∧ pos + count ≤ s.length := by
  obtain ⟨start, between, claimed, found⟩ := bind_ok read
  have claim := take_ok (within_ok claimed)
  cases order : s.order with
  | error _ => rw [order] at found; cases found
  | ok _ => rw [order] at found; cases found; omega

theorem skip_ok {s : Segment} {count pos after : Int} (read : s.skip count pos = .ok () after) :
    after = pos + count ∧ 0 ≤ pos ∧ 0 ≤ count ∧ pos + count ≤ s.length := by
  obtain ⟨start, between, claimed, found⟩ := bind_ok read
  have claim := take_ok claimed
  cases found; omega

theorem sized_ok {s : Segment} {size pos after : Int} {n : Nat}
    (read : s.sized size pos = .ok n after) :
    after = pos + size ∧ 0 ≤ pos ∧ pos + size ≤ s.length ∧ (size = 1 ∨ size = 2 ∨ size = 4) := by
  by_cases one : size = 1
  · rw [sized, if_pos one] at read
    have moved := byte_ok (within_ok read)
    omega
  by_cases two : size = 2
  · rw [sized, if_neg one, if_pos two] at read
    have moved := number_ok (within_ok read)
    omega
  by_cases four : size = 4
  · rw [sized, if_neg one, if_neg two, if_pos four] at read
    have moved := number_ok (within_ok read)
    omega
  · rw [sized, if_neg one, if_neg two, if_neg four] at read
    cases read

/-! ### Long numbers and text -/

/-- A number of any size, seven bits a byte, the lowest first. The last byte is below `80`. -/
def uleb128 (s : Segment) : Read Nat := fun pos =>
  match _read : within .septet s.byte pos with
  | .error e after => .error e after
  | .ok b after =>
    if b < 0x80 then .ok b after
    else
      match uleb128 s after with
      | .error e after => .error e after
      | .ok rest after => .ok (b % 0x80 + 0x80 * rest) after
termination_by pos => (s.length - pos).toNat
decreasing_by
  have moved := byte_ok (within_ok _read)
  omega

theorem uleb128_ok {s : Segment} {pos after : Int} {n : Nat} (read : s.uleb128 pos = .ok n after) :
    pos < after ∧ 0 ≤ pos ∧ after ≤ s.length := by
  fun_induction uleb128 s pos generalizing n after with
  | case1 => cases read
  | case2 pos b between found small =>
    have moved := byte_ok (within_ok found)
    cases read; omega
  | case3 => cases read
  | case4 pos b between found large rest last more ih =>
    have moved := byte_ok (within_ok found)
    have further := ih more
    cases read; omega

/-- The text at an address, up to a zero byte. -/
def textAt (s : Segment) (addr : Int) : Except Damage String :=
  if addr < 0 ∨ s.length ≤ addr then .error (.textOutside addr s.length)
  else
    let bytes := (s.data.extract addr.toNat s.length.toNat).toList
    if bytes.contains 0 then .ok (Utf8.decode (bytes.takeWhile (· != 0)))
    else .error (.textUnterminated addr)

end Segment

end DebugScopes
