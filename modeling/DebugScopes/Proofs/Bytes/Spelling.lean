import DebugScopes.Proofs.Bytes.Numbers

/-!
# Spelling numbers

The way from numbers to bytes, and back again by reading. A number of so many bytes is spelled in
either byte order.

* `Segment.Holds`: bytes that stand at a position of a segment;
* `ByteOrder.number_spell`: what is spelled is read;
* `Segment.Holds.byte`, `Segment.Holds.sized`: reading from a segment;
* `Segment.overrun_of_byte`: a byte that cannot be read lies behind the usable data.
-/

namespace DebugScopes

/-! ### Numbers of a fixed width -/

/-- The lowest bytes of a number, the lowest first. -/
def toBytes : Nat → Nat → List UInt8
  | 0, _ => []
  | width + 1, n => UInt8.ofNat n :: toBytes width (n / 256)

theorem length_toBytes (width n : Nat) : (toBytes width n).length = width := by
  induction width generalizing n with
  | zero => rfl
  | succ width ih => rw [toBytes, List.length_cons, ih]

theorem ofBytes_toBytes {width n : Nat} (fits : n < 256 ^ width) :
    ofBytes (toBytes width n) = n := by
  induction width generalizing n with
  | zero =>
    rw [Nat.pow_zero] at fits
    rw [toBytes, ofBytes]
    omega
  | succ width ih =>
    rw [Nat.pow_succ] at fits
    have above : n / 256 < 256 ^ width := by omega
    rw [toBytes, ofBytes, ih above, UInt8.toNat_ofNat']
    omega

/-- The bytes of a number in a byte order. -/
def ByteOrder.spell (order : ByteOrder) (width n : Nat) : List UInt8 :=
  match order with
  | .little => toBytes width n
  | .big => (toBytes width n).reverse

@[simp] theorem ByteOrder.length_spell (order : ByteOrder) (width n : Nat) :
    (order.spell width n).length = width := by
  cases order with
  | little => exact length_toBytes width n
  | big => exact List.length_reverse.trans (length_toBytes width n)

/-- A number that fits its width is what its bytes spell. -/
theorem ByteOrder.number_spell (order : ByteOrder) {width n : Nat} (fits : n < 256 ^ width) :
    order.number (order.spell width n) = n := by
  cases order with
  | little => exact ofBytes_toBytes fits
  | big =>
    show ofBytes (toBytes width n).reverse.reverse = n
    rw [List.reverse_reverse, ofBytes_toBytes fits]

theorem ByteOrder.spell_one (order : ByteOrder) (n : Nat) : order.spell 1 n = [UInt8.ofNat n] := by
  cases order <;> rfl

/-! ### Bytes that stand in a segment -/

namespace Segment

/-- The bytes stand at a position, inside the usable data. -/
structure Holds (s : Segment) (pos : Nat) (bytes : List UInt8) : Prop where
  stand : bytes <+: s.data.toList.drop pos
  short : ((pos + bytes.length : Nat) : Int) ≤ s.length

variable {s : Segment} {pos : Nat}

theorem holds_append {front back : List UInt8} :
    s.Holds pos (front ++ back) ↔ s.Holds pos front ∧ s.Holds (pos + front.length) back := by
  constructor
  · rintro ⟨⟨rest, stand⟩, short⟩
    rw [List.length_append] at short
    refine ⟨⟨⟨back ++ rest, ?_⟩, by omega⟩, ⟨⟨rest, ?_⟩, by omega⟩⟩
    · rw [← stand, List.append_assoc]
    · rw [← List.drop_drop, ← stand, List.append_assoc, List.drop_left]
  · rintro ⟨⟨⟨rest, stand⟩, short⟩, ⟨⟨rest', stand'⟩, short'⟩⟩
    rw [← List.drop_drop, ← stand, List.drop_left] at stand'
    rw [← stand'] at stand
    refine ⟨⟨rest', ?_⟩, ?_⟩
    · rw [← stand, List.append_assoc]
    · rw [List.length_append]
      omega

theorem Holds.head {b : UInt8} {rest : List UInt8} (held : s.Holds pos (b :: rest)) :
    s.data[pos]? = some b := by
  obtain ⟨⟨more, stand⟩, -⟩ := held
  have first : (s.data.toList.drop pos)[0]? = some b := by rw [← stand]; rfl
  rwa [List.getElem?_drop, Nat.add_zero, Array.getElem?_toList] at first

theorem Holds.tail {b : UInt8} {rest : List UInt8} (held : s.Holds pos (b :: rest)) :
    s.Holds (pos + 1) rest :=
  (holds_append.1 (show s.Holds pos ([b] ++ rest) from held)).2

theorem Holds.extract {bytes : List UInt8} (held : s.Holds pos bytes) (stop : Nat)
    (behind : pos + bytes.length ≤ stop) :
    ∃ more, (s.data.extract pos stop).toList = bytes ++ more := by
  obtain ⟨⟨rest, stand⟩, -⟩ := held
  refine ⟨rest.take (stop - pos - bytes.length), ?_⟩
  rw [Array.toList_extract, List.extract_eq_drop_take', List.drop_take, ← stand,
    List.take_append, List.take_of_length_le (by omega)]

/-! ### Reading what stands there -/

/-- Bytes can be claimed where bytes stand. -/
theorem Holds.take {bytes : List UInt8} (held : s.Holds pos bytes) :
    s.take bytes.length pos = .ok (pos : Int) ((pos + bytes.length : Nat) : Int) := by
  have short := held.short
  exact take_eq_ok.2 ⟨rfl, rfl, by omega, by omega, by omega⟩

theorem Holds.byte {b : UInt8} {rest : List UInt8} (held : s.Holds pos (b :: rest)) :
    s.byte pos = .ok b.toNat ((pos + 1 : Nat) : Int) := by
  have short := held.short
  rw [List.length_cons] at short
  refine byte_eq_ok.2 ⟨by omega, by omega, ?_, rfl⟩
  rw [Int.toNat_natCast, held.head]
  rfl

variable {order : ByteOrder} {width n : Nat}

theorem Holds.number (held : s.Holds pos (order.spell width n)) (ordered : s.order = .ok order)
    (fits : n < 256 ^ width) : s.number width pos = .ok n ((pos + width : Nat) : Int) := by
  have claimed := held.take
  rw [ByteOrder.length_spell] at claimed
  obtain ⟨more, stand⟩ := held.extract (pos + (order.spell width n).length) (Nat.le_refl _)
  rw [ByteOrder.length_spell] at stand
  have same : (s.data.extract pos (pos + width)).toList = order.spell width n := by
    have short := congrArg List.length stand
    rw [List.length_append, ByteOrder.length_spell, Array.length_toList,
      Array.size_extract] at short
    obtain rfl : more = [] := List.eq_nil_of_length_eq_zero (by omega)
    rw [stand, List.append_nil]
  unfold Segment.number
  rw [bind_of_ok (within_eq_ok.2 claimed), ordered]
  show EStateM.Result.ok (order.number _) _ = _
  rw [Int.toNat_natCast, same, order.number_spell fits]

/-- The widths that an item may have. -/
def IsWidth (width : Nat) : Prop := width = 1 ∨ width = 2 ∨ width = 4

/-- An item that is spelled in its width is read. -/
theorem Holds.sized (held : s.Holds pos (order.spell width n)) (ordered : s.order = .ok order)
    (fits : n < 256 ^ width) (wide : IsWidth width) :
    s.sized width pos = .ok n ((pos + width : Nat) : Int) := by
  unfold Segment.sized
  rcases wide with rfl | rfl | rfl
  · rw [if_pos (show ((1 : Nat) : Int) = 1 from rfl), within_eq_ok]
    rw [ByteOrder.spell_one] at held
    have small : n < 2 ^ 8 := fits
    have read := held.byte
    rwa [UInt8.toNat_ofNat', Nat.mod_eq_of_lt small] at read
  · rw [if_neg (by decide), if_pos (show ((2 : Nat) : Int) = 2 from rfl), within_eq_ok]
    exact held.number ordered fits
  · rw [if_neg (by decide), if_neg (by decide), if_pos (show ((4 : Nat) : Int) = 4 from rfl),
      within_eq_ok]
    exact held.number ordered fits

end Segment

/-! ### Bytes that are read, and bytes that are not -/

namespace Segment

variable {s : Segment} {e : Failure} {pos after : Int}

/-- A byte in front of the end of the usable data. -/
theorem holds_byte {start : Nat} {x : UInt8} (there : s.data[start]? = some x)
    (inside : (start : Int) < s.length) : s.Holds start [x] := by
  rw [← Array.getElem?_toList] at there
  obtain ⟨short, rfl⟩ := List.getElem?_eq_some_iff.1 there
  refine ⟨⟨s.data.toList.drop (start + 1), ?_⟩, ?_⟩
  · rw [List.drop_eq_getElem_cons short]
    rfl
  · rw [List.length_singleton]
    omega

/-- A byte that is read stands there. -/
theorem exists_holds_of_byte {start b : Nat} (read : s.byte start = .ok b after) :
    ∃ x : UInt8, x.toNat = b ∧ s.Holds start [x] ∧ after = ((start + 1 : Nat) : Int) := by
  obtain ⟨-, short, found, rfl⟩ := byte_eq_ok.1 read
  obtain ⟨x, there, rfl⟩ := Option.map_eq_some_iff.1 found
  rw [Int.toNat_natCast] at there
  exact ⟨x, rfl, holds_byte there short, rfl⟩

/-- A failure is that of the read of one byte that would leave the usable data, on the way from a
position. -/
def Overrun (s : Segment) (pos : Int) (e : Failure) : Prop :=
  e.cause = .damage (.readPastEnd 1 (max pos s.length) s.length)

theorem Overrun.within {e' : Failure} (overrun : s.Overrun pos e') (same : e.cause = e'.cause) :
    s.Overrun pos e := same.trans overrun

/-- What runs past the end further on does so from here. -/
theorem Overrun.earlier (overrun : s.Overrun after e) (moved : pos ≤ after)
    (short : after ≤ s.length) : s.Overrun pos e := by
  unfold Overrun at overrun ⊢
  rw [overrun, max_eq_right short, max_eq_right (moved.trans short)]

/-- Where the usable data has all its bytes, only a byte behind it cannot be read. -/
theorem overrun_of_byte (usable : s.length ≤ s.data.size) (positive : 0 ≤ pos)
    (failed : s.byte pos = .error e after) : s.Overrun pos e := by
  unfold byte at failed
  rcases bind_eq_error failed with claim | ⟨start, between, claimed, missing⟩
  · obtain ⟨e', claim, same⟩ := within_eq_error claim
    refine Overrun.within ?_ same
    unfold take at claim
    split at claim
    · next outside =>
      cases claim
      have behind : s.length ≤ pos := by omega
      rw [Overrun, max_eq_left behind]
      rfl
    · cases claim
  · obtain ⟨rfl, -, -, -, short⟩ := take_eq_ok.1 (within_eq_ok.1 claimed)
    have inside : start.toNat < s.data.size := by omega
    rw [Array.getElem?_eq_getElem inside] at missing
    cases missing

end Segment

end DebugScopes
