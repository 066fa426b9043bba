import DebugScopes.Proofs.Decoding.Contract
import DebugScopes.Proofs.Decoding.RangeMarks

/-!
# Lists of ranges

A list of ranges is a row of items, two for a pair, and each item says where its number stands and
how wide it is. What a list tells is said here by the numbers alone: the pairs from its slot on, up
to the first pair of zeros. A list that cannot be read to its end adds the pairs in front of the one
where it fails.

* `Image.half?`: the number of the item in a slot;
* `Image.PairsAt`: the pairs that stand in a table from a slot on;
* `Decode.decode_ranges_outcomes`: when a list is read, when and why it is not, and what it adds.
-/

namespace DebugScopes

open Dwarf

/-! ### Numbers in slots -/

namespace Image

/-- The number of the item in a slot, at the address and as wide as the item says. It can be read if
the item is one, two or four bytes wide and lies in the usable data. -/
def half? (image : Image) (order : ByteOrder) (slot : Nat) : Option Nat :=
  image.symbols.rows[slot]?.bind fun d =>
    if (d.size = 1 ∨ d.size = 2 ∨ d.size = 4) ∧ 0 ≤ d.addr ∧ d.addr + d.size ≤ image.length then
      some (order.number (image.data.extract d.addr.toNat (d.addr.toNat + d.size.toNat)).toList)
    else none

/-- From a slot on the items are these pairs, and none is a pair of zeros. -/
def PairsAt (image : Image) (order : ByteOrder) (slot : Nat) (pairs : List (Nat × Nat)) : Prop :=
  ∀ k pair, pairs[k]? = some pair → image.half? order (slot + 2 * k) = some pair.1 ∧
    image.half? order (slot + 2 * k + 1) = some pair.2 ∧ pair ≠ (0, 0)

/-- In a slot there is no pair, or one of zeros. -/
def StopsAt (image : Image) (order : ByteOrder) (slot : Nat) : Prop :=
  ∀ low high, image.half? order slot = some low → image.half? order (slot + 1) = some high →
    (low, high) = (0, 0)

variable {image : Image} {order : ByteOrder} {slot : Nat} {pairs others : List (Nat × Nat)}

theorem lt_size_of_half? {n : Nat} (read : image.half? order slot = some n) :
    slot < image.symbols.size := by
  obtain ⟨d, found, -⟩ := Option.bind_eq_some_iff.1 read
  exact (Array.getElem?_eq_some_iff.1 found).1

theorem pairsAt_nil : image.PairsAt order slot [] := nofun

/-- A pair in front of pairs. -/
theorem PairsAt.cons {low high : Nat} (first : image.half? order slot = some low)
    (second : image.half? order (slot + 1) = some high) (nonzero : ¬ (low = 0 ∧ high = 0))
    (rest : image.PairsAt order (slot + 2) pairs) :
    image.PairsAt order slot ((low, high) :: pairs) := by
  intro k pair there
  cases k with
  | zero =>
    obtain rfl := Option.some.inj there
    exact ⟨first, second, fun zeros => nonzero (Prod.mk.inj zeros)⟩
  | succ k =>
    have further := rest k pair there
    rwa [show slot + 2 + 2 * k = slot + 2 * (k + 1) by omega] at further

theorem PairsAt.length_le (here : image.PairsAt order slot pairs)
    (stops : image.StopsAt order (slot + 2 * others.length)) : pairs.length ≤ others.length := by
  by_contra longer
  obtain ⟨low, high, nonzero⟩ := here others.length pairs[others.length]
    (List.getElem?_eq_getElem (Nat.not_le.1 longer))
  exact nonzero (stops _ _ low high)

/-- The pairs of a list are determined by where it starts. -/
theorem PairsAt.unique (here : image.PairsAt order slot pairs)
    (stops : image.StopsAt order (slot + 2 * pairs.length))
    (there : image.PairsAt order slot others)
    (stops' : image.StopsAt order (slot + 2 * others.length)) : pairs = others := by
  have same : pairs.length = others.length :=
    Nat.le_antisymm (here.length_le stops') (there.length_le stops)
  apply List.ext_getElem same
  intro k inside inside'
  obtain ⟨low, high, -⟩ := here k _ (List.getElem?_eq_getElem inside)
  obtain ⟨low', high', -⟩ := there k _ (List.getElem?_eq_getElem inside')
  exact Prod.ext (Option.some.inj (low.symm.trans low')) (Option.some.inj (high.symm.trans high'))

end Image

/-! ### Reading numbers in slots -/

namespace Segment

variable {s : Segment} {order : ByteOrder} {pos after : Int} {n : Nat}

theorem number_eq_ok (ordered : s.order = .ok order) {count : Nat} :
    s.number count pos = .ok n after ↔ (0 ≤ pos ∧ pos + count ≤ s.length) ∧ after = pos + count ∧
      n = order.number (s.data.extract pos.toNat (pos.toNat + count)).toList := by
  unfold number
  simp only [ordered, bind_eq_ok, within_eq_ok, take_eq_ok]
  constructor
  · rintro ⟨_, _, ⟨rfl, rfl, positive, -, short⟩, ran⟩
    cases ran
    exact ⟨⟨positive, short⟩, rfl, rfl⟩
  · rintro ⟨⟨positive, short⟩, rfl, rfl⟩
    exact ⟨pos, _, ⟨rfl, rfl, positive, by omega, short⟩, rfl⟩

/-- A byte is a number of one byte, in either order. -/
theorem byte_eq_number (ordered : s.order = .ok order) (whole : s.length ≤ s.data.size) :
    s.byte pos = .ok n after ↔ s.number 1 pos = .ok n after := by
  have single (b : UInt8) : order.number [b] = b.toNat := by
    cases order <;> exact Nat.add_zero _
  have byte (inside : pos.toNat < s.data.size) :
      order.number (s.data.extract pos.toNat (pos.toNat + 1)).toList =
        s.data[pos.toNat].toNat := by
    rw [← single]
    congr 1
    simp [Array.toList_extract, List.extract, List.take_one, inside]
  rw [byte_eq_ok, number_eq_ok ordered]
  constructor
  · rintro ⟨positive, short, held, rfl⟩
    have inside : pos.toNat < s.data.size := by omega
    rw [Array.getElem?_eq_getElem inside] at held
    exact ⟨⟨positive, by omega⟩, rfl, (Option.some.inj held).symm.trans (byte inside).symm⟩
  · rintro ⟨⟨positive, short⟩, rfl, rfl⟩
    have inside : pos.toNat < s.data.size := by omega
    rw [Array.getElem?_eq_getElem inside]
    exact ⟨positive, by omega, congrArg some (byte inside).symm, rfl⟩

/-- A number is read of an item that is one, two or four bytes wide and lies in the usable data. -/
theorem sized_eq_ok (ordered : s.order = .ok order) (whole : s.length ≤ s.data.size) {size : Int} :
    s.sized size pos = .ok n after ↔
      ((size = 1 ∨ size = 2 ∨ size = 4) ∧ 0 ≤ pos ∧ pos + size ≤ s.length) ∧ after = pos + size ∧
        n = order.number (s.data.extract pos.toNat (pos.toNat + size.toNat)).toList := by
  by_cases one : size = 1
  · subst one
    rw [sized, if_pos rfl, within_eq_ok, byte_eq_number ordered whole, number_eq_ok ordered]
    simp
  by_cases two : size = 2
  · subst two
    rw [sized, if_neg (by decide), if_pos rfl, within_eq_ok, half, number_eq_ok ordered]
    simp
  by_cases four : size = 4
  · subst four
    rw [sized, if_neg (by decide), if_neg (by decide), if_pos rfl, within_eq_ok, word,
      number_eq_ok ordered]
    simp
  · rw [sized, if_neg one, if_neg two, if_neg four]
    refine iff_of_false (fun read => ?_) ?_
    · cases read
    · rintro ⟨⟨rfl | rfl | rfl, -⟩, -⟩ <;> contradiction

end Segment

/-- A cause that says of an item that it cannot be read: it leaves the usable data or has a width
that none has, unless that width has too many digits to be named. -/
def Cause.Unreadable (cause : Cause) : Prop :=
  cause = .illegible ∨ ∃ damage, cause = .damage damage ∧
    (damage.kind = .overrun ∨ damage.kind = .itemWidth)

theorem unreadable_ofDamage {damage : Damage}
    (kind : damage.kind = .overrun ∨ damage.kind = .itemWidth) :
    (Failure.ofDamage damage).cause.Unreadable := by
  show (if damage.isLegible then Cause.damage damage else .illegible).Unreadable
  by_cases legible : damage.isLegible
  · rw [if_pos legible]
    exact .inr ⟨damage, rfl, kind⟩
  · rw [if_neg legible]
    exact .inl rfl

section Bounds

variable {image : Image} {order : ByteOrder} {slot : Nat} {w : Work}

/-- A read of an item fails only because the item cannot be read. -/
theorem unreadable_sized (size : Int) :
    Triple (fun _ => True) ((image.segment (.ok order)).sized size) (fun _ _ => True)
      Cause.Unreadable :=
  Segment.triple_sized image.length_le rfl (fun _ _ => unreadable_ofDamage (.inl rfl))
    fun _ _ _ _ => unreadable_ofDamage (.inr rfl)

theorem inSlot_natCast (image : Image) (order : Except OrderFault ByteOrder) (slot : Nat) :
    (Source.of image order).items.inSlot slot =
      match image.symbols.rows[slot]? with
      | some d => .ok (.ofDescriptor d)
      | none => .error (.noSlot slot image.symbols.size) := by
  rw [Source.inSlot_of]
  unfold SymbolTable.inSlot Slots.inSlot
  rw [if_neg (by omega), Int.toNat_natCast,
    show image.symbols.slots.row? slot = image.symbols.rows[slot]? from rfl]
  cases image.symbols.rows[slot]? <;> rfl

/-- The number of a bound is the one of the item in its slot. -/
theorem bound?_eq_half? (image : Image) (order : ByteOrder) (slot : Nat) :
    (Source.of image (.ok order)).bound? slot = image.half? order slot := by
  unfold Source.bound? Image.half?
  rw [inSlot_natCast]
  cases image.symbols.rows[slot]? with
  | none => rfl
  | some d =>
    apply Option.ext
    intro n
    show ((image.segment (.ok order)).sized d.size).value? d.addr = some n ↔ _
    rw [Decode.value?_eq_some]
    simp only [Segment.sized_eq_ok (s := image.segment (.ok order)) rfl image.length_le,
      Option.bind_some, Option.ite_none_right_eq_some, Option.some.injEq]
    constructor
    · rintro ⟨_, readable, -, rfl⟩
      exact ⟨readable, rfl⟩
    · rintro ⟨readable, rfl⟩
      exact ⟨_, readable, rfl, rfl⟩

/-- A bound that has an item but cannot be read fails for that, and leaves everything as it was. -/
theorem bound_of_unread (inside : slot < image.symbols.size)
    (unread : image.half? order slot = none) :
    ∃ e, Decode.bound (.of image (.ok order)) slot w = .error e w ∧ e.cause.Unreadable := by
  cases run : Decode.bound (.of image (.ok order)) slot w with
  | ok n w' =>
    obtain ⟨read, -⟩ := Decode.bound_eq_ok.1 run
    rw [bound?_eq_half?, unread] at read
    cases read
  | error e w' =>
    unfold Decode.bound at run
    rw [inSlot_natCast, Array.getElem?_eq_getElem inside] at run
    change Decode.elsewhere _ (within .listBound ((image.segment (.ok order)).sized _)) w = _ at run
    unfold Decode.elsewhere at run
    split at run
    · cases run
    · next failed =>
      cases run
      exact ⟨_, rfl, (unreadable_sized _).within.error trivial failed⟩

end Bounds

/-! ### Reading a list -/

namespace Decode

variable {image : Image} {order : ByteOrder} {entry base list : Int} {slot : Nat} {w : Work}

/-- What comes of a list behind its pairs: it ends with a pair of zeros, the table has no further
pair, or the next pair cannot be read. -/
inductive ListEnd (image : Image) (order : ByteOrder) (entry list : Int) (slot : Nat) (w : Work) :
    EStateM.Result Failure Work Unit → Prop
  | zeros (low : image.half? order slot = some 0) (high : image.half? order (slot + 1) = some 0) :
      ListEnd image order entry list slot w (.ok () w)
  | offTable {e : Failure} (short : image.symbols.size ≤ slot + 1)
      (damage : e.cause = .damage (.listUnterminated entry list)) :
      ListEnd image order entry list slot w (.error e w)
  | unread {e : Failure} (more : slot + 1 < image.symbols.size)
      (unread : image.half? order slot = none ∨ image.half? order (slot + 1) = none)
      (fails : e.cause.Unreadable) : ListEnd image order entry list slot w (.error e w)

theorem ListEnd.stopsAt {result : EStateM.Result Failure Work Unit}
    (ends : ListEnd image order entry list slot w result) : image.StopsAt order slot := by
  intro low high first second
  cases ends with
  | zeros low' high' =>
    rw [low'] at first
    rw [high'] at second
    cases first
    cases second
    rfl
  | offTable short => exact absurd (Image.lt_size_of_half? second) (Nat.not_lt.2 short)
  | unread more unread =>
    rcases unread with none_low | none_high
    · exact nomatch none_low.symm.trans first
    · exact nomatch none_high.symm.trans second

/-- A list that is read from a slot on adds its pairs, whatever comes of it behind them. -/
theorem exists_pairs_rangesFrom (image : Image) (order : ByteOrder) (entry list base : Int)
    (slot : Nat) (w : Work) :
    ∃ pairs, image.PairsAt order slot pairs ∧
      ListEnd image order entry list (slot + 2 * pairs.length)
        (w.adding (pairs.map (RangeMark.shifted base)))
        (rangesFrom (.of image (.ok order)) entry list base slot w) := by
  induction slot using Source.pairs?.induct (.of image (.ok order)) generalizing w with
  | case1 slot ended =>
    refine ⟨[], Image.pairsAt_nil, ?_⟩
    rw [List.map_nil, w.adding_nil, rangesFrom, dif_pos ended]
    exact .offTable (e := .ofDamage (.listUnterminated entry list)) ended rfl
  | case2 slot more low high second first zeros =>
    obtain ⟨rfl, rfl⟩ := zeros
    rw [bound?_eq_half?] at first second
    refine ⟨[], Image.pairsAt_nil, ?_⟩
    rw [rangesFrom_of_bounds (Nat.not_le.1 more) ((bound?_eq_half? ..).trans first)
      ((bound?_eq_half? ..).trans second), if_pos ⟨rfl, rfl⟩, List.map_nil, w.adding_nil]
    exact .zeros first second
  | case3 slot more low high second first nonzero ih =>
    obtain ⟨pairs, stand, ends⟩ := ih (w := w.adding [RangeMark.shifted base (low, high)])
    rw [rangesFrom_of_bounds (Nat.not_le.1 more) first second, if_neg nonzero]
    rw [bound?_eq_half?] at first second
    refine ⟨(low, high) :: pairs, .cons first second nonzero stand, ?_⟩
    rw [Work.adding_adding] at ends
    rwa [List.length_cons,
      show slot + 2 * (pairs.length + 1) = slot + 2 + 2 * pairs.length by omega]
  | case4 slot more unread =>
    have inside : slot + 1 < image.symbols.size := Nat.not_le.1 more
    refine ⟨[], Image.pairsAt_nil, ?_⟩
    rw [List.map_nil, w.adding_nil, rangesFrom, dif_neg more]
    simp only [bound?_eq_half?] at unread
    cases first : image.half? order slot with
    | none =>
      obtain ⟨e, failed, fails⟩ := bound_of_unread (w := w) (by omega) first
      rw [bind_of_error failed]
      exact .unread inside (.inl first) fails
    | some low =>
      have none_high : image.half? order (slot + 1) = none := by
        cases second : image.half? order (slot + 1) with
        | none => rfl
        | some high => exact absurd second (unread low high first)
      obtain ⟨e, failed, fails⟩ := bound_of_unread (w := w) inside none_high
      rw [bind_of_ok (bound_eq_ok.2 ⟨(bound?_eq_half? ..).trans first, rfl⟩)]
      show ListEnd _ _ _ _ _ _ ((Decode.bound _ (slot + 1) >>= _) w)
      rw [bind_of_error failed]
      exact .unread inside (.inr none_high) fails

section Outcomes

variable {w' : Work} {e : Failure}

/-- A list is read exactly if its pairs stand in front of a pair of zeros. -/
theorem rangesFrom_eq_ok_iff :
    rangesFrom (.of image (.ok order)) entry list base slot w = .ok () w' ↔
      ∃ pairs, image.PairsAt order slot pairs ∧
        image.half? order (slot + 2 * pairs.length) = some 0 ∧
          image.half? order (slot + 2 * pairs.length + 1) = some 0 ∧
            w' = w.adding (pairs.map (RangeMark.shifted base)) := by
  obtain ⟨pairs, stand, ends⟩ := exists_pairs_rangesFrom image order entry list base slot w
  have stops := ends.stopsAt
  constructor
  · intro run
    rw [run] at ends
    cases ends with
    | zeros low high => exact ⟨pairs, stand, low, high, rfl⟩
  · rintro ⟨others, stand', low, high, rfl⟩
    have zeros : image.StopsAt order (slot + 2 * others.length) := by
      intro first second is_first is_second
      rw [low] at is_first
      rw [high] at is_second
      cases is_first
      cases is_second
      rfl
    obtain rfl := stand.unique stops stand' zeros
    generalize rangesFrom (.of image (.ok order)) entry list base slot w = result at ends ⊢
    cases ends with
    | zeros => rfl
    | offTable short => exact absurd (Image.lt_size_of_half? high) (Nat.not_lt.2 short)
    | unread _ unread =>
      rw [low, high] at unread
      rcases unread with none_low | none_high
      · cases none_low
      · cases none_high

/-- A list that cannot be read to its end adds the pairs in front of the one where it fails. -/
theorem exists_pairs_of_error
    (failed : rangesFrom (.of image (.ok order)) entry list base slot w = .error e w') :
    ∃ pairs, image.PairsAt order slot pairs ∧
      w' = w.adding (pairs.map (RangeMark.shifted base)) ∧
        (image.symbols.size ≤ slot + 2 * pairs.length + 1 ∧
            e.cause = .damage (.listUnterminated entry list) ∨
          slot + 2 * pairs.length + 1 < image.symbols.size ∧
            (image.half? order (slot + 2 * pairs.length) = none ∨
              image.half? order (slot + 2 * pairs.length + 1) = none) ∧ e.cause.Unreadable) := by
  obtain ⟨pairs, stand, ends⟩ := exists_pairs_rangesFrom image order entry list base slot w
  rw [failed] at ends
  cases ends with
  | offTable short damage => exact ⟨pairs, stand, rfl, .inl ⟨short, damage⟩⟩
  | unread more unread fails => exact ⟨pairs, stand, rfl, .inr ⟨more, unread, fails⟩⟩

/-- An item that cannot be read does not make a list malformed. -/
theorem kind_ne_of_unreadable (fails : e.cause.Unreadable) :
    e.damage?.map Damage.kind ≠ some .malformedRange := by
  unfold Failure.damage?
  rcases fails with illegible | ⟨damage, is_damage, kind⟩
  · rw [illegible]
    nofun
  · rw [is_damage]
    intro malformed
    have malformed : damage.kind = .malformedRange := Option.some.inj malformed
    rw [malformed] at kind
    rcases kind with overrun | width
    · cases overrun
    · cases width

/-- A list is malformed exactly if all pairs up to the end of the table can be read, and none is of
zeros. -/
theorem malformed_iff :
    (∃ e w', rangesFrom (.of image (.ok order)) entry list base slot w = .error e w' ∧
        e.damage?.map Damage.kind = some .malformedRange) ↔
      ∃ pairs, image.PairsAt order slot pairs ∧
        image.symbols.size ≤ slot + 2 * pairs.length + 1 := by
  constructor
  · rintro ⟨e, w', failed, malformed⟩
    obtain ⟨pairs, stand, -, ⟨short, -⟩ | ⟨-, -, fails⟩⟩ := exists_pairs_of_error failed
    · exact ⟨pairs, stand, short⟩
    · exact absurd malformed (kind_ne_of_unreadable fails)
  · rintro ⟨others, stand', short'⟩
    obtain ⟨pairs, stand, ends⟩ := exists_pairs_rangesFrom image order entry list base slot w
    have stops' : image.StopsAt order (slot + 2 * others.length) := fun _ _ _ second =>
      absurd (Image.lt_size_of_half? second) (Nat.not_lt.2 short')
    obtain rfl := stand.unique ends.stopsAt stand' stops'
    generalize rangesFrom (.of image (.ok order)) entry list base slot w = result at ends ⊢
    cases ends with
    | zeros _ high => exact absurd (Image.lt_size_of_half? high) (Nat.not_lt.2 short')
    | offTable _ damage => exact ⟨_, _, rfl, by rw [Failure.damage?, damage]; rfl⟩
    | unread more => exact absurd more (Nat.not_lt.2 short')

end Outcomes

/-! ### Attributes with the address of a list -/

section Attributes

variable {src : Source} {subject : Subject} {attr form width : Int} {address : Nat}

/-- An attribute with the address of a list adds the ranges of the list, and both cursors move
behind it. -/
theorem decode_ranges (role : Attribute.role attr = .ranges) (known : Form.width? form = some width)
    (read : src.number? form w.pos = some address) :
    decode src subject attr form w =
      (do let slot ← within .listStart (checked (src.items.slotOf address))
          rangesFrom src subject.addr address subject.base slot
          moveSlot 1) { w with pos := w.pos + width } := by
  have step : stepOver src attr form = moveSlot 1 := by
    unfold stepOver stepData
    rw [Form.advance_of_width? known, if_neg (by simp [role])]
    rfl
  unfold decode takeIn
  rw [if_neg (by simp [role]), step, role]
  simp only [bind_assoc]
  rw [bind_of_ok (within_eq_ok.2 (value_eq_ok.2 ⟨width, known, read, rfl⟩))]

theorem decode_ranges_of_slot (role : Attribute.role attr = .ranges)
    (known : Form.width? form = some width) (read : src.number? form w.pos = some address)
    (found : src.items.slot? address = some slot) :
    decode src subject attr form w =
      (do rangesFrom src subject.addr address subject.base slot
          moveSlot 1) { w with pos := w.pos + width } := by
  rw [decode_ranges role known read]
  unfold Slots.slotOf
  rw [found]
  rfl

/-- Without a descriptor at the address there is no list. -/
theorem decode_ranges_of_none (role : Attribute.role attr = .ranges)
    (known : Form.width? form = some width) (read : src.number? form w.pos = some address)
    (missing : src.items.slot? address = none) :
    ∃ e, decode src subject attr form w = .error e { w with pos := w.pos + width } ∧
      e.damage? = some (.noDescriptorAt address) := by
  rw [decode_ranges role known read]
  unfold Slots.slotOf
  rw [missing]
  exact ⟨_, rfl, rfl⟩

theorem moveSlot_eq_ok {action : Decode Unit} {w' : Work} :
    (do action; moveSlot 1) w = .ok () w' ↔
      ∃ between, action w = .ok () between ∧ w' = { between with slot := between.slot + 1 } := by
  rw [bind_eq_ok]
  constructor
  · rintro ⟨_, between, ran, moved⟩
    cases moved
    exact ⟨between, ran, rfl⟩
  · rintro ⟨between, ran, rfl⟩
    exact ⟨(), between, ran, rfl⟩

theorem moveSlot_eq_error {action : Decode Unit} {e : Failure} {w' : Work} :
    (do action; moveSlot 1) w = .error e w' ↔ action w = .error e w' := by
  constructor
  · intro failed
    rcases bind_eq_error failed with failed | ⟨_, _, -, moved⟩
    · exact failed
    · cases moved
  · exact bind_of_error

end Attributes

/-- An attribute with the address of a list is decoded exactly if pairs stand from the slot of the
list on up to a pair of zeros in the table. It adds these pairs as ranges, in their order and
counted from the base. Without a descriptor at the address it is refused and adds nothing. Otherwise
it adds the pairs in front of the one where the list fails: the table ends there, which alone is
told as a malformed range, or the pair cannot be read. -/
theorem decode_ranges_outcomes {image : Image} {order : ByteOrder} {subject : Subject}
    {attr form width : Int} {address : Nat} {w : Work} (role : Attribute.role attr = .ranges)
    (known : Form.width? form = some width)
    (read : (Source.of image (.ok order)).number? form w.pos = some address) :
    (∀ w', decode (.of image (.ok order)) subject attr form w = .ok () w' ↔
      ∃ slot pairs, image.symbols.slot? address = some slot ∧ image.PairsAt order slot pairs ∧
        image.half? order (slot + 2 * pairs.length) = some 0 ∧
          image.half? order (slot + 2 * pairs.length + 1) = some 0 ∧
            w' = { w.adding (pairs.map (RangeMark.shifted subject.base)) with
              pos := w.pos + width
              slot := w.slot + 1 }) ∧
    (image.symbols.slot? address = none →
      ∃ e, decode (.of image (.ok order)) subject attr form w =
          .error e { w with pos := w.pos + width } ∧
        e.damage? = some (.noDescriptorAt address)) ∧
    ∀ slot, image.symbols.slot? address = some slot →
      ((∃ e w', decode (.of image (.ok order)) subject attr form w = .error e w' ∧
          e.damage?.map Damage.kind = some .malformedRange) ↔
        ∃ pairs, image.PairsAt order slot pairs ∧
          image.symbols.size ≤ slot + 2 * pairs.length + 1) ∧
      ∀ e w', decode (.of image (.ok order)) subject attr form w = .error e w' →
        ∃ pairs, image.PairsAt order slot pairs ∧
          w' = { w.adding (pairs.map (RangeMark.shifted subject.base)) with pos := w.pos + width } ∧
            (image.symbols.size ≤ slot + 2 * pairs.length + 1 ∧
                e.cause = .damage (.listUnterminated subject.addr address) ∨
              slot + 2 * pairs.length + 1 < image.symbols.size ∧
                (image.half? order (slot + 2 * pairs.length) = none ∨
                  image.half? order (slot + 2 * pairs.length + 1) = none) ∧
                e.cause.Unreadable) := by
  refine ⟨fun w' => ?_, decode_ranges_of_none role known read, fun slot found => ?_⟩
  · cases found : image.symbols.slot? address with
    | none =>
      obtain ⟨e, failed, -⟩ : ∃ e, decode (.of image (.ok order)) subject attr form w =
          .error e _ ∧ _ := decode_ranges_of_none role known read found
      rw [failed]
      exact iff_of_false nofun fun ⟨_, _, there, _⟩ => nomatch there
    | some slot =>
      rw [decode_ranges_of_slot role known read found, moveSlot_eq_ok]
      simp only [rangesFrom_eq_ok_iff, Option.some.injEq]
      constructor
      · rintro ⟨_, ⟨pairs, stand, low, high, rfl⟩, rfl⟩
        exact ⟨slot, pairs, rfl, stand, low, high, rfl⟩
      · rintro ⟨_, pairs, rfl, stand, low, high, rfl⟩
        exact ⟨_, ⟨pairs, stand, low, high, rfl⟩, rfl⟩
  · simp only [decode_ranges_of_slot role known read found, moveSlot_eq_error]
    exact ⟨malformed_iff, fun e w' failed => exists_pairs_of_error failed⟩

/-- An attribute and the list that it gives the address of: one pair that starts with a zero, then
the pair of zeros. -/
def zeroHalfImage : Image :=
  .ofParts #[4, 0, 0, 0, 0, 7, 0, 0, 0] (.ofList [⟨0, 4⟩, ⟨4, 1⟩, ⟨5, 2⟩, ⟨7, 1⟩, ⟨8, 1⟩]) 0 0 none

/-- A single zero does not end a list. -/
theorem decode_ranges_outcomes_zeroHalf :
    Attribute.role 0x55 = .ranges ∧ Form.width? 0x17 = some 4 ∧
      (Source.of zeroHalfImage (.ok .little)).number? 0x17 0 = some 4 ∧
        zeroHalfImage.PairsAt .little 1 [(0, 7)] ∧
          decode (.of zeroHalfImage (.ok .little)) ⟨0, 0, 0x10⟩ 0x55 0x17 ⟨0, 0, .blank⟩ =
            .ok () ⟨4, 1, { Description.blank with ranges := [⟨0x10, some 0x17⟩] }⟩ := by
  have stand : zeroHalfImage.PairsAt .little 1 [(0, 7)] :=
    .cons rfl rfl (by decide) Image.pairsAt_nil
  have read : (Source.of zeroHalfImage (.ok .little)).number? 0x17 0 = some 4 := rfl
  have found : zeroHalfImage.symbols.slot? 4 = some 1 := by decide +kernel
  exact ⟨rfl, rfl, read, stand,
    ((decode_ranges_outcomes rfl rfl read).1 _).2 ⟨1, [(0, 7)], found, stand, rfl, rfl, rfl⟩⟩

end Decode

end DebugScopes
