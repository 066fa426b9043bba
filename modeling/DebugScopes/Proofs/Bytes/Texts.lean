import DebugScopes.Proofs.Bytes.Spelling
import DebugScopes.Proofs.Text.Replacement

/-!
# Reading texts

A text stands in the data up to a zero byte. It is found if its address and a zero behind it lie
inside the usable data, whatever its bytes are: those that are not well formed are shown as
replacements.

* `Segment.Holds.textAt`: bytes that a zero ends;
* `Segment.textAt_eq_ok_iff`: what a text that has been found stands for;
* `Segment.textAt_cases`: what comes of every text that is asked for.
-/

namespace DebugScopes.Segment

variable {s : Segment} {pos : Nat} {bytes : List UInt8} {text : String}

/-- What is searched for the end of a text. -/
def searched (s : Segment) (pos : Nat) : List UInt8 :=
  (s.data.extract pos s.length.toNat).toList

theorem textAt_of_outside {addr : Int} (outside : addr < 0 ∨ s.length ≤ addr) :
    s.textAt addr = .error (.textOutside addr s.length) :=
  if_pos outside

theorem textAt_of_inside (inside : (pos : Int) < s.length) :
    s.textAt pos =
      if (s.searched pos).contains 0 then
        .ok (Utf8.decode ((s.searched pos).takeWhile (· != 0)))
      else .error (.textUnterminated pos) :=
  if_neg (by omega)

/-! ### Where a text ends -/

theorem searched_eq (s : Segment) (pos : Nat) :
    s.searched pos = (s.data.toList.drop pos).take (s.length.toNat - pos) := by
  rw [searched, Array.toList_extract, List.extract_eq_drop_take', List.drop_take]

/-- What stands in front of the end of the search stands in the segment. -/
theorem holds_of_searched (inside : (pos : Int) < s.length) (front : bytes <+: s.searched pos) :
    s.Holds pos bytes := by
  have short := front.length_le
  rw [searched_eq] at front short
  refine ⟨front.trans (List.take_prefix _ _), ?_⟩
  rw [List.length_take] at short
  omega

/-- A zero ends the search where it stands inside the usable data. -/
theorem contains_searched_iff :
    (s.searched pos).contains 0 ↔
      ∃ i : Nat, pos ≤ i ∧ (i : Int) < s.length ∧ s.data[i]? = some 0 := by
  rw [List.contains_iff_mem, List.mem_iff_getElem?, searched_eq]
  constructor
  · rintro ⟨k, found⟩
    rw [List.getElem?_take] at found
    split at found
    · next short =>
      rw [List.getElem?_drop, Array.getElem?_toList] at found
      exact ⟨pos + k, Nat.le_add_right pos k, by omega, found⟩
    · cases found
  · rintro ⟨i, behind, inside, found⟩
    refine ⟨i - pos, ?_⟩
    rw [List.getElem?_take, if_pos (by omega), List.getElem?_drop, Array.getElem?_toList,
      Nat.add_sub_cancel' behind]
    exact found

/-- Bytes that a zero ends are a text, up to the first zero among them. -/
theorem Holds.textAt (held : s.Holds pos (bytes ++ [0])) :
    s.textAt pos = .ok (Utf8.decode ((bytes ++ [0]).takeWhile (· != 0))) := by
  have short := held.short
  rw [List.length_append, List.length_singleton] at short
  obtain ⟨more, stand⟩ := held.extract s.length.toNat (by
    rw [List.length_append, List.length_singleton]
    omega)
  have stand : s.searched pos = bytes ++ 0 :: more := by
    rw [searched, stand, List.append_assoc]
    rfl
  have stops (back : List UInt8) :
      (bytes ++ 0 :: back).takeWhile (· != 0) = bytes.takeWhile (· != 0) := by
    rw [List.takeWhile_append, List.takeWhile_cons_of_neg (by decide), List.append_nil]
    split
    · next whole => exact ((List.takeWhile_prefix _).eq_of_length whole).symm
    · rfl
  rw [textAt_of_inside (by omega), if_pos (by rw [stand]; simp), stand, stops, stops]

/-- Bytes without a zero that a zero ends are the text that they are decoded to. -/
theorem Holds.textAt_of_free (held : s.Holds pos (bytes ++ [0])) (free : 0 ∉ bytes) :
    s.textAt pos = .ok (Utf8.decode bytes) := by
  have all : ∀ b ∈ bytes, (b != 0) = true := fun b mem =>
    bne_iff_ne.2 fun zero => free (zero ▸ mem)
  rw [held.textAt, List.takeWhile_append_of_pos all, List.takeWhile_cons_of_neg (by decide),
    List.append_nil]

/-- Where a zero stands, bytes without one stand in front of the first. -/
theorem exists_holds_of_zero {i : Nat} (behind : pos ≤ i) (inside : (i : Int) < s.length)
    (zero : s.data[i]? = some 0) : ∃ bytes, 0 ∉ bytes ∧ s.Holds pos (bytes ++ [0]) := by
  have mem := List.contains_iff_mem.1 (contains_searched_iff.2 ⟨i, behind, inside, zero⟩)
  obtain ⟨bytes, more, split, free⟩ := List.eq_append_cons_of_mem mem
  refine ⟨bytes, free, holds_of_searched (by omega) ⟨more, ?_⟩⟩
  rw [split, List.append_assoc]
  rfl

/-! ### What comes of it -/

/-- A text is found exactly if its address and a zero behind it lie inside the usable data. -/
theorem exists_textAt_iff {addr : Int} :
    (∃ text, s.textAt addr = .ok text) ↔
      0 ≤ addr ∧ addr < s.length ∧
        ∃ i : Nat, addr ≤ i ∧ (i : Int) < s.length ∧ s.data[i]? = some 0 := by
  by_cases outside : addr < 0 ∨ s.length ≤ addr
  · rw [textAt_of_outside outside]
    constructor
    · rintro ⟨_, found⟩
      cases found
    · rintro ⟨positive, inside, -⟩
      omega
  obtain ⟨pos, rfl⟩ := Int.eq_ofNat_of_zero_le (show 0 ≤ addr by omega)
  have inside : (pos : Int) < s.length := by omega
  rw [textAt_of_inside inside]
  constructor
  · rintro ⟨text, found⟩
    split at found
    · next ended =>
      obtain ⟨i, behind, zero⟩ := contains_searched_iff.1 ended
      exact ⟨by omega, inside, i, by omega, zero⟩
    · cases found
  · rintro ⟨-, -, i, behind, zero⟩
    exact ⟨_, if_pos (contains_searched_iff.2 ⟨i, by omega, zero⟩)⟩

/-- Where no text is found, a read would leave the usable data. -/
theorem kind_of_textAt_error {addr : Int} {damage : Damage}
    (failed : s.textAt addr = .error damage) : damage.kind = .overrun := by
  unfold Segment.textAt at failed
  split at failed
  · cases failed
    rfl
  · dsimp only at failed
    split at failed
    · cases failed
    · cases failed
      rfl

/-- A text that is found shows the bytes up to the first zero. -/
theorem textAt_eq_ok_iff :
    s.textAt pos = .ok text ↔
      ∃ bytes, 0 ∉ bytes ∧ s.Holds pos (bytes ++ [0]) ∧ Utf8.Shows bytes text.toList := by
  constructor
  · intro found
    obtain ⟨-, -, i, behind, inside, zero⟩ := exists_textAt_iff.1 ⟨text, found⟩
    obtain ⟨bytes, free, held⟩ := exists_holds_of_zero (Int.ofNat_le.1 behind) inside zero
    rw [held.textAt_of_free free] at found
    cases found
    exact ⟨bytes, free, held, Utf8.shows_iff.2 rfl⟩
  · rintro ⟨bytes, free, held, shows⟩
    rw [held.textAt_of_free free, String.toList_inj.1 (Utf8.shows_iff.1 shows)]

/-- What comes of every text that is asked for. It is found exactly if its address and a zero behind
it lie inside the usable data, and otherwise a read would leave them. Text that has been encoded,
with a zero behind it, is found as it was, if it has no zero character. And whatever the bytes are
up to the first zero: what is found are the characters that they show, with one replacement for
each piece of them that spells none. -/
theorem textAt_cases (s : Segment) :
    (∀ addr : Int,
      ((∃ text, s.textAt addr = .ok text) ↔ 0 ≤ addr ∧ addr < s.length ∧
        ∃ i : Nat, addr ≤ i ∧ (i : Int) < s.length ∧ s.data[i]? = some 0) ∧
      ∀ damage, s.textAt addr = .error damage → damage.kind = .overrun) ∧
    (∀ (pos : Nat) (text : String), '\x00' ∉ text.toList → s.Holds pos (Utf8.encode text ++ [0]) →
      s.textAt pos = .ok text) ∧
    ∀ (pos : Nat) (text : String), s.textAt pos = .ok text ↔
      ∃ bytes, 0 ∉ bytes ∧ s.Holds pos (bytes ++ [0]) ∧ Utf8.Shows bytes text.toList := by
  refine ⟨fun addr => ⟨exists_textAt_iff, fun _ => kind_of_textAt_error⟩,
    fun pos text free held => ?_, fun pos text => textAt_eq_ok_iff⟩
  rw [held.textAt, Utf8.decode_zeroTerminated, Utf8.upToZero_of_not_mem free]

/-- A text of one character, a text that lacks the ends of two characters, and one without a zero. -/
theorem textAt_cases_damaged :
    let s : Segment :=
      ⟨#[0xC3, 0xA9, 0x00, 0xE2, 0x82, 0x41, 0xED, 0xA0, 0x00, 0x41], 10, .ok .little⟩
    ('\x00' ∉ "\u00e9".toList ∧ s.Holds 0 (Utf8.encode "\u00e9" ++ [0]) ∧
      s.textAt 0 = .ok "\u00e9") ∧
    (0 ∉ [0xE2, 0x82, 0x41, 0xED, 0xA0] ∧ s.Holds 3 ([0xE2, 0x82, 0x41, 0xED, 0xA0] ++ [0]) ∧
      Utf8.Shows [0xE2, 0x82, 0x41, 0xED, 0xA0] "\uFFFDA\uFFFD\uFFFD".toList ∧
      s.textAt 3 = .ok "\uFFFDA\uFFFD\uFFFD") ∧
    ∃ damage, s.textAt 9 = .error damage ∧ damage.kind = .overrun := by
  intro s
  obtain ⟨found, encoded, shown⟩ := textAt_cases s
  have letter : s.Holds 0 (Utf8.encode "\u00e9" ++ [0]) :=
    ⟨⟨[0xE2, 0x82, 0x41, 0xED, 0xA0, 0x00, 0x41], by decide +kernel⟩, by decide +kernel⟩
  have pieces : s.Holds 3 ([0xE2, 0x82, 0x41, 0xED, 0xA0] ++ [0]) :=
    ⟨⟨[0x41], rfl⟩, by decide⟩
  have shows : Utf8.Shows [0xE2, 0x82, 0x41, 0xED, 0xA0] "\uFFFDA\uFFFD\uFFFD".toList :=
    Utf8.shows_iff.2 (by decide +kernel)
  refine ⟨⟨by decide, letter, encoded 0 _ (by decide) letter⟩, ⟨by decide, pieces, shows,
    (shown 3 _).2 ⟨_, by decide, pieces, shows⟩⟩, ?_⟩
  obtain ⟨ends, damaged⟩ := found 9
  cases failed : s.textAt 9 with
  | error damage => exact ⟨damage, rfl, damaged damage failed⟩
  | ok text =>
    obtain ⟨-, -, i, behind, inside, zero⟩ := ends.1 ⟨text, failed⟩
    have last : (i : Int) < 10 := inside
    obtain rfl : i = 9 := by omega
    cases zero

end DebugScopes.Segment
