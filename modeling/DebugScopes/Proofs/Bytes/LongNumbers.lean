import DebugScopes.Proofs.Bytes.Spelling

/-!
# Long numbers

A long number is spelled seven bits a byte, the lowest first, and every byte but the last has its
high bit. A spelling may be longer than it has to be: groups of zeros at its end add nothing. What
is read at a position is the number that is spelled there. If nothing is spelled there, every byte
up to the end of the usable data has its high bit, and the read fails at that end.

* `SpellsLong`: the spellings of a number, of which `septets` is the shortest;
* `Segment.Holds.uleb128`: a spelling is read wherever it stands;
* `Segment.uleb128_eq_gathered`: the groups may as well be put in their places as they come;
* `Segment.uleb128_cases`: what comes of every read.
-/

namespace DebugScopes

/-! ### Spellings -/

/-- Bytes that spell a number: all but the last have their high bit, and the other seven bits of
each make up the number, the lowest first. -/
def SpellsLong (bytes : List UInt8) (n : Nat) : Prop :=
  ∃ front last, bytes = front ++ [last] ∧ (∀ b ∈ front, 0x80 ≤ b.toNat) ∧ last.toNat < 0x80 ∧
    n = Nat.ofDigits 0x80 (bytes.map (·.toNat % 0x80))

theorem spellsLong_last {b : UInt8} (low : b.toNat < 0x80) : SpellsLong [b] b.toNat := by
  refine ⟨[], b, rfl, nofun, low, ?_⟩
  rw [List.map_singleton, Nat.ofDigits_singleton, Nat.mod_eq_of_lt low]

theorem SpellsLong.cons {b : UInt8} {bytes : List UInt8} {n : Nat} (high : 0x80 ≤ b.toNat)
    (spelled : SpellsLong bytes n) : SpellsLong (b :: bytes) (b.toNat % 0x80 + 0x80 * n) := by
  obtain ⟨front, last, rfl, highs, low, rfl⟩ := spelled
  refine ⟨b :: front, last, rfl, List.forall_mem_cons.2 ⟨high, highs⟩, low, ?_⟩
  rw [List.map_cons, Nat.ofDigits_cons]

/-- A long number: seven bits a byte, the lowest first, without zeros at the end. -/
def septets (n : Nat) : List UInt8 :=
  if n < 0x80 then [UInt8.ofNat n] else UInt8.ofNat (n % 0x80 + 0x80) :: septets (n / 0x80)

/-- The bytes of a long number are not zero, unless the number is. -/
theorem septets_ne_zero {n : Nat} (positive : n ≠ 0) : ∀ b ∈ septets n, b ≠ 0 := by
  fun_induction septets n with
  | case1 n small =>
    intro b mem zero
    rw [List.mem_singleton.1 mem] at zero
    have value := congrArg UInt8.toNat zero
    rw [UInt8.toNat_ofNat'] at value
    have none : n % 256 = 0 := value
    omega
  | case2 n large ih =>
    intro b mem
    rcases List.mem_cons.1 mem with rfl | inside
    · intro zero
      have value := congrArg UInt8.toNat zero
      rw [UInt8.toNat_ofNat'] at value
      have none : (n % 0x80 + 0x80) % 256 = 0 := value
      omega
    · exact ih (by omega) b inside

theorem spellsLong_septets (n : Nat) : SpellsLong (septets n) n := by
  fun_induction septets n with
  | case1 n small =>
    have value : (UInt8.ofNat n).toNat = n := by
      rw [UInt8.toNat_ofNat', Nat.mod_eq_of_lt (by omega)]
    have spelled := spellsLong_last (b := UInt8.ofNat n) (by omega)
    rwa [value] at spelled
  | case2 n large ih =>
    have value : (UInt8.ofNat (n % 0x80 + 0x80)).toNat = n % 0x80 + 0x80 := by
      rw [UInt8.toNat_ofNat', Nat.mod_eq_of_lt (by omega)]
    have spelled := ih.cons (b := UInt8.ofNat (n % 0x80 + 0x80)) (by omega)
    rwa [value, show (n % 0x80 + 0x80) % 0x80 + 0x80 * (n / 0x80) = n by omega] at spelled

/-! ### Reading them -/

namespace Segment

variable {s : Segment} {pos n : Nat} {bytes : List UInt8}

theorem uleb128_eq (s : Segment) (pos : Int) :
    s.uleb128 pos =
      match within .septet s.byte pos with
      | .error e after => .error e after
      | .ok b after =>
        if b < 0x80 then .ok b after
        else
          match s.uleb128 after with
          | .error e after => .error e after
          | .ok rest after => .ok (b % 0x80 + 0x80 * rest) after := by
  rw [uleb128]
  split
  · next failed => rw [failed]
  · next read => exact read.symm ▸ rfl

/-- Segments whose bytes read alike have the same long numbers. -/
theorem uleb128_congr {s s' : Segment} (bytes : s'.byte = s.byte) : s'.uleb128 = s.uleb128 := by
  funext pos
  fun_induction Segment.uleb128 s pos with
  | case1 pos e after failed => rw [uleb128_eq, bytes, failed]
  | case2 pos b after read small =>
    rw [uleb128_eq, bytes, read]
    simp only [if_pos small]
  | case3 pos b between read large e after failed ih =>
    rw [uleb128_eq, bytes, read]
    simp only [if_neg large, ih, failed]
  | case4 pos b between read large rest after more ih =>
    rw [uleb128_eq, bytes, read]
    simp only [if_neg large, ih, more]

theorem uleb128_last {b : Nat} {pos after : Int} (read : s.byte pos = .ok b after)
    (last : b < 0x80) : s.uleb128 pos = .ok b after := by
  rw [uleb128_eq, within_eq_ok.2 read]
  exact if_pos last

theorem uleb128_more {b : Nat} {pos after stop : Int} (read : s.byte pos = .ok b after)
    (more : 0x80 ≤ b) (others : s.uleb128 after = .ok n stop) :
    s.uleb128 pos = .ok (b % 0x80 + 0x80 * n) stop := by
  rw [uleb128_eq, within_eq_ok.2 read]
  show (if b < 0x80 then _ else _) = _
  rw [if_neg (Nat.not_lt.2 more), others]

theorem uleb128_broken {b : Nat} {pos after stop : Int} {e : Failure}
    (read : s.byte pos = .ok b after) (more : 0x80 ≤ b)
    (others : s.uleb128 after = .error e stop) : s.uleb128 pos = .error e stop := by
  rw [uleb128_eq, within_eq_ok.2 read]
  show (if b < 0x80 then _ else _) = _
  rw [if_neg (Nat.not_lt.2 more), others]

/-- A number is read wherever it is spelled, and nothing behind it. -/
theorem Holds.uleb128 (held : s.Holds pos bytes) (spelled : SpellsLong bytes n) :
    s.uleb128 pos = .ok n ((pos + bytes.length : Nat) : Int) := by
  obtain ⟨front, last, rfl, highs, low, rfl⟩ := spelled
  induction front generalizing pos with
  | nil =>
    rw [uleb128_last held.byte low, List.nil_append, List.map_singleton, Nat.ofDigits_singleton,
      Nat.mod_eq_of_lt low, List.length_singleton]
  | cons b front ih =>
    obtain ⟨high, highs⟩ := List.forall_mem_cons.1 highs
    rw [uleb128_more held.byte high (ih held.tail highs), List.cons_append, List.map_cons,
      Nat.ofDigits_cons, List.length_cons, Nat.add_right_comm, Nat.add_assoc pos]

/-! ### Groups in their places -/

/-- A long number that is put together as its bytes come: the group of a byte goes in front of those
that have been read, which take `shift` bits. -/
def gathered (s : Segment) (result shift : Nat) : Read Nat := fun pos =>
  match _read : within .septet s.byte pos with
  | .error e after => .error e after
  | .ok b after =>
    let result := result ||| (b &&& 0x7f) <<< shift
    if b &&& 0x80 = 0 then .ok result after else s.gathered result (shift + 7) after
termination_by pos => (s.length - pos).toNat
decreasing_by
  have moved := byte_ok (within_ok _read)
  omega

theorem and_highBit_eq_zero_iff {b : Nat} (byte : b < 256) : b &&& 0x80 = 0 ↔ b < 0x80 := by
  revert b
  decide +kernel

/-- A group in front of what has been read does not overlap with it. -/
theorem or_group {result shift : Nat} (short : result < 2 ^ shift) (b : Nat) :
    result ||| (b &&& 0x7f) <<< shift = result + 2 ^ shift * (b % 0x80) := by
  have group : b &&& 0x7f = b % 0x80 := Nat.and_two_pow_sub_one_eq_mod b 7
  rw [group, Nat.or_comm, ← Nat.shiftLeft_add_eq_or_of_lt short, Nat.shiftLeft_eq, Nat.add_comm,
    Nat.mul_comm]

/-- What is gathered behind some groups is the number that follows, in its place. -/
theorem gathered_eq {result shift : Nat} (short : result < 2 ^ shift) (pos : Int) :
    s.gathered result shift pos =
      match s.uleb128 pos with
      | .ok n after => .ok (result + 2 ^ shift * n) after
      | .error e after => .error e after := by
  fun_induction s.gathered result shift pos with
  | case1 result shift pos e after failed => rw [uleb128_eq, failed]
  | case2 result shift pos b after read joined last =>
    have low := (and_highBit_eq_zero_iff (byte_lt (within_ok read))).1 last
    rw [uleb128_last (within_ok read) low]
    show EStateM.Result.ok (result ||| (b &&& 0x7f) <<< shift) after = _
    rw [or_group short, Nat.mod_eq_of_lt low]
  | case3 result shift pos b after read joined more ih =>
    have byte := byte_lt (within_ok read)
    have high := Nat.le_of_not_lt (mt (and_highBit_eq_zero_iff byte).2 more)
    have grown : 2 ^ (shift + 7) = 2 ^ shift * 0x80 := Nat.pow_add 2 shift 7
    have joined_eq : joined = result + 2 ^ shift * (b % 0x80) := or_group short b
    have fits : joined < 2 ^ (shift + 7) := by
      have group : b % 0x80 + 1 ≤ 0x80 := Nat.mod_lt _ (by decide)
      have := Nat.mul_le_mul_left (2 ^ shift) group
      rw [Nat.mul_add, Nat.mul_one] at this
      omega
    rw [ih fits]
    cases others : s.uleb128 after with
    | error e stop => rw [uleb128_broken (within_ok read) high others]
    | ok n stop =>
      rw [uleb128_more (within_ok read) high others, joined_eq, grown]
      simp only [Nat.mul_add, Nat.mul_assoc, Nat.add_assoc]

/-- A long number may be put together from its last byte or as its bytes come. -/
theorem uleb128_eq_gathered (s : Segment) : s.uleb128 = s.gathered 0 0 := by
  funext pos
  rw [gathered_eq (Nat.two_pow_pos 0)]
  cases s.uleb128 pos <;> simp

/-! ### Where no number is spelled -/

/-- Every byte from a position to the end of the usable data has its high bit. -/
def Unfinished (s : Segment) (pos : Nat) : Prop :=
  ∀ i : Nat, pos ≤ i → (i : Int) < s.length → ∀ b ∈ s.data[i]?, 0x80 ≤ b.toNat

/-- Nothing is read behind the usable data. -/
theorem byte_behind (s : Segment) {pos : Int} (behind : s.length ≤ pos) :
    ∃ e, s.byte pos = .error e pos := by
  have claim : s.take 1 pos = .error (.ofDamage (.readPastEnd 1 pos s.length)) pos :=
    if_pos (by omega)
  exact ⟨_, bind_of_error (within_of_error claim)⟩

/-- The read of a number that does not end fails at the end of the usable data. -/
theorem uleb128_of_unfinished (usable : s.length ≤ s.data.size) (inside : (pos : Int) ≤ s.length)
    (unfinished : s.Unfinished pos) :
    ∃ e, s.uleb128 pos = .error e s.length ∧ s.Overrun s.length e := by
  induction h : (s.length - pos).toNat generalizing pos with
  | zero =>
    have stop : (pos : Int) = s.length := by omega
    obtain ⟨e, failed⟩ := s.byte_behind (Int.le_refl s.length)
    refine ⟨e.through .septet, ?_, (overrun_of_byte usable (by omega) failed).within rfl⟩
    rw [stop, uleb128_eq, within_of_error failed]
  | succ left ih =>
    have there := Array.getElem?_eq_getElem (show pos < s.data.size by omega)
    have high := unfinished pos (Nat.le_refl _) (by omega) _ there
    have further : s.Unfinished (pos + 1) := fun i behind => unfinished i (by omega)
    obtain ⟨e, failed, overrun⟩ := ih (by omega) further (by omega)
    exact ⟨e, uleb128_broken (holds_byte there (by omega)).byte high failed, overrun⟩

/-- If some byte has no high bit, a number is spelled up to the first such byte. -/
theorem exists_spelled (usable : s.length ≤ s.data.size) (finished : ¬ s.Unfinished pos) :
    ∃ bytes n, SpellsLong bytes n ∧ s.Holds pos bytes := by
  induction h : (s.length - pos).toNat generalizing pos with
  | zero => exact absurd (fun i behind short => by omega) finished
  | succ left ih =>
    have there := Array.getElem?_eq_getElem (show pos < s.data.size by omega)
    have held := holds_byte there (by omega)
    generalize s.data[pos] = b at held
    by_cases low : b.toNat < 0x80
    · exact ⟨[b], _, spellsLong_last low, held⟩
    · have high := Nat.le_of_not_lt low
      have further : ¬ s.Unfinished (pos + 1) := by
        refine fun unfinished => finished fun i behind short x found => ?_
        rcases Nat.eq_or_lt_of_le behind with rfl | later
        · rw [held.head] at found
          exact Option.some.inj found ▸ high
        · exact unfinished i later short x found
      obtain ⟨bytes, n, spelled, others⟩ := ih further (by omega)
      exact ⟨b :: bytes, _, spelled.cons high, holds_append.2 ⟨held, others⟩⟩

/-- What comes of every read. A number that is spelled at a position, in as few bytes as it takes or
in more, is read from there whatever stands around it, and the position moves behind it. Where all
of the usable data is there, the read fails exactly if every byte from the position to the end of
the usable data has its high bit; it has then run past that end, and the position is left there. -/
theorem uleb128_cases (s : Segment) :
    (∀ (pos : Nat) (bytes : List UInt8) (n : Nat), SpellsLong bytes n → s.Holds pos bytes →
      s.uleb128 pos = .ok n ((pos + bytes.length : Nat) : Int)) ∧
    (s.length ≤ s.data.size → ∀ pos : Nat, (pos : Int) ≤ s.length →
      ((∃ e after, s.uleb128 pos = .error e after) ↔ s.Unfinished pos) ∧
      ∀ e after, s.uleb128 pos = .error e after →
        after = s.length ∧ e.cause = .damage (.readPastEnd 1 s.length s.length)) := by
  refine ⟨fun pos bytes n spelled held => held.uleb128 spelled, fun usable pos inside => ?_⟩
  by_cases unfinished : s.Unfinished pos
  · obtain ⟨e, failed, overrun⟩ := uleb128_of_unfinished usable inside unfinished
    rw [Overrun, max_self] at overrun
    refine ⟨⟨fun _ => unfinished, fun _ => ⟨e, _, failed⟩⟩, fun e' after failed' => ?_⟩
    rw [failed] at failed'
    cases failed'
    exact ⟨rfl, overrun⟩
  · obtain ⟨bytes, n, spelled, held⟩ := exists_spelled usable unfinished
    have read := held.uleb128 spelled
    have sound : ∀ e after, s.uleb128 pos ≠ .error e after := by
      intro e after failed
      rw [read] at failed
      cases failed
    refine ⟨⟨?_, fun more => absurd more unfinished⟩,
      fun e after failed => absurd failed (sound e after)⟩
    rintro ⟨e, after, failed⟩
    exact absurd failed (sound e after)

/-- A number with two groups more than it needs is read, and the two bytes behind it are not a
whole number. -/
theorem uleb128_cases_padded :
    let s : Segment := ⟨#[0xff, 0xe5, 0x8e, 0xa6, 0x80, 0x00, 0xff, 0x81], 8, .ok .little⟩
    SpellsLong [0xe5, 0x8e, 0xa6, 0x80, 0x00] 624485 ∧
      s.Holds 1 [0xe5, 0x8e, 0xa6, 0x80, 0x00] ∧ s.uleb128 1 = .ok 624485 6 ∧ s.Unfinished 6 ∧
        ∃ e, s.uleb128 6 = .error e 8 ∧ e.cause = .damage (.readPastEnd 1 8 8) := by
  intro s
  have spelled : SpellsLong [0xe5, 0x8e, 0xa6, 0x80, 0x00] 624485 :=
    ⟨[0xe5, 0x8e, 0xa6, 0x80], 0x00, rfl, by decide +kernel, by decide, by decide +kernel⟩
  have held : s.Holds 1 [0xe5, 0x8e, 0xa6, 0x80, 0x00] := ⟨⟨[0xff, 0x81], rfl⟩, by decide⟩
  have unfinished : s.Unfinished 6 := by
    intro i behind short b found
    have inside : i < 8 := Int.ofNat_lt.1 short
    obtain rfl | rfl : i = 6 ∨ i = 7 := by omega
    · cases found
      decide
    · cases found
      decide
  obtain ⟨whole, rest⟩ := uleb128_cases s
  obtain ⟨fails, broken⟩ := rest (Int.le_refl 8) 6 (by show (6 : Int) ≤ 8; decide)
  obtain ⟨e, after, failed⟩ := fails.2 unfinished
  obtain ⟨rfl, cause⟩ := broken e after failed
  exact ⟨spelled, held, whole 1 _ _ spelled held, unfinished, e, failed, cause⟩

end Segment

end DebugScopes
