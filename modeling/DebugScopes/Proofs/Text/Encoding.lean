import DebugScopes.Text.Utf8
import Mathlib

/-!
# UTF-8, there and back

Text that has been encoded is decoded to itself, whatever follows it. A text in the data segment
ends at the first zero byte; no character but the zero character has one.

* `Utf8.Spells`: the bytes that the decoder takes for a character, the first of which tells how many
  follow and bounds the second (`Utf8.Completes`);
* `Utf8.spells_encodeChar`: the encoding of a character spells it;
* `Utf8.decode_zeroTerminated`: a text that a zero ends, up to its first zero character.
-/

namespace DebugScopes.Utf8

/-- The bytes of a text. -/
def encode (text : String) : List UInt8 := text.toList.flatMap String.utf8EncodeChar

/-- The text up to its first zero character. -/
def upToZero (text : String) : String := String.ofList (text.toList.takeWhile (· != '\x00'))

theorem toNat_ofNat_of_lt {n : Nat} (small : n < 256) : (UInt8.ofNat n).toNat = n :=
  UInt8.toNat_ofNat_of_lt' small

/-! ### First bytes -/

section FirstBytes

variable {byte : UInt8}

/-- A byte that is a whole character. -/
theorem start_one (small : byte.toNat < 0x80) : start byte = .whole (Char.ofNat byte.toNat) := by
  simp only [start]
  rw [if_pos small]

/-- The first byte of a character of two bytes. -/
theorem start_two (least : 0xC2 ≤ byte.toNat) (most : byte.toNat < 0xE0) :
    start byte = .more ⟨0, 0x80, 0xBF, byte.toNat - 0xC0⟩ := by
  simp only [start]
  rw [if_neg (by omega), if_neg (by omega), if_pos most]

/-- The first byte of a character of three bytes. -/
theorem start_three (least : 0xE0 ≤ byte.toNat) (most : byte.toNat < 0xF0) :
    start byte = .more ⟨1, if byte.toNat = 0xE0 then 0xA0 else 0x80,
      if byte.toNat = 0xED then 0x9F else 0xBF, byte.toNat - 0xE0⟩ := by
  simp only [start]
  rw [if_neg (by omega), if_neg (by omega), if_neg (by omega)]
  by_cases first : byte.toNat = 0xE0
  · rw [if_pos first, if_pos first, if_neg (by omega), first]
  · by_cases surrogate : byte.toNat = 0xED
    · rw [if_neg first, if_neg first, if_pos surrogate, if_pos surrogate, surrogate]
    · rw [if_neg first, if_neg first, if_neg surrogate, if_neg surrogate, if_pos most]

/-- The first byte of a character of four bytes. -/
theorem start_four (least : 0xF0 ≤ byte.toNat) (most : byte.toNat ≤ 0xF4) :
    start byte = .more ⟨2, if byte.toNat = 0xF0 then 0x90 else 0x80,
      if byte.toNat = 0xF4 then 0x8F else 0xBF, byte.toNat - 0xF0⟩ := by
  simp only [start]
  rw [if_neg (by omega), if_neg (by omega), if_neg (by omega), if_neg (by omega), if_neg (by omega),
    if_neg (by omega)]
  by_cases first : byte.toNat = 0xF0
  · rw [if_pos first, if_pos first, if_neg (by omega), first]
  · by_cases last : byte.toNat = 0xF4
    · rw [if_neg first, if_neg first, if_neg (by omega), if_pos last, if_pos last, last]
    · rw [if_neg first, if_neg first, if_pos (show byte.toNat < 0xF4 by omega), if_neg last]

/-- A byte that starts no character. -/
theorem start_invalid (least : 0x80 ≤ byte.toNat)
    (outside : byte.toNat < 0xC2 ∨ 0xF4 < byte.toNat) : start byte = .invalid := by
  simp only [start]
  rw [if_neg (by omega)]
  rcases outside with small | large
  · rw [if_pos small]
  · rw [if_neg (by omega), if_neg (by omega), if_neg (by omega), if_neg (by omega),
      if_neg (by omega), if_neg (by omega), if_neg (by omega), if_neg (by omega)]

end FirstBytes

/-! ### The bytes of a character -/

/-- Whether a byte is inside the bounds of the next one. -/
def Pending.Admits (p : Pending) (byte : UInt8) : Prop :=
  p.least ≤ byte.toNat ∧ byte.toNat ≤ p.most

/-- Where any continuation byte may follow. -/
theorem admits_any {owed value : Nat} {byte : UInt8}
    (continues : 0x80 ≤ byte.toNat ∧ byte.toNat ≤ 0xBF) :
    Pending.Admits ⟨owed, 0x80, 0xBF, value⟩ byte := continues

/-- What is pending behind one more byte, when that many more are owed. -/
def Pending.next (p : Pending) (owed : Nat) (byte : UInt8) : Pending :=
  ⟨owed, 0x80, 0xBF, p.extended byte⟩

/-- Bytes complete a pending character to this one. -/
inductive Completes : Pending → List UInt8 → Char → Prop
  | last {p : Pending} {byte : UInt8} {c : Char} (owed : p.owed = 0) (inside : p.Admits byte)
      (value : Char.ofNat (p.extended byte) = c) : Completes p [byte] c
  | more {p : Pending} {owed : Nat} {byte : UInt8} {rest : List UInt8} {c : Char}
      (lacking : p.owed = owed + 1) (inside : p.Admits byte)
      (others : Completes (p.next owed byte) rest c) : Completes p (byte :: rest) c

/-- Bytes spell a character. -/
inductive Spells : List UInt8 → Char → Prop
  | whole {byte : UInt8} {c : Char} (starts : start byte = .whole c) : Spells [byte] c
  | longer {byte : UInt8} {p : Pending} {rest : List UInt8} {c : Char}
      (starts : start byte = .more p) (others : Completes p rest c) : Spells (byte :: rest) c

theorem Spells.ne_nil {bytes : List UInt8} {c : Char} (spells : Spells bytes c) : bytes ≠ [] := by
  cases spells with
  | whole => exact List.cons_ne_nil _ _
  | longer => exact List.cons_ne_nil _ _

section Decoding

variable {p : Pending} {bytes rest : List UInt8} {byte : UInt8} {c : Char}

/-- A byte inside the bounds that ends the pending character. -/
theorem decodeFrom_last (owed : p.owed = 0) (inside : p.Admits byte) :
    decodeFrom (some p) (byte :: rest) = Char.ofNat (p.extended byte) :: decodeFrom none rest := by
  refine Eq.trans (if_pos inside) ?_
  rw [owed]

/-- A byte inside the bounds behind which more is owed. -/
theorem decodeFrom_more {owed : Nat} (lacking : p.owed = owed + 1) (inside : p.Admits byte) :
    decodeFrom (some p) (byte :: rest) = decodeFrom (some (p.next owed byte)) rest := by
  refine Eq.trans (if_pos inside) ?_
  rw [lacking]
  rfl

/-- A byte that starts a longer character. -/
theorem decodeFrom_start (starts : start byte = .more p) :
    decodeFrom none (byte :: rest) = decodeFrom (some p) rest := by
  rw [decodeFrom, starts]

theorem Completes.decodeFrom_eq (completes : Completes p bytes c) (rest : List UInt8) :
    decodeFrom (some p) (bytes ++ rest) = c :: decodeFrom none rest := by
  induction completes with
  | last owed inside value => rw [List.singleton_append, decodeFrom_last owed inside, value]
  | more lacking inside _ ih => rw [List.cons_append, decodeFrom_more lacking inside, ih]

/-- What spells a character is decoded to it. -/
theorem Spells.decodeFrom_eq (spells : Spells bytes c) (rest : List UInt8) :
    decodeFrom none (bytes ++ rest) = c :: decodeFrom none rest := by
  cases spells with
  | whole starts => rw [List.singleton_append, decodeFrom, starts]
  | longer starts others => rw [List.cons_append, decodeFrom_start starts, others.decodeFrom_eq]

end Decoding

/-- The code point of a character is none of the surrogates. -/
theorem Char.toNat_cases (c : Char) :
    c.val.toNat < 0xD800 ∨ 0xDFFF < c.val.toNat ∧ c.val.toNat < 0x110000 := by
  rcases c.valid with low | ⟨above, below⟩
  · exact .inl low
  · exact .inr ⟨above, below⟩

section Spelled

variable {x₀ x₁ x₂ x₃ : UInt8} {v : Nat}

/-- Two bytes that spell a character. -/
theorem spells_two (b₀ : x₀.toNat = v / 64 % 32 + 192) (b₁ : x₁.toNat = v % 64 + 128)
    (long : 0x7f < v) (short : v ≤ 0x7ff) : Spells [x₀, x₁] (Char.ofNat v) := by
  have value : (x₀.toNat - 0xC0) * 64 + (x₁.toNat - 0x80) = v := by omega
  exact .longer (start_two (by omega) (by omega))
    (.last rfl (admits_any (by omega)) (congrArg Char.ofNat value))

/-- Three bytes that spell a character: the second one is bounded so that the form is not overlong
and no surrogate is spelled. -/
theorem spells_three (b₀ : x₀.toNat = v / 4096 % 16 + 224) (b₁ : x₁.toNat = v / 64 % 64 + 128)
    (b₂ : x₂.toNat = v % 64 + 128) (long : 0x7ff < v) (short : v ≤ 0xffff)
    (valid : v < 0xD800 ∨ 0xDFFF < v) : Spells [x₀, x₁, x₂] (Char.ofNat v) := by
  have least : (if x₀.toNat = 0xE0 then 0xA0 else 0x80) ≤ x₁.toNat := by split <;> omega
  have most : x₁.toNat ≤ if x₀.toNat = 0xED then 0x9F else 0xBF := by split <;> omega
  have value : ((x₀.toNat - 0xE0) * 64 + (x₁.toNat - 0x80)) * 64 + (x₂.toNat - 0x80) = v := by
    omega
  exact .longer (start_three (by omega) (by omega)) (.more rfl ⟨least, most⟩
    (.last rfl (admits_any (by omega)) (congrArg Char.ofNat value)))

/-- Four bytes that spell a character: the second one is bounded so that the form is not overlong
and the value is not too large. -/
theorem spells_four (b₀ : x₀.toNat = v / 262144 % 8 + 240) (b₁ : x₁.toNat = v / 4096 % 64 + 128)
    (b₂ : x₂.toNat = v / 64 % 64 + 128) (b₃ : x₃.toNat = v % 64 + 128) (long : 0xffff < v)
    (short : v < 0x110000) : Spells [x₀, x₁, x₂, x₃] (Char.ofNat v) := by
  have least : (if x₀.toNat = 0xF0 then 0x90 else 0x80) ≤ x₁.toNat := by split <;> omega
  have most : x₁.toNat ≤ if x₀.toNat = 0xF4 then 0x8F else 0xBF := by split <;> omega
  have value : (((x₀.toNat - 0xF0) * 64 + (x₁.toNat - 0x80)) * 64 + (x₂.toNat - 0x80)) * 64 +
      (x₃.toNat - 0x80) = v := by omega
  exact .longer (start_four (by omega) (by omega)) (.more rfl ⟨least, most⟩
    (.more rfl (admits_any (by omega))
      (.last rfl (admits_any (by omega)) (congrArg Char.ofNat value))))

end Spelled

/-- The encoding of a character spells it. -/
theorem spells_encodeChar (c : Char) : Spells (String.utf8EncodeChar c) c := by
  have back : Char.ofNat c.val.toNat = c := Char.ofNat_toNat c
  have valid := Char.toNat_cases c
  have byte {n : Nat} (small : n < 256) : (UInt8.ofNat n).toNat = n := toNat_ofNat_of_lt small
  unfold String.utf8EncodeChar
  generalize c.val.toNat = v at back valid
  subst back
  show Spells (if v ≤ 0x7f then _ else _) (Char.ofNat v)
  split_ifs with one two three
  · have value : (UInt8.ofNat v).toNat = v := byte (by omega)
    exact .whole ((start_one (by omega)).trans (by rw [value]))
  · exact spells_two (byte (by omega)) (byte (by omega)) (by omega) two
  · exact spells_three (byte (by omega)) (byte (by omega)) (byte (by omega)) (by omega) three
      (by omega)
  · exact spells_four (byte (by omega)) (byte (by omega)) (byte (by omega)) (byte (by omega))
      (by omega) (by omega)

theorem decodeFrom_flatMap (chars : List Char) :
    decodeFrom none (chars.flatMap String.utf8EncodeChar) = chars := by
  induction chars with
  | nil => rfl
  | cons c rest ih => rw [List.flatMap_cons, (spells_encodeChar c).decodeFrom_eq, ih]

/-! ### Texts that a zero ends -/

theorem ofNat_ne_zero {n : Nat} (small : n < 256) (positive : 0 < n) : UInt8.ofNat n ≠ 0 := by
  intro zero
  have value := congrArg UInt8.toNat zero
  rw [toNat_ofNat_of_lt small] at value
  exact Nat.ne_of_gt positive value

/-- No byte of a character is zero, but for the zero character. -/
theorem encodeChar_ne_zero {c : Char} (other : c ≠ '\x00') :
    ∀ b ∈ String.utf8EncodeChar c, b ≠ 0 := by
  have positive : c.val.toNat ≠ 0 := by
    intro zero
    exact other (Char.ext (UInt32.toNat_inj.1 zero))
  unfold String.utf8EncodeChar
  generalize c.val.toNat = v at positive
  show ∀ b ∈ (if v ≤ 0x7f then _ else _), b ≠ 0
  by_cases one : v ≤ 0x7f
  · rw [if_pos one, List.forall_mem_singleton]
    exact ofNat_ne_zero (by omega) (by omega)
  by_cases two : v ≤ 0x7ff
  · simp only [if_neg one, if_pos two, List.forall_mem_cons, List.not_mem_nil, false_implies,
      implies_true, and_true]
    exact ⟨ofNat_ne_zero (by omega) (by omega), ofNat_ne_zero (by omega) (by omega)⟩
  by_cases three : v ≤ 0xffff
  · simp only [if_neg one, if_neg two, if_pos three, List.forall_mem_cons, List.not_mem_nil,
      false_implies, implies_true, and_true]
    exact ⟨ofNat_ne_zero (by omega) (by omega), ofNat_ne_zero (by omega) (by omega),
      ofNat_ne_zero (by omega) (by omega)⟩
  · simp only [if_neg one, if_neg two, if_neg three, List.forall_mem_cons, List.not_mem_nil,
      false_implies, implies_true, and_true]
    exact ⟨ofNat_ne_zero (by omega) (by omega), ofNat_ne_zero (by omega) (by omega),
      ofNat_ne_zero (by omega) (by omega), ofNat_ne_zero (by omega) (by omega)⟩

/-- The first zero byte behind characters is that of the first zero character, or the one behind
them. -/
theorem takeWhile_encoded (chars : List Char) (rest : List UInt8) :
    (chars.flatMap String.utf8EncodeChar ++ 0 :: rest).takeWhile (· != 0) =
      (chars.takeWhile (· != '\x00')).flatMap String.utf8EncodeChar := by
  induction chars with
  | nil => rfl
  | cons c more ih =>
    by_cases zero : c = '\x00'
    · rw [zero]
      rfl
    · have nonzero : ∀ b ∈ String.utf8EncodeChar c, (b != 0) = true := fun b mem =>
        bne_iff_ne.2 (encodeChar_ne_zero zero b mem)
      rw [List.flatMap_cons, List.append_assoc, List.takeWhile_append_of_pos nonzero, ih,
        List.takeWhile_cons, if_pos (bne_iff_ne.2 zero), List.flatMap_cons]

/-- A text that a zero ends is decoded up to its first zero character. -/
theorem decode_zeroTerminated (text : String) (rest : List UInt8) :
    decode ((encode text ++ 0 :: rest).takeWhile (· != 0)) = upToZero text := by
  rw [encode, takeWhile_encoded, decode, decodeFrom_flatMap]
  rfl

/-- A text without zero characters is decoded as it is. -/
theorem upToZero_of_not_mem {text : String} (free : '\x00' ∉ text.toList) :
    upToZero text = text := by
  have all : ∀ c ∈ text.toList, (c != '\x00') = true := fun c mem =>
    bne_iff_ne.2 fun zero => free (zero ▸ mem)
  rw [upToZero, List.takeWhile_eq_self_iff.2 all, String.ofList_toList]

end DebugScopes.Utf8
