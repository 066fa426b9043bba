import DebugScopes.Proofs.Text.Encoding

/-!
# Damaged text

Text that is not well formed is shown all the same: wherever no character is spelled, the longest
bytes that some character starts with are passed over and U+FFFD stands for them, or for a single
byte if no character starts with it. `Shows` says so with nothing but the encodings of characters.
The decoder never looks ahead; what it has pending is what those longest bytes have led to.

* `Utf8.Spells.encodeChar_eq`: what the decoder takes for a character is the encoding of one, so
  overlong forms, surrogates and values past `10FFFF` are none;
* `Utf8.decodeFrom_of_piece`: one replacement for each piece, and nothing behind it is lost;
* `Utf8.shows_iff`: a text shows what it is decoded to, and nothing else.
-/

namespace DebugScopes.Utf8

/-! ### What is taken for a character -/

theorem ofNat_of_toNat {byte : UInt8} {n : Nat} (same : byte.toNat = n) : UInt8.ofNat n = byte :=
  same ▸ UInt8.ofNat_toNat

theorem encodeChar_ofNat {v : Nat} (valid : v.isValidChar) :
    String.utf8EncodeChar (Char.ofNat v) =
      if v ≤ 0x7f then [UInt8.ofNat v]
      else if v ≤ 0x7ff then [UInt8.ofNat (v / 64 % 32 + 192), UInt8.ofNat (v % 64 + 128)]
      else if v ≤ 0xffff then
        [UInt8.ofNat (v / 4096 % 16 + 224), UInt8.ofNat (v / 64 % 64 + 128),
          UInt8.ofNat (v % 64 + 128)]
      else
        [UInt8.ofNat (v / 262144 % 8 + 240), UInt8.ofNat (v / 4096 % 64 + 128),
          UInt8.ofNat (v / 64 % 64 + 128), UInt8.ofNat (v % 64 + 128)] := by
  have value : (Char.ofNat v).val.toNat = v := by
    have := Char.toNat_ofNat v
    rwa [if_pos valid] at this
  unfold String.utf8EncodeChar
  rw [value]

theorem start_eq_whole {byte : UInt8} {c : Char} (starts : start byte = .whole c) :
    byte.toNat < 0x80 ∧ Char.ofNat byte.toNat = c := by
  simp only [start] at starts
  split_ifs at starts with small
  cases starts
  exact ⟨small, rfl⟩

/-- The first bytes of longer characters, and what is pending behind them. -/
theorem start_eq_more {byte : UInt8} {p : Pending} (starts : start byte = .more p) :
    (0xC2 ≤ byte.toNat ∧ byte.toNat < 0xE0 ∧ p = ⟨0, 0x80, 0xBF, byte.toNat - 0xC0⟩) ∨
    (0xE0 ≤ byte.toNat ∧ byte.toNat < 0xF0 ∧ p = ⟨1, if byte.toNat = 0xE0 then 0xA0 else 0x80,
      if byte.toNat = 0xED then 0x9F else 0xBF, byte.toNat - 0xE0⟩) ∨
    (0xF0 ≤ byte.toNat ∧ byte.toNat ≤ 0xF4 ∧ p = ⟨2, if byte.toNat = 0xF0 then 0x90 else 0x80,
      if byte.toNat = 0xF4 then 0x8F else 0xBF, byte.toNat - 0xF0⟩) := by
  by_cases one : byte.toNat < 0x80
  · rw [start_one one] at starts
    cases starts
  by_cases outside : byte.toNat < 0xC2 ∨ 0xF4 < byte.toNat
  · rw [start_invalid (by omega) outside] at starts
    cases starts
  by_cases two : byte.toNat < 0xE0
  · rw [start_two (by omega) two] at starts
    cases starts
    exact .inl ⟨by omega, two, rfl⟩
  by_cases three : byte.toNat < 0xF0
  · rw [start_three (by omega) three] at starts
    cases starts
    exact .inr (.inl ⟨by omega, three, rfl⟩)
  · rw [start_four (by omega) (by omega)] at starts
    cases starts
    exact .inr (.inr ⟨by omega, by omega, rfl⟩)

theorem Completes.eq_last {p : Pending} {bytes : List UInt8} {c : Char}
    (completes : Completes p bytes c) (owed : p.owed = 0) :
    ∃ byte, bytes = [byte] ∧ p.Admits byte ∧ Char.ofNat (p.extended byte) = c := by
  cases completes with
  | last _ inside value => exact ⟨_, rfl, inside, value⟩
  | more lacking => rw [owed] at lacking; cases lacking

theorem Completes.eq_more {p : Pending} {owed : Nat} {bytes : List UInt8} {c : Char}
    (completes : Completes p bytes c) (lacking : p.owed = owed + 1) :
    ∃ byte rest, bytes = byte :: rest ∧ p.Admits byte ∧ Completes (p.next owed byte) rest c := by
  cases completes with
  | last owed => rw [lacking] at owed; cases owed
  | more lacking' inside others =>
    obtain rfl := Nat.succ.inj (lacking.symm.trans lacking')
    exact ⟨_, _, rfl, inside, others⟩

/-- Only the encoding of a character spells it. -/
theorem Spells.encodeChar_eq {bytes : List UInt8} {c : Char} (spells : Spells bytes c) :
    String.utf8EncodeChar c = bytes := by
  cases spells with
  | @whole x₀ _ starts =>
    obtain ⟨small, rfl⟩ := start_eq_whole starts
    rw [encodeChar_ofNat (.inl (by omega)), if_pos (by omega), ofNat_of_toNat rfl]
  | @longer x₀ p rest _ starts others =>
    rcases start_eq_more starts with ⟨least, most, rfl⟩ | ⟨least, most, rfl⟩ | ⟨least, most, rfl⟩
    · obtain ⟨x₁, rfl, ⟨least₁, most₁⟩, rfl⟩ := others.eq_last rfl
      simp only at least₁ most₁
      show String.utf8EncodeChar (Char.ofNat ((x₀.toNat - 0xC0) * 64 + (x₁.toNat - 0x80))) = _
      generalize value : (x₀.toNat - 0xC0) * 64 + (x₁.toNat - 0x80) = v
      rw [encodeChar_ofNat (.inl (by omega)), if_neg (by omega), if_pos (by omega)]
      simp only [List.cons.injEq, and_true]
      exact ⟨ofNat_of_toNat (by omega), ofNat_of_toNat (by omega)⟩
    · obtain ⟨x₁, _, rfl, ⟨least₁, most₁⟩, others⟩ := others.eq_more rfl
      obtain ⟨x₂, rfl, ⟨least₂, most₂⟩, rfl⟩ := others.eq_last rfl
      simp only [Pending.next] at least₁ most₁ least₂ most₂
      have bounds : (0x80 ≤ x₁.toNat ∧ x₁.toNat ≤ 0xBF) ∧ (x₀.toNat = 0xE0 → 0xA0 ≤ x₁.toNat) ∧
          (x₀.toNat = 0xED → x₁.toNat ≤ 0x9F) := by
        split at least₁ <;> split at most₁ <;> omega
      show String.utf8EncodeChar (Char.ofNat
        (((x₀.toNat - 0xE0) * 64 + (x₁.toNat - 0x80)) * 64 + (x₂.toNat - 0x80))) = _
      generalize value : ((x₀.toNat - 0xE0) * 64 + (x₁.toNat - 0x80)) * 64 + (x₂.toNat - 0x80) = v
      have valid : v < 0xD800 ∨ 0xDFFF < v ∧ v < 0x110000 := by omega
      rw [encodeChar_ofNat valid, if_neg (by omega), if_neg (by omega), if_pos (by omega)]
      simp only [List.cons.injEq, and_true]
      exact ⟨ofNat_of_toNat (by omega), ofNat_of_toNat (by omega), ofNat_of_toNat (by omega)⟩
    · obtain ⟨x₁, _, rfl, ⟨least₁, most₁⟩, others⟩ := others.eq_more rfl
      obtain ⟨x₂, _, rfl, ⟨least₂, most₂⟩, others⟩ := others.eq_more rfl
      obtain ⟨x₃, rfl, ⟨least₃, most₃⟩, rfl⟩ := others.eq_last rfl
      simp only [Pending.next] at least₁ most₁ least₂ most₂ least₃ most₃
      have bounds : (0x80 ≤ x₁.toNat ∧ x₁.toNat ≤ 0xBF) ∧ (x₀.toNat = 0xF0 → 0x90 ≤ x₁.toNat) ∧
          (x₀.toNat = 0xF4 → x₁.toNat ≤ 0x8F) := by
        split at least₁ <;> split at most₁ <;> omega
      show String.utf8EncodeChar (Char.ofNat ((((x₀.toNat - 0xF0) * 64 + (x₁.toNat - 0x80)) * 64 +
        (x₂.toNat - 0x80)) * 64 + (x₃.toNat - 0x80))) = _
      generalize value : (((x₀.toNat - 0xF0) * 64 + (x₁.toNat - 0x80)) * 64 +
        (x₂.toNat - 0x80)) * 64 + (x₃.toNat - 0x80) = v
      have valid : v < 0xD800 ∨ 0xDFFF < v ∧ v < 0x110000 := by omega
      rw [encodeChar_ofNat valid, if_neg (by omega), if_neg (by omega), if_neg (by omega)]
      simp only [List.cons.injEq, and_true]
      exact ⟨ofNat_of_toNat (by omega), ofNat_of_toNat (by omega), ofNat_of_toNat (by omega),
        ofNat_of_toNat (by omega)⟩

/-! ### What damaged text is shown as -/

/-- Some character starts with the bytes. -/
def Begins (bytes : List UInt8) : Prop := ∃ c, bytes <+: String.utf8EncodeChar c

/-- The longest bytes at the front of a text that some character starts with, or its first byte if
none starts with that. -/
structure IsPiece (piece text : List UInt8) : Prop where
  front : piece <+: text
  ne_nil : piece ≠ []
  begins : Begins piece ∨ piece.length = 1
  longest : ∀ longer, longer <+: text → Begins longer → longer.length ≤ piece.length

/-- The characters that a text shows. -/
inductive Shows : List UInt8 → List Char → Prop
  | nil : Shows [] []
  | whole (c : Char) {rest : List UInt8} {chars : List Char} (others : Shows rest chars) :
      Shows (String.utf8EncodeChar c ++ rest) (c :: chars)
  | damaged {piece rest : List UInt8} {chars : List Char}
      (illFormed : ∀ c, ¬ String.utf8EncodeChar c <+: piece ++ rest)
      (is_piece : IsPiece piece (piece ++ rest)) (others : Shows rest chars) :
      Shows (piece ++ rest) ('\uFFFD' :: chars)

/-! ### Pending characters -/

/-- Bytes are read behind a pending character and leave another pending. -/
inductive Leads : Pending → List UInt8 → Pending → Prop
  | nil (p : Pending) : Leads p [] p
  | cons {p p' : Pending} {owed : Nat} {byte : UInt8} {bytes : List UInt8}
      (lacking : p.owed = owed + 1) (inside : p.Admits byte)
      (others : Leads (p.next owed byte) bytes p') : Leads p (byte :: bytes) p'

section Pendings

variable {p p' : Pending} {front back rest : List UInt8} {byte : UInt8} {c : Char}

theorem Leads.decodeFrom_eq (leads : Leads p front p') (rest : List UInt8) :
    decodeFrom (some p) (front ++ rest) = decodeFrom (some p') rest := by
  induction leads with
  | nil => rfl
  | cons lacking inside _ ih => rw [List.cons_append, decodeFrom_more lacking inside, ih]

theorem Leads.completes (leads : Leads p front p') (completes : Completes p' back c) :
    Completes p (front ++ back) c := by
  induction leads with
  | nil => exact completes
  | cons lacking inside _ ih => exact .more lacking inside (ih completes)

/-- A part of what completes a character leaves it pending. -/
theorem Completes.exists_leads (completes : Completes p (front ++ back) c) (more : back ≠ []) :
    ∃ p', Leads p front p' := by
  induction front generalizing p with
  | nil => exact ⟨p, .nil p⟩
  | cons first front ih =>
    cases h : p.owed with
    | zero =>
      obtain ⟨_, same, -⟩ := completes.eq_last h
      exact absurd (List.append_eq_nil_iff.1 (List.cons.inj same).2).2 more
    | succ owed =>
      obtain ⟨_, _, same, inside, others⟩ := completes.eq_more h
      obtain ⟨rfl, rfl⟩ := List.cons.inj same
      obtain ⟨p', leads⟩ := ih others
      exact ⟨p', .cons h inside leads⟩

/-- What is inside the bounds can be gone on with. -/
theorem exists_completes (inside : p.Admits byte) : ∃ rest c, Completes p (byte :: rest) c := by
  induction h : p.owed generalizing p byte with
  | zero => exact ⟨[], _, .last h inside rfl⟩
  | succ owed ih =>
    obtain ⟨rest, c, others⟩ := @ih (p.next owed byte) 0x80 (admits_any (by decide)) rfl
    exact ⟨_, c, .more h inside others⟩

/-- Every first byte of longer characters starts one. -/
theorem begins_of_start (starts : start byte = .more p) : Begins [byte] := by
  have bounds : p.least ≤ p.most ∧ p.least < 256 := by
    rcases start_eq_more starts with ⟨-, -, rfl⟩ | ⟨-, -, rfl⟩ | ⟨-, -, rfl⟩
    · dsimp only
      omega
    · dsimp only
      split <;> split <;> omega
    · dsimp only
      split <;> split <;> omega
  have inside : p.Admits (UInt8.ofNat p.least) := by
    rw [Pending.Admits, toNat_ofNat_of_lt bounds.2]
    exact ⟨Nat.le_refl _, bounds.1⟩
  obtain ⟨rest, c, completes⟩ := exists_completes inside
  refine ⟨c, ?_⟩
  rw [(Spells.longer starts completes).encodeChar_eq]
  exact ⟨_, rfl⟩

/-- A byte outside the bounds ends the pending character, and is read afresh. -/
theorem decodeFrom_outside (outside : ¬ p.Admits byte) :
    decodeFrom (some p) (byte :: rest) = replacement :: decodeFrom none (byte :: rest) := by
  refine Eq.trans (if_neg outside) ?_
  rw [decodeFrom]

end Pendings

/-! ### What is shown -/

/-- The first byte of a character tells how it goes on. -/
theorem encodeChar_eq_cons {c : Char} {byte : UInt8} {rest : List UInt8}
    (encoded : String.utf8EncodeChar c = byte :: rest) :
    start byte = .whole c ∧ rest = [] ∨ ∃ p, start byte = .more p ∧ Completes p rest c := by
  have spells := spells_encodeChar c
  rw [encoded] at spells
  cases spells with
  | whole starts => exact .inl ⟨starts, rfl⟩
  | longer starts others => exact .inr ⟨_, starts, others⟩

section Pieces

variable {p p' : Pending} {byte next : UInt8} {front : List UInt8}

/-- Some bytes start no character. -/
theorem not_begins_of_invalid (starts : start byte = .invalid) : ¬ Begins (byte :: front) := by
  rintro ⟨c, tail, encoded⟩
  rcases encodeChar_eq_cons encoded.symm with ⟨starts', -⟩ | ⟨p, starts', -⟩
  all_goals
    rw [starts] at starts'
    cases starts'

/-- Bytes that a character starts with, and that are not all of it, leave it pending. -/
theorem Begins.exists_leads (begins : Begins (byte :: front)) (starts : start byte = .more p)
    (part : ∀ c, String.utf8EncodeChar c ≠ byte :: front) : ∃ p', Leads p front p' := by
  obtain ⟨c, back, encoded⟩ := begins
  have more : back ≠ [] := by
    rintro rfl
    rw [List.append_nil] at encoded
    exact part c encoded.symm
  obtain ⟨starts', -⟩ | ⟨p', starts', completes⟩ := encodeChar_eq_cons encoded.symm
  · rw [starts] at starts'
    cases starts'
  · rw [starts] at starts'
    cases starts'
    exact completes.exists_leads more

/-- A byte inside the bounds goes on with a character. -/
theorem Leads.begins (leads : Leads p front p') (starts : start byte = .more p)
    (inside : p'.Admits next) : Begins (byte :: front ++ [next]) := by
  obtain ⟨tail, c, goesOn⟩ := exists_completes inside
  have spells := Spells.longer starts (leads.completes goesOn)
  refine ⟨c, ?_⟩
  rw [spells.encodeChar_eq]
  exact ⟨tail, by simp⟩

end Pieces

/-- Where no character is spelled, one replacement is shown for the piece that stands there. -/
theorem decodeFrom_of_piece {piece rest : List UInt8}
    (illFormed : ∀ c, ¬ String.utf8EncodeChar c <+: piece ++ rest)
    (is_piece : IsPiece piece (piece ++ rest)) :
    decodeFrom none (piece ++ rest) = replacement :: decodeFrom none rest := by
  obtain ⟨-, ne_nil, begins, longest⟩ := is_piece
  cases piece with
  | nil => exact absurd rfl ne_nil
  | cons byte front =>
    have alone (one : (byte :: front).length = 1) : front = [] :=
      List.eq_nil_of_length_eq_zero (Nat.succ.inj one)
    cases starts : start byte with
    | whole c =>
      refine absurd ?_ (illFormed c)
      rw [(Spells.whole starts).encodeChar_eq]
      exact ⟨_, rfl⟩
    | invalid =>
      have single := begins.resolve_left (not_begins_of_invalid starts)
      rw [alone single, List.singleton_append, decodeFrom, starts]
    | more p =>
      have begins : Begins (byte :: front) := by
        rcases begins with begins | single
        · exact begins
        · rw [alone single]
          exact begins_of_start starts
      obtain ⟨p', leads⟩ := begins.exists_leads starts fun c encoded =>
        illFormed c (encoded ▸ List.prefix_append ..)
      rw [List.cons_append, decodeFrom_start starts, leads.decodeFrom_eq]
      cases rest with
      | nil => rfl
      | cons next rest =>
        refine decodeFrom_outside fun inside => ?_
        -- the byte would make the piece longer
        have short := longest (byte :: front ++ [next]) ⟨rest, by simp⟩
          (leads.begins starts inside)
        rw [List.length_append, List.length_singleton] at short
        omega

/-- What a text shows is what it is decoded to. -/
theorem Shows.decodeFrom_eq {text : List UInt8} {chars : List Char} (shows : Shows text chars) :
    decodeFrom none text = chars := by
  induction shows with
  | nil => rfl
  | whole c _ ih => rw [(spells_encodeChar c).decodeFrom_eq, ih]
  | damaged illFormed is_piece _ ih => rw [decodeFrom_of_piece illFormed is_piece, ih]; rfl

theorem exists_piece {text : List UInt8} (ne_nil : text ≠ []) :
    ∃ piece rest, text = piece ++ rest ∧ IsPiece piece text := by
  classical
  have positive : 0 < text.length := List.length_pos_iff.2 ne_nil
  let P : Nat → Prop := fun n => n = 1 ∨ Begins (text.take n)
  have found : P (Nat.findGreatest P text.length) := Nat.findGreatest_spec positive (.inl rfl)
  have least : 1 ≤ Nat.findGreatest P text.length := Nat.le_findGreatest positive (.inl rfl)
  have most : Nat.findGreatest P text.length ≤ text.length := Nat.findGreatest_le _
  have greatest : ∀ n, Nat.findGreatest P text.length < n → n ≤ text.length → ¬ P n :=
    fun n => Nat.findGreatest_is_greatest
  generalize Nat.findGreatest P text.length = n at found least most greatest
  have length : (text.take n).length = n := List.length_take_of_le most
  refine ⟨text.take n, text.drop n, (List.take_append_drop n text).symm,
    ⟨ List.take_prefix n text, ?_, ?_, ?_⟩⟩
  · rw [← List.length_pos_iff]
    omega
  · rcases found with one | begins
    · exact .inr (length.trans one)
    · exact .inl begins
  · intro longer front begins
    by_contra more
    have inside := front.length_le
    refine greatest longer.length (by omega) inside (.inr ?_)
    rwa [← List.prefix_iff_eq_take.1 front]

theorem exists_shows (text : List UInt8) : ∃ chars, Shows text chars := by
  induction h : text.length using Nat.strong_induction_on generalizing text with
  | h n ih =>
    subst h
    by_cases empty : text = []
    · exact ⟨[], empty ▸ .nil⟩
    by_cases wellFormed : ∃ c, String.utf8EncodeChar c <+: text
    · obtain ⟨c, rest, rfl⟩ := wellFormed
      have positive := List.length_pos_iff.2 (spells_encodeChar c).ne_nil
      obtain ⟨chars, others⟩ := ih rest.length (by rw [List.length_append]; omega) rest rfl
      exact ⟨_, .whole c others⟩
    · obtain ⟨piece, rest, rfl, is_piece⟩ := exists_piece empty
      have positive := List.length_pos_iff.2 is_piece.ne_nil
      obtain ⟨chars, others⟩ := ih rest.length (by rw [List.length_append]; omega) rest rfl
      exact ⟨_, .damaged (not_exists.1 wellFormed) is_piece others⟩

/-- A text shows just what it is decoded to. -/
theorem shows_iff {text : List UInt8} {chars : List Char} :
    Shows text chars ↔ chars = (decode text).toList := by
  rw [decode, String.toList_ofList]
  constructor
  · intro shows
    exact shows.decodeFrom_eq.symm
  · rintro rfl
    obtain ⟨chars, shows⟩ := exists_shows text
    exact shows.decodeFrom_eq.symm ▸ shows

end DebugScopes.Utf8
