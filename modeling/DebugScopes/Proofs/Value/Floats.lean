import DebugScopes.Proofs.Decimal.Nearest
import DebugScopes.Proofs.Decimal.Shortest
import DebugScopes.Proofs.Value.Displays

/-!
# Floats, there and back

A finite float is read back bit for bit, whichever way its digits are laid out: with a point among
them, with zeros in front or behind, or with an exponent. Infinities and the undefined float are
written as names that mean nothing to the reader.

* `Reader.readAs_digitsText`: the digits keep their value in every layout;
* `Reader.readAs_magnitude`: they are read as the magnitude of the float;
* `Reader.operand_floatText`: a float is read back exactly if it is finite.
-/

namespace DebugScopes.Reader

/-! ### The digits of a float -/

section Digits

variable {row : List Char} {point : Int} {c : Char} {rest : List Char}

/-- What a text of digits, a point and an exponent is read as: a decimal with the same value, and
digits stand at its start. -/
structure ReadAs (text : List Char) (value : ℚ) : Prop where
  starts : ∃ front more, text = front :: more ∧ front.isDigit
  clean : Clean text
  read : ∃ (n : Nat) (k : Int), (n * 10 ^ k : ℚ) = value ∧ ∀ {c rest}, c ∈ stops →
    number (text ++ c :: rest) = some (.float (nearest n k), c :: rest)

theorem starts_of_allDigits {ahead more : List Char} (all : AllDigits ahead) (some : ahead ≠ []) :
    ∃ front behind, ahead ++ more = front :: behind ∧ front.isDigit := by
  obtain ⟨front, behind, rfl⟩ := List.exists_cons_of_ne_nil some
  exact ⟨front, behind ++ more, rfl, all front List.mem_cons_self⟩

/-- Digits around a point. -/
theorem readAs_positional {ahead behind : List Char} (first : AllDigits ahead)
    (second : AllDigits behind) (some : ahead ≠ []) (more : behind ≠ []) {value : ℚ}
    (same : Nat.ofDigitChars 10 (ahead ++ behind) 0 * 10 ^ (-behind.length : Int) = value) :
    ReadAs (ahead ++ '.' :: behind) value where
  starts := starts_of_allDigits first some
  clean := by simp [first.clean, second.clean]
  read := by
    refine ⟨_, _, same, fun {c rest} stop => ?_⟩
    rw [List.append_assoc, List.cons_append, number_eq_decimalNumber
      (plain_of_digits first some (by decide)), decimalNumber_positional first second more stop]

/-- Digits with an exponent. -/
theorem readAs_exponential {ahead behind size : List Char} {negative : Bool}
    (first : AllDigits ahead) (second : AllDigits behind) (third : AllDigits size)
    (some : ahead ≠ []) (more : size ≠ []) {value : ℚ}
    (same : Nat.ofDigitChars 10 (ahead ++ behind) 0 *
      10 ^ ((if negative then -(Nat.ofDigitChars 10 size 0 : Int)
        else Nat.ofDigitChars 10 size 0) - behind.length) = value) :
    ReadAs (ahead ++ (fractionText behind ++ 'e' :: exponentSign negative :: size)) value where
  starts := starts_of_allDigits first some
  clean := by
    unfold fractionText exponentSign
    split_ifs <;> simp [first.clean, second.clean, third.clean]
  read := by
    refine ⟨_, _, same, fun {c rest} stop => ?_⟩
    have plain : ∀ d ∈ (ahead ++ (fractionText behind ++
        'e' :: exponentSign negative :: (size ++ c :: rest))).tail.head?, d ∉ baseMarks := by
      unfold fractionText
      split
      · exact plain_of_digits first some (by decide)
      · exact plain_of_digits first some (by decide)
    have whole : ahead ++ (fractionText behind ++ 'e' :: exponentSign negative :: size) ++
        c :: rest = ahead ++ (fractionText behind ++
          'e' :: exponentSign negative :: (size ++ c :: rest)) := by
      simp
    rw [whole, number_eq_decimalNumber plain,
      decimalNumber_exponential first second third some more stop]

/-- A value below one has zeros behind the point. -/
theorem readAs_fraction (all : AllDigits row) (some : row ≠ []) (low : point ≤ 0) :
    ReadAs ('0' :: '.' :: (List.replicate (-point).toNat '0' ++ row))
      (Nat.ofDigitChars 10 row 0 * 10 ^ (point - row.length)) := by
  refine readAs_positional (allDigits_zeros 1) ((allDigits_zeros _).append all)
    (List.cons_ne_nil _ _) (by simp [some]) ?_
  rw [← List.append_assoc, Nat.ofDigitChars_append, List.replicate_append_replicate,
    Nat.ofDigitChars_replicate_zero, Nat.mul_zero, List.length_append, List.length_replicate]
  congr 2
  push_cast
  omega

/-- The point stands behind all digits, or among them. -/
theorem readAs_whole (all : AllDigits row) (some : row ≠ []) (positive : 0 < point) :
    ReadAs (row.take point.toNat ++ List.replicate (point.toNat - row.length) '0' ++
        '.' :: (if (row.drop point.toNat).isEmpty then ['0'] else row.drop point.toNat))
      (Nat.ofDigitChars 10 row 0 * 10 ^ (point - row.length)) := by
  obtain ⟨whole, rfl⟩ := Int.eq_ofNat_of_zero_le positive.le
  rw [Int.toNat_natCast]
  rcases Nat.lt_or_ge whole row.length with inside | outside
  · have behind : row.drop whole ≠ [] := by
      simpa using inside
    rw [Nat.sub_eq_zero_of_le inside.le, List.replicate_zero, List.append_nil,
      if_neg (by simpa using behind)]
    refine readAs_positional (all.take _) (all.drop _) ?_ behind ?_
    · simp [some]
      omega
    · rw [List.take_append_drop, List.length_drop]
      congr 2
      omega
  · rw [List.take_of_length_le outside, List.drop_of_length_le outside, List.isEmpty_nil,
      if_pos rfl]
    refine readAs_positional (all.append (allDigits_zeros _)) (allDigits_zeros 1) (by simp [some])
      (List.cons_ne_nil _ _) ?_
    obtain ⟨more, rfl⟩ := Nat.exists_eq_add_of_le outside
    rw [List.append_assoc, List.replicate_append_replicate, Nat.ofDigitChars_append,
      Nat.ofDigitChars_replicate_zero, List.length_replicate, Nat.add_sub_cancel_left, pow_succ]
    have point : ((row.length + more : Nat) : Int) - row.length = more := by omega
    rw [point, zpow_neg, zpow_natCast, zpow_natCast]
    push_cast
    field_simp

/-- The first digit stands in front of the point, and the exponent behind the digits. -/
theorem readAs_power (all : AllDigits row) (some : row ≠ []) :
    ReadAs (row.take 1 ++ (fractionText (row.drop 1) ++
        'e' :: exponentSign (point - 1 < 0) ::
          (let size := Nat.toDigits 10 (point - 1).natAbs
          if size.length < 2 then '0' :: size else size)))
      (Nat.ofDigitChars 10 row 0 * 10 ^ (point - row.length)) := by
  have size : AllDigits (if (Nat.toDigits 10 (point - 1).natAbs).length < 2 then
        '0' :: Nat.toDigits 10 (point - 1).natAbs else Nat.toDigits 10 (point - 1).natAbs) := by
    split
    · exact (allDigits_zeros 1).append (allDigits_toDigits _)
    · exact allDigits_toDigits _
  have value : Nat.ofDigitChars 10 (if (Nat.toDigits 10 (point - 1).natAbs).length < 2 then
        '0' :: Nat.toDigits 10 (point - 1).natAbs else Nat.toDigits 10 (point - 1).natAbs) 0 =
      (point - 1).natAbs := by
    split
    · rw [Nat.ofDigitChars_cons, Nat.sub_self, Nat.mul_zero, Nat.add_zero,
        Nat.ofDigitChars_ten_toDigits]
    · exact Nat.ofDigitChars_ten_toDigits
  have most : 0 < row.length := List.length_pos_iff.2 some
  refine readAs_exponential (all.take 1) (all.drop 1) size (by simp [some]) ?_ ?_
  · split
    · exact List.cons_ne_nil _ _
    · exact Nat.toDigits_ne_nil
  · rw [value, List.take_append_drop, List.length_drop]
    congr 2
    rw [Nat.cast_pred most]
    split_ifs with negative
    · rw [decide_eq_true_iff] at negative
      omega
    · rw [decide_eq_true_iff] at negative
      omega

/-- The digits of a float are read with the point where it is. -/
theorem readAs_digitsText (all : AllDigits row) (some : row ≠ []) (point : Int) :
    ReadAs (Value.digitsText ⟨String.ofList row, point⟩).toList
      (Nat.ofDigitChars 10 row 0 * 10 ^ (point - row.length)) := by
  unfold Value.digitsText
  dsimp only
  rw [String.toList_ofList]
  by_cases positional : -4 ≤ point - 1 ∧ point - 1 < 16
  · rw [if_pos positional]
    by_cases low : point ≤ 0
    · rw [if_pos low]
      convert readAs_fraction all some low using 1
      simp
    · rw [if_neg low]
      convert readAs_whole all some (Int.not_le.1 low) using 1
      simp [apply_ite String.toList]
  · rw [if_neg positional]
    convert readAs_power all some using 1
    generalize (point - 1).natAbs = n
    have size : (Numeral.decimal n).length = (Nat.toDigits 10 n).length := by
      rw [← String.length_toList, Numeral.toList_decimal_natCast]
    rw [size, fractionText, exponentSign]
    by_cases negative : point - 1 < 0 <;>
      simp [apply_ite String.toList, Numeral.toList_decimal_natCast, negative]

end Digits

/-! ### Finite and other floats -/

section Floats

open Float.Model Float.Model.UnpackedFloat Decimal

variable {x : Float} {depth level : Nat} {c : Char} {rest : List Char}

theorem zero_eq_ofModel : (0.0 : Float) = .ofModel (.pack (.zero .positive)) :=
  Float.toBits_inj.1 (by decide +kernel)

theorem neg_zero_eq_ofModel : -(0.0 : Float) = .ofModel (.pack (.zero .negative)) :=
  Float.toBits_inj.1 (by decide +kernel)

/-- The digits of a finite float are read as the float without its sign. -/
theorem readAs_magnitude (finite : x.isFinite) :
    (∃ front more, (Value.digitsText (Binary.ofFloat x).shortest).toList = front :: more ∧
      front.isDigit) ∧
    Clean (Value.digitsText (Binary.ofFloat x).shortest).toList ∧
    ∃ y : Float, (if x.toBits.toNat < 2 ^ 63 then y else -y) = x ∧ ∀ {c rest}, c ∈ stops →
      number ((Value.digitsText (Binary.ofFloat x).shortest).toList ++ c :: rest) =
        some (.float y, c :: rest) := by
  have status : x.toModel.unpack.isFinite = true := finite
  have whole := eq_ofModel_pack x
  cases kind x with
  | undefined is => exact absurd status (by rw [is]; decide)
  | infinite is => exact absurd status (by rw [is]; exact Bool.false_ne_true)
  | zero is none =>
    have digits : (Binary.ofFloat x).shortest = ⟨String.ofList ['0'], 1⟩ := by
      rw [Binary.shortest, if_pos none]
    obtain ⟨starts, clean, n, k, value, read⟩ :=
      readAs_digitsText (allDigits_zeros 1) (List.cons_ne_nil _ _) 1
    rw [digits]
    have none : n = 0 := by
      have power : (10 : ℚ) ^ k ≠ 0 := by positivity
      have digit : Nat.ofDigitChars 10 ['0'] 0 = 0 := rfl
      rw [List.replicate_one, digit, Nat.cast_zero, zero_mul] at value
      exact_mod_cast (mul_eq_zero.1 value).resolve_right power
    refine ⟨starts, clean, 0.0, ?_, fun stop => (read stop).trans ?_⟩
    · rw [is, signOf] at whole
      split_ifs at whole ⊢
      · exact zero_eq_ofModel.trans whole.symm
      · exact neg_zero_eq_ofModel.trans whole.symm
    · rw [none, nearest, if_pos rfl]
  | finite double is =>
    obtain ⟨row, some, all, digits, covers⟩ := double.shortest
    obtain ⟨starts, clean, n, k, value, read⟩ :=
      readAs_digitsText all some (Binary.ofFloat x).shortest.point
    rw [← digits] at starts clean read
    rw [← value] at covers
    have positive : 0 < n := by
      by_contra none
      rw [Nat.eq_zero_of_not_pos none] at covers
      simpa using covers.positive double.positive
    refine ⟨starts, clean, double.toFloat .positive, ?_, fun stop => (read stop).trans ?_⟩
    · rw [is, signOf] at whole
      split_ifs at whole ⊢
      · exact whole.symm
      · rw [double.neg_toFloat]
        exact whole.symm
    · rw [double.nearest positive covers]

theorem isNaN_of_isFinite (finite : x.isFinite) : x.isNaN = false := by
  change x.toModel.unpack.isFinite = true at finite
  change x.toModel.unpack.isNaN = false
  cases unpacked : x.toModel.unpack <;> rw [unpacked] at finite <;> first | rfl | contradiction

theorem isInf_of_isFinite (finite : x.isFinite) : x.isInf = false := by
  change x.toModel.unpack.isFinite = true at finite
  change x.toModel.unpack.isInf = false
  cases unpacked : x.toModel.unpack <;> rw [unpacked] at finite <;> first | rfl | contradiction

theorem isInf_of_not_isFinite (unbounded : x.isFinite = false) (defined : x.isNaN = false) :
    x.isInf = true := by
  change x.toModel.unpack.isFinite = false at unbounded
  change x.toModel.unpack.isNaN = false at defined
  change x.toModel.unpack.isInf = true
  cases unpacked : x.toModel.unpack <;> rw [unpacked] at unbounded defined <;>
    first | rfl | contradiction

/-- Infinities and the undefined float have names. -/
theorem floatText_of_not_isFinite (unbounded : x.isFinite = false) :
    (Value.floatText x).toList ∈ ["nan".toList, "inf".toList, '-' :: "inf".toList] := by
  unfold Value.floatText
  cases defined : x.isNaN with
  | true => rw [if_pos rfl]; decide
  | false =>
    rw [if_neg Bool.false_ne_true]
    dsimp only
    rw [if_pos (isInf_of_not_isFinite unbounded defined)]
    split <;> decide

/-- A finite float is written with its digits. -/
theorem floatText_of_isFinite (finite : x.isFinite) :
    (Value.floatText x).toList = (if x.toBits.toNat < 2 ^ 63 then [] else ['-']) ++
      (Value.digitsText (Binary.ofFloat x).shortest).toList := by
  unfold Value.floatText
  rw [isNaN_of_isFinite finite, if_neg Bool.false_ne_true]
  dsimp only [Nat.pow_eq]
  rw [isInf_of_isFinite finite, if_neg Bool.false_ne_true, String.toList_append]
  split <;> rfl

end Floats

/-! ### There and back -/

section Reread

variable {depth level : Nat} {c : Char} {rest : List Char}

/-- The names of what is no number mean nothing to the reader. -/
theorem operand_noNumber {name : String} (among : name ∈ ["nan", "inf"]) (stop : c ∈ stops) :
    operand (depth + 1) level (name.toList ++ c :: rest) = none := by
  simp only [List.mem_cons, List.not_mem_nil, or_false] at among
  rcases among with rfl | rfl
  · exact operand_unnamed (c := c) (by decide : 'n'.isAlpha) (fun _ => rfl)
      (show Name.isName ('n' :: "an".toList) by decide) (isNameChar_of_stop stop)
      (by rw [Normal.form_ascii (by decide)]; rfl) fun _ => rfl
  · exact operand_unnamed (c := c) (by decide : 'i'.isAlpha) (fun _ => rfl)
      (show Name.isName ('i' :: "nf".toList) by decide) (isNameChar_of_stop stop)
      (by rw [Normal.form_ascii (by decide)]; rfl) fun _ => rfl

/-- A float that has been written is read back exactly if it is finite. -/
theorem operand_floatText (x : Float) (stop : c ∈ stops) :
    operand (depth + 2) level ((Value.floatText x).toList ++ c :: rest) =
      if x.isFinite then some (.float x, c :: rest) else none := by
  cases finite : x.isFinite with
  | true =>
    obtain ⟨⟨front, more, digits, digit⟩, -, y, sign, read⟩ := readAs_magnitude finite
    replace read := @read c rest stop
    rw [digits, List.cons_append] at read
    rw [floatText_of_isFinite finite, digits, if_pos rfl]
    split_ifs at sign with positive
    · rw [if_pos positive, List.nil_append, List.cons_append, operand_number digit, read, sign]
    · rw [if_neg positive, List.cons_append, List.nil_append, List.cons_append, List.cons_append,
        operand_minus_number digit, read, Option.bind_some, negated, Option.map_some, sign]
  | false =>
    rw [if_neg Bool.false_ne_true]
    have named := floatText_of_not_isFinite finite
    simp only [List.mem_cons, List.not_mem_nil, or_false] at named
    rcases named with named | named | named <;> rw [named]
    · exact operand_noNumber (by decide) stop
    · exact operand_noNumber (by decide) stop
    · have solid : ∀ s, blanks (0 < level) ("inf".toList ++ s) = "inf".toList ++ s := fun s =>
        blanks_cons (by decide : 'i' ∉ blankMarks)
      rw [List.cons_append, operand_minus, solid, operand_noNumber (by decide) stop]
      rfl

theorem exists_front_floatText (x : Float) :
    ∃ front more, (Value.floatText x).toList = front :: more ∧ StartsNumber front := by
  cases finite : x.isFinite with
  | true =>
    obtain ⟨⟨front, more, digits, digit⟩, -⟩ := readAs_magnitude finite
    rw [floatText_of_isFinite finite, digits]
    split
    · exact ⟨front, more, rfl, .inl digit⟩
    · exact ⟨'-', front :: more, rfl, .inr (by decide)⟩
  | false =>
    have named := floatText_of_not_isFinite finite
    simp only [List.mem_cons, List.not_mem_nil, or_false] at named
    rcases named with named | named | named <;> rw [named] <;>
      exact ⟨_, _, rfl, .inr (by decide)⟩

theorem clean_floatText (x : Float) : Clean (Value.floatText x).toList := by
  cases finite : x.isFinite with
  | true =>
    rw [floatText_of_isFinite finite, clean_append]
    refine ⟨?_, (readAs_magnitude finite).2.1⟩
    split <;> simp
  | false =>
    have named := floatText_of_not_isFinite finite
    simp only [List.mem_cons, List.not_mem_nil, or_false] at named
    rcases named with named | named | named <;> rw [named] <;> simp

end Reread

end DebugScopes.Reader
