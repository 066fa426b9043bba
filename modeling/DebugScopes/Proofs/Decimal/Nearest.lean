import DebugScopes.Proofs.Decimal.Doubles
import DebugScopes.Proofs.Text.Numerals

/-!
# The double nearest to a decimal

A decimal is read in one of two ways. One with few digits and a small exponent is the product or the
quotient of two doubles and rounded once, and any other is rounded from an exact fraction. Either
way it is read as the double that covers it, whatever its digits are.

* `Binary.IsDouble.ofScientific_short`, `Binary.IsDouble.ofScientific_long`: the two ways;
* `Binary.IsDouble.nearest`: every decimal that a double covers is read as that double.
-/

namespace DebugScopes.Decimal

open Float.Model Float.Model.UnpackedFloat

namespace Binary

/-! ### Small powers of ten -/

/-- The small powers of ten are doubles, and are kept as such. -/
theorem powers_kept : ∀ (e : Nat) (_ : e < Float.exactlyRepresentablePowersOfTen.size),
    Float.exactlyRepresentablePowersOfTen[e].isFinite ∧
    ofFloat Float.exactlyRepresentablePowersOfTen[e] = ofNat (10 ^ e) ∧
    Float.exactlyRepresentablePowersOfTen[e].toBits.toNat < 2 ^ 63 := by
  decide +kernel

theorem powers_exact : ∀ e < Float.exactlyRepresentablePowersOfTen.size,
    2 ^ (10 ^ e).log2 ∣ 10 ^ e * 2 ^ 52 := by
  decide +kernel

theorem eq_power {e : Nat} (small : e < Float.exactlyRepresentablePowersOfTen.size) :
    ∃ double : (ofNat (10 ^ e)).IsDouble,
      Float.exactlyRepresentablePowersOfTen[e] = double.toFloat .positive := by
  obtain ⟨finite, kept, positive⟩ := powers_kept e small
  have double := isDouble_ofNat (show 0 < 10 ^ e by positivity) (by
    have short : 10 ^ e < 2 ^ 92 :=
      Nat.lt_of_lt_of_le (Nat.pow_lt_pow_right (by decide) small) (by decide)
    have := (Nat.log2_lt (show 10 ^ e ≠ 0 by positivity)).2 short
    omega)
  obtain ⟨_, is⟩ := unpack_of_isFinite finite (by rw [kept]; exact double.positive.ne')
  refine ⟨double, (eq_ofModel_pack _).trans ?_⟩
  rw [is]
  simp only [kept, signOf, if_pos positive]
  rfl

/-! ### Decimals -/

section Decimals

variable {v : Binary} {m : Nat} {k : Int}

/-- What is read on the short way, with doubles alone. -/
theorem IsDouble.ofScientific_short (double : v.IsDouble) (positive : 0 < m) (small : m < 2 ^ 53)
    (narrow : k.natAbs ≤ 22) (covers : v.Covers (m * 10 ^ k / 2 ^ v.exponent)) :
    Float.ofScientific m (k < 0) k.natAbs = double.toFloat .positive := by
  obtain ⟨own, whole⟩ := toFloat_toUInt64 positive small
  have value := number_ofNat (Dvd.dvd.mul_left (Nat.pow_dvd_pow 2 (show m.log2 ≤ 52 by
    have := (Nat.log2_lt positive.ne').2 small
    omega)) m)
  have kept : k.natAbs < Float.exactlyRepresentablePowersOfTen.size := Nat.lt_succ_iff.2 narrow
  obtain ⟨ten, power⟩ := eq_power kept
  have exact := number_ofNat (powers_exact k.natAbs kept)
  unfold number at value exact
  push_cast at exact
  rw [Float.ofScientific, dif_pos ⟨small, narrow⟩, whole]
  dsimp only
  rw [power]
  by_cases below : k < 0
  · have sign : k = -(k.natAbs : Int) := by omega
    rw [if_pos (decide_eq_true below)]
    change Float.ofModel (.pack (UnpackedFloat.div .binary64 (own.toFloat .positive).toModel.unpack
      (ten.toFloat .positive).toModel.unpack)) = _
    rw [own.unpack_toFloat, ten.unpack_toFloat, double.div]
    · rfl
    · rw [sign, zpow_neg, zpow_natCast] at covers
      rwa [value, exact, div_eq_mul_inv (m : ℚ)]
  · have sign : k = (k.natAbs : Int) := by omega
    rw [if_neg (by simpa using below)]
    change Float.ofModel (.pack (UnpackedFloat.mul .binary64 (own.toFloat .positive).toModel.unpack
      (ten.toFloat .positive).toModel.unpack)) = _
    rw [own.unpack_toFloat, ten.unpack_toFloat, double.mul]
    · rfl
    · have normal : (ofNat m).exponent ≠ -1074 := by
        change (m.log2 : Int) - 52 ≠ -1074
        omega
      calc 2 ^ 52 ≤ (ofNat m).mantissa := own.full.resolve_right normal
        _ ≤ (ofNat m).mantissa * (ofNat (10 ^ k.natAbs)).mantissa :=
          Nat.le_mul_of_pos_right _ ten.positive
    · rw [sign, zpow_natCast] at covers
      rwa [zpow_add₀ two_ne_zero, mul_mul_mul_comm, value, exact]

/-- What is read on the long way, with a rounding of the exact product or quotient. -/
theorem IsDouble.ofScientific_long (double : v.IsDouble) (positive : 0 < m)
    (least : -2048 - (m.log2 : Int) ≤ k) (most : k ≤ 2048)
    (covers : v.Covers (m * 10 ^ k / 2 ^ v.exponent)) :
    UnpackedFloat.ofScientific .binary64 m k =
      .finite .positive v.mantissa v.exponent double.positive := by
  rw [UnpackedFloat.ofScientific, dif_neg positive.ne', if_neg (by change ¬ k > 2048; omega),
    if_neg (by change ¬ k < -(2048 + (m.log2 : Int)); omega)]
  split_ifs with natural
  · have bits : 2 ^ 52 ≤ m <<< Format.binary64.mantissaBits * 10 ^ k.toNat := by
      have shifted : m <<< Format.binary64.mantissaBits = m * 2 ^ 53 := Nat.shiftLeft_eq ..
      have some : 0 < m * 10 ^ k.toNat := by positivity
      rw [shifted, Nat.mul_right_comm]
      omega
    refine double.mul bits ?_
    have exact : ((m <<< Format.binary64.mantissaBits : Nat) * (10 ^ k.toNat : Nat) *
        2 ^ (-(Format.binary64.mantissaBits : Int) + 0) : ℚ) = m * 10 ^ k := by
      have shifted : m <<< Format.binary64.mantissaBits = m * 2 ^ 53 := Nat.shiftLeft_eq ..
      conv_rhs => rw [← Int.toNat_of_nonneg natural, zpow_natCast]
      rw [shifted]
      push_cast
      rw [show -(Format.binary64.mantissaBits : Int) + 0 = -(53 : Nat) from rfl, zpow_neg,
        zpow_natCast]
      field_simp
      norm_num
    rwa [exact]
  · refine double.div ?_
    have sign : k = -((-k).toNat : Int) := by omega
    have exact : (m * 2 ^ (0 : Int) / ((10 ^ (-k).toNat : Nat) * 2 ^ (0 : Int)) : ℚ) =
        m * 10 ^ k := by
      conv_rhs => rw [sign, zpow_neg, zpow_natCast]
      simp [div_eq_mul_inv]
    rwa [exact]

end Decimals

section Nearest

variable {v : Binary} {m : Nat} {k : Int}

theorem two_pow_le_ten_pow (n : Nat) : (2 : ℚ) ^ (3 * n) ≤ 10 ^ n := by
  rw [pow_mul]
  gcongr
  norm_num

/-- A number that a double covers is not out of its range. -/
theorem IsDouble.inside (double : v.IsDouble) {q : ℚ} (covers : v.Covers (q / 2 ^ v.exponent)) :
    10 ^ (-401 : Int) ≤ q ∧ q < 10 ^ (400 : Int) := by
  obtain ⟨low, high⟩ := covers.bounds
  have whole : q = q / 2 ^ v.exponent * 2 ^ v.exponent :=
    (div_mul_cancel₀ q (zpow_ne_zero _ two_ne_zero)).symm
  have least : (1 : ℚ) ≤ v.mantissa := by exact_mod_cast double.positive
  have most : (v.mantissa : ℚ) + 1 ≤ 2 ^ 53 := by exact_mod_cast double.short
  have bottom : (2 : ℚ) ^ (-1074 : Int) ≤ 2 ^ v.exponent :=
    zpow_le_zpow_right₀ one_le_two double.least
  have top : (2 : ℚ) ^ v.exponent ≤ 2 ^ (971 : Int) :=
    zpow_le_zpow_right₀ one_le_two double.most
  have some : (0 : ℚ) < 2 ^ v.exponent := by positivity
  have bits : (2 : ℚ) ^ (53 : Int) = 2 ^ 53 := zpow_natCast 2 53
  constructor
  · calc (10 : ℚ) ^ (-401 : Int) ≤ 10 ^ (-(359 : Nat) : Int) :=
          zpow_le_zpow_right₀ (by norm_num) (by decide)
      _ ≤ 2 ^ (-(3 * 359 : Nat) : Int) := by
        rw [zpow_neg, zpow_neg, zpow_natCast, zpow_natCast]
        exact inv_anti₀ (by positivity) (two_pow_le_ten_pow 359)
      _ ≤ 2 ^ (-1 + -1074 : Int) := zpow_le_zpow_right₀ one_le_two (by decide)
      _ = 1 / 2 * 2 ^ (-1074 : Int) := by rw [zpow_add₀ two_ne_zero, zpow_neg_one, one_div]
      _ ≤ q / 2 ^ v.exponent * 2 ^ v.exponent :=
        mul_le_mul (by linarith) bottom (by positivity) (by linarith)
      _ = q := whole.symm
  · calc q = q / 2 ^ v.exponent * 2 ^ v.exponent := whole
      _ ≤ 2 ^ (53 : Int) * 2 ^ (971 : Int) :=
        mul_le_mul (by rw [bits]; linarith) top some.le (zpow_pos two_pos 53).le
      _ = 2 ^ (53 + 971 : Int) := (zpow_add₀ two_ne_zero ..).symm
      _ ≤ 2 ^ ((3 * 342 : Nat) : Int) := zpow_le_zpow_right₀ one_le_two (by decide)
      _ ≤ 10 ^ ((342 : Nat) : Int) := by
        rw [zpow_natCast, zpow_natCast]
        exact two_pow_le_ten_pow 342
      _ < 10 ^ (400 : Int) := zpow_lt_zpow_right₀ (by norm_num) (by decide)

/-- A decimal that a double covers is neither too large nor too small to be looked at. -/
theorem IsDouble.magnitude (double : v.IsDouble) (positive : 0 < m)
    (covers : v.Covers (m * 10 ^ k / 2 ^ v.exponent)) :
    -400 ≤ (Nat.toDigits 10 m).length + k ∧ (Nat.toDigits 10 m).length + k ≤ 400 := by
  obtain ⟨least, most⟩ := double.inside covers
  have some := List.length_pos_iff.2 (Nat.toDigits_ne_nil (n := m) (b := 10))
  have low := Numeral.pow_length_le positive
  have high := Numeral.lt_pow_length m
  generalize (Nat.toDigits 10 m).length = size at *
  have above : (10 : ℚ) ^ (size - 1 + k) < 10 ^ (400 : Int) :=
    calc (10 : ℚ) ^ (size - 1 + k) = (10 ^ (size - 1) : Nat) * 10 ^ k := by
          rw [zpow_add₀ (by decide), Nat.cast_pow, ← zpow_natCast, Nat.cast_sub some]
          rfl
      _ ≤ m * 10 ^ k := by gcongr
      _ < 10 ^ (400 : Int) := most
  have below : (10 : ℚ) ^ (-401 : Int) < 10 ^ (size + k) :=
    calc (10 : ℚ) ^ (-401 : Int) ≤ m * 10 ^ k := least
      _ < (10 ^ size : Nat) * 10 ^ k := by gcongr
      _ = 10 ^ (size + k) := by
        rw [zpow_add₀ (by decide), Nat.cast_pow, ← zpow_natCast]
        rfl
  rw [zpow_lt_zpow_iff_right₀ (by norm_num)] at above below
  omega

/-- An integer is put together again from its sign and its size. -/
theorem ofSign_natAbs (k : Int) :
    (if decide (k < 0) then Int.negOfNat k.natAbs else Int.ofNat k.natAbs) = k := by
  rcases lt_or_ge k 0 with negative | natural
  · rw [decide_eq_true negative, if_pos rfl, Int.negOfNat_eq]
    exact (Int.eq_neg_natAbs_of_nonpos negative.le).symm
  · rw [decide_eq_false (Int.not_lt.2 natural), if_neg Bool.false_ne_true]
    exact Int.natAbs_of_nonneg natural

/-- A decimal is read as the double that covers it. -/
theorem IsDouble.nearest (double : v.IsDouble) (positive : 0 < m)
    (covers : v.Covers (m * 10 ^ k / 2 ^ v.exponent)) :
    Reader.nearest m k = double.toFloat .positive := by
  obtain ⟨below, above⟩ := double.magnitude positive covers
  have log := Numeral.length_le_log positive
  unfold Reader.nearest
  dsimp only
  rw [if_neg positive.ne', if_neg (by omega), if_neg (by omega)]
  by_cases short : m < 2 ^ 53 ∧ k.natAbs ≤ 22
  · exact double.ofScientific_short positive short.1 short.2 covers
  · rw [Float.ofScientific, dif_neg short]
    dsimp only
    rw [ofSign_natAbs]
    change Float.ofModel (.pack (UnpackedFloat.ofScientific .binary64 m k)) = _
    rw [double.ofScientific_long positive (by omega) (by omega) covers]
    rfl

end Nearest

end Binary

end DebugScopes.Decimal
