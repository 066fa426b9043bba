import Mathlib
import DebugScopes.Decimal.Shortest

/-!
# Rounding to the nearest double

A number is rounded by shifting its mantissa until the last place is where a double has it, and then
by what the bits say that have fallen out. `Describes` is what an extended mantissa tells of the
number itself, and shifting keeps it true. A double covers the numbers to which no other double is
nearer, and of those in the middle between two doubles the ones next to an even mantissa. Below a
power of two the doubles lie closer together, so that it covers less on that side, and there a
number may be rounded up from one place below.

* `Describes.shiftRight`, `Describes.roundedMantissa`: how a mantissa is shifted and rounded;
* `Binary.Covers`: the numbers to which a double is the nearest one;
* `Binary.IsDouble.roundWithAccuracy`: a number is rounded to the double that covers it;
* `Binary.IsDouble.mul`, `Binary.IsDouble.div`: and so are products and quotients.
-/

namespace DebugScopes.Decimal

open Float.Model Float.Model.UnpackedFloat

/-! ### Mantissas with two bits behind them -/

/-- Whether an extended mantissa is what is left of a number: its whole part, and which half of the
step above that the number lies in, if it is neither at the bottom nor in the middle. -/
def Describes : ExtendedMantissa → ℚ → Prop
  | ⟨m, false, false⟩, x => x = m
  | ⟨m, false, true⟩, x => m < x ∧ x < m + 1 / 2
  | ⟨m, true, false⟩, x => x = m + 1 / 2
  | ⟨m, true, true⟩, x => m + 1 / 2 < x ∧ x < m + 1

/-- Nothing is lost of what rounding needs when one more bit leaves the mantissa. -/
theorem Describes.shiftRightOne {em : ExtendedMantissa} {x : ℚ} (told : Describes em x) :
    Describes em.shiftRightOne (x / 2) := by
  obtain ⟨m, roundBit, stickyBit⟩ := em
  have halves : (m : ℚ) = 2 * (m / 2 : Nat) + (m % 2 : Nat) := by
    exact_mod_cast (Nat.div_add_mod m 2).symm
  unfold ExtendedMantissa.shiftRightOne
  rcases Nat.mod_two_eq_zero_or_one m with parity | parity <;> rw [parity] at halves ⊢ <;>
    push_cast at halves <;> cases roundBit <;> cases stickyBit <;> simp [Describes] at told ⊢ <;>
    first
      | linarith
      | constructor <;> linarith

theorem Describes.shiftRight {em : ExtendedMantissa} {x : ℚ} (told : Describes em x) (n : Nat) :
    Describes (em >>> n) (x / 2 ^ n) := by
  induction n with
  | zero => simpa [HShiftRight.hShiftRight, Nat.repeat] using told
  | succ n ih =>
    have step := ih.shiftRightOne
    rwa [div_div, ← pow_succ] at step

/-- Half a step around a whole number belongs to it, the ends only if it is even. -/
def Within (m : Nat) (x : ℚ) : Prop :=
  if m % 2 = 0 then m - 1 / 2 ≤ x ∧ x ≤ m + 1 / 2 else m - 1 / 2 < x ∧ x < m + 1 / 2

theorem Within.bounds {m : Nat} {x : ℚ} (within : Within m x) :
    (m : ℚ) - 1 / 2 ≤ x ∧ x ≤ m + 1 / 2 := by
  unfold Within at within
  split at within
  · exact within
  · exact ⟨within.1.le, within.2.le⟩

/-- In the middle between two whole numbers lies what belongs to the even one. -/
theorem Within.of_middle {k m : Nat} (within : Within m (k + 1 / 2 : ℚ)) : m = k + k % 2 := by
  unfold Within at within
  split at within
  · have least : (m : ℚ) ≤ k + 1 := by linarith
    have most : (k : ℚ) ≤ m := by linarith
    norm_cast at least most
    omega
  · have least : (m : ℚ) < k + 1 := by linarith
    have most : (k : ℚ) < m := by linarith
    norm_cast at least most
    omega

/-- A number is rounded to the whole number within half a step of it. -/
theorem Describes.roundedMantissa {em : ExtendedMantissa} {x : ℚ} {m : Nat}
    (told : Describes em x) (within : Within m x) : em.roundedMantissa = m := by
  obtain ⟨k, roundBit, stickyBit⟩ := em
  obtain ⟨least, most⟩ := within.bounds
  cases roundBit <;> cases stickyBit <;> dsimp only [Describes] at told
  case false.false =>
    have above : (k : ℚ) < m + 1 := by linarith
    have below : (m : ℚ) < k + 1 := by linarith
    norm_cast at above below
    exact show k = m by omega
  case false.true =>
    have above : (k : ℚ) < m + 1 := by linarith
    have below : (m : ℚ) < k + 1 := by linarith
    norm_cast at above below
    exact show k = m by omega
  case true.false =>
    subst told
    exact within.of_middle.symm
  case true.true =>
    have above : (k : ℚ) < m := by linarith
    have below : (m : ℚ) < k + 2 := by linarith
    norm_cast at above below
    exact show k + 1 = m by omega

/-! ### Doubles -/

namespace Binary

/-- Whether a mantissa and an exponent are those of a finite double that is not zero. -/
structure IsDouble (v : Binary) : Prop where
  positive : 0 < v.mantissa
  short : v.mantissa < 2 ^ 53
  least : -1074 ≤ v.exponent
  most : v.exponent ≤ 971
  full : 2 ^ 52 ≤ v.mantissa ∨ v.exponent = -1074
  tight : v.tight = true ↔ v.mantissa = 2 ^ 52 ∧ -1074 < v.exponent

/-- The magnitude as a number. -/
def number (v : Binary) : ℚ := v.mantissa * 2 ^ v.exponent

/-- Whether a double is the nearest one to a number, which is given in steps of its last place. -/
def Covers (v : Binary) (x : ℚ) : Prop :=
  if v.mantissa % 2 = 0 then
    v.mantissa - (if v.tight then 1 / 4 else 1 / 2) ≤ x ∧ x ≤ v.mantissa + 1 / 2
  else v.mantissa - (if v.tight then 1 / 4 else 1 / 2) < x ∧ x < v.mantissa + 1 / 2

theorem Covers.bounds {v : Binary} {x : ℚ} (covers : v.Covers x) :
    (v.mantissa : ℚ) - 1 / 2 ≤ x ∧ x ≤ v.mantissa + 1 / 2 := by
  unfold Covers at covers
  split at covers <;> split at covers <;> constructor <;> linarith [covers.1, covers.2]

theorem Covers.within {v : Binary} {x : ℚ} (covers : v.Covers x) : Within v.mantissa x := by
  unfold Covers at covers
  unfold Within
  split at covers <;> split at covers <;> rename_i parity _ <;>
    first
      | rw [if_pos parity]; constructor <;> linarith [covers.1, covers.2]
      | rw [if_neg parity]; constructor <;> linarith [covers.1, covers.2]

/-! ### Where rounding puts the last place -/

theorem targetExponent_eq (m : Nat) (e : Int) :
    Format.binary64.targetExponent (totalExponent m e) = max (m.log2 + e - 52) (-1074) := by
  have short : Format.binary64.targetExponent (totalExponent m e) =
      max (m.log2 + 1 + e - 53) (-1074) := rfl
  rw [short]
  omega

theorem IsDouble.target {v : Binary} (double : v.IsDouble) :
    Format.binary64.targetExponent (totalExponent v.mantissa v.exponent) = v.exponent := by
  obtain ⟨positive, short, least, most, full, -⟩ := double
  have log_lt : v.mantissa.log2 < 53 := (Nat.log2_lt positive.ne').2 short
  rw [targetExponent_eq]
  rcases full with full | bottom
  · have le_log : 52 ≤ v.mantissa.log2 := (Nat.le_log2 positive.ne').2 full
    omega
  · omega

/-- The mantissa of a double stays where it is. -/
theorem IsDouble.settled {v : Binary} (double : v.IsDouble) :
    shiftToTargetExponent .binary64 v.mantissa v.exponent .exact =
      (⟨v.mantissa, false, false⟩, v.exponent) := by
  rw [shiftToTargetExponent, double.target, shiftToExponent, Int.sub_self]
  exact Prod.ext rfl (Int.add_zero _)

/-- A mantissa that has been rounded up to one more bit loses the bit again. -/
theorem settled_two_pow {e : Int} (least : -1074 ≤ e) :
    shiftToTargetExponent .binary64 (2 ^ 53) e .exact = (⟨2 ^ 52, false, false⟩, e + 1) := by
  have up : Format.binary64.targetExponent (totalExponent (2 ^ 53) e) = e + 1 := by
    rw [targetExponent_eq, Nat.log2_two_pow]
    omega
  have one : (e + 1 - e).toNat = 1 := by omega
  rw [shiftToTargetExponent, up, shiftToExponent, one]
  rfl

/-- What is known of a number once its last place has been found: it fits in 53 bits, and has fewer
only at the end of the range. -/
structure Levelled (e : Int) (q : ℚ) : Prop where
  least : -1074 ≤ e
  short : q / 2 ^ e < 2 ^ 53
  full : e = -1074 ∨ 2 ^ 52 ≤ q / 2 ^ e

end Binary

/-- The mantissa tells where the number lies. -/
theorem Describes.bounds {m : Nat} {accuracy : Accuracy} {x : ℚ}
    (told : Describes (.ofMantissaAndAccuracy m accuracy) x) : (m : ℚ) ≤ x ∧ x < m + 1 := by
  unfold ExtendedMantissa.ofMantissaAndAccuracy at told
  split at told <;> dsimp only [Describes] at told <;> constructor <;> linarith

/-- Steps that are `2 ^ k` times as wide leave that much less of them. -/
theorem div_two_zpow_add (q : ℚ) (e : Int) (k : Nat) :
    q / 2 ^ (e + k) = q / 2 ^ e / 2 ^ k := by
  rw [zpow_add₀ two_ne_zero, zpow_natCast, div_div]

/-- The last place is found by the mantissa, if that has enough bits. -/
theorem levelled_of_describes {m : Nat} {e : Int} {accuracy : Accuracy} {q : ℚ}
    (told : Describes (.ofMantissaAndAccuracy m accuracy) (q / 2 ^ e))
    (fine : e ≤ max (m.log2 + e - 52) (-1074)) :
    Binary.Levelled (max (m.log2 + e - 52) (-1074)) q := by
  obtain ⟨least, most⟩ := told.bounds
  obtain ⟨k, shift⟩ := Int.le.dest fine
  rw [← shift]
  constructor
  · omega
  · rw [div_two_zpow_add, div_lt_iff₀ (by positivity), ← pow_add]
    have bits : m + 1 ≤ 2 ^ (53 + k) :=
      calc m + 1 ≤ 2 ^ (m.log2 + 1) := Nat.lt_log2_self
        _ ≤ 2 ^ (53 + k) := Nat.pow_le_pow_right two_pos (by omega)
    calc q / 2 ^ e < m + 1 := most
      _ ≤ 2 ^ (53 + k) := mod_cast bits
  · refine or_iff_not_imp_left.2 fun inside => ?_
    have positive : m ≠ 0 := by
      rintro rfl
      rw [Nat.log2_zero] at shift
      omega
    have bits : 2 ^ (52 + k) ≤ m :=
      calc 2 ^ (52 + k) ≤ 2 ^ m.log2 := Nat.pow_le_pow_right two_pos (by omega)
        _ ≤ m := Nat.log2_self_le positive
    rw [div_two_zpow_add, le_div_iff₀ (by positivity), ← pow_add]
    calc (2 : ℚ) ^ (52 + k) ≤ m := mod_cast bits
      _ ≤ q / 2 ^ e := least

/-! ### Rounding -/

namespace Binary

section Rounding

variable {v : Binary} {e : Int} {q : ℚ}

/-- The same number in steps that are `2 ^ (k + 1)` times as wide. -/
theorem div_two_zpow_of_lt {e e' : Int} {k : Nat} (gap : e + 1 + k = e') :
    q / 2 ^ e = q / 2 ^ e' * (2 ^ k * 2) := by
  have step := div_two_zpow_add q e (k + 1)
  rw [show e + (k + 1 : Nat) = e' by push_cast; omega, pow_succ] at step
  rw [step]
  field_simp

/-- The last place that was found is not above that of the nearest double: in such wide steps the
double has not enough of them. -/
theorem IsDouble.place_le (double : v.IsDouble) (covers : v.Covers (q / 2 ^ v.exponent))
    (levelled : Levelled e q) : e ≤ v.exponent := by
  by_contra above
  obtain ⟨k, gap⟩ := Int.le.dest (Int.add_one_le_iff.2 (Int.not_le.1 above))
  have full := levelled.full.resolve_left (by have := double.least; omega)
  have short : (v.mantissa : ℚ) + 1 ≤ 2 ^ 53 := by exact_mod_cast double.short
  have high := covers.bounds.2
  have narrower : q / 2 ^ v.exponent = q / 2 ^ e * (2 ^ k * 2) := div_two_zpow_of_lt gap
  have one : (1 : ℚ) ≤ 2 ^ k := one_le_pow₀ one_le_two
  nlinarith

/-- If it is below that of the nearest double, it is the next one, and the number lies right below a
power of two and is rounded up to it. -/
theorem IsDouble.place_of_lt (double : v.IsDouble) (covers : v.Covers (q / 2 ^ v.exponent))
    (levelled : Levelled e q) (below : e < v.exponent) :
    v.exponent = e + 1 ∧ v.mantissa = 2 ^ 52 ∧ Within (2 ^ 53) (q / 2 ^ e) := by
  obtain ⟨k, gap⟩ := Int.le.dest (Int.add_one_le_iff.2 below)
  have full : (2 : ℚ) ^ 52 ≤ v.mantissa := by
    exact_mod_cast double.full.resolve_right (by have := levelled.least; omega)
  have wider : q / 2 ^ e = q / 2 ^ v.exponent * (2 ^ k * 2) := div_two_zpow_of_lt gap
  have low := covers.bounds.1
  have short := levelled.short
  -- Two places below, the number would be too long for a mantissa.
  have zero : k = 0 := by
    by_contra more
    have four : (2 : ℚ) ≤ 2 ^ k := by
      calc (2 : ℚ) = 2 ^ 1 := (pow_one 2).symm
        _ ≤ 2 ^ k := pow_le_pow_right₀ one_le_two (by omega)
    nlinarith
  subst zero
  have mantissa : v.mantissa = 2 ^ 52 := by
    have most : (v.mantissa : ℚ) < 2 ^ 52 + 1 := by linarith
    norm_cast at most full
    omega
  have tight : v.tight = true := double.tight.2 ⟨mantissa, by have := levelled.least; omega⟩
  refine ⟨by omega, mantissa, ?_⟩
  rw [Covers, if_pos (by rw [mantissa]; decide), if_pos tight, mantissa] at covers
  rw [Within, if_pos (by decide)]
  push_cast at covers ⊢
  constructor <;> linarith [covers.1]

/-- A number is rounded to the double that covers it. -/
theorem IsDouble.roundWithAccuracy (double : v.IsDouble) {s : Sign} {m : Nat} {accuracy : Accuracy}
    (covers : v.Covers (q / 2 ^ v.exponent))
    (told : Describes (.ofMantissaAndAccuracy m accuracy) (q / 2 ^ e))
    (fine : e ≤ max (m.log2 + e - 52) (-1074)) :
    UnpackedFloat.roundWithAccuracy .binary64 s m e accuracy =
      .finite s v.mantissa v.exponent double.positive := by
  have levelled := levelled_of_describes told fine
  obtain ⟨k, shift⟩ := Int.le.dest fine
  have first : shiftToTargetExponent .binary64 m e accuracy =
      (ExtendedMantissa.ofMantissaAndAccuracy m accuracy >>> k, e + k) := by
    have count : (e + k - e).toNat = k := by omega
    rw [shiftToTargetExponent, targetExponent_eq, ← shift, shiftToExponent, count]
  have told' := told.shiftRight k
  rw [← div_two_zpow_add] at told'
  rw [← shift] at levelled
  unfold UnpackedFloat.roundWithAccuracy
  rw [first]
  dsimp only
  -- The last place is the double's, or the one below, and then the mantissa overflows to its first.
  rcases (double.place_le covers levelled).eq_or_lt with same | below
  · rw [same] at told' ⊢
    rw [told'.roundedMantissa covers.within, double.settled]
    exact dif_neg double.positive.ne'
  · obtain ⟨up, mantissa, within⟩ := double.place_of_lt covers levelled below
    rw [told'.roundedMantissa within, settled_two_pow levelled.least]
    simp only [up, mantissa]
    exact dif_neg (by decide)

/-- A product that has been rounded is the double that covers it. -/
theorem IsDouble.mul (double : v.IsDouble) {s₁ s₂ : Sign} {m₁ m₂ : Nat} {e₁ e₂ : Int}
    {p₁ : 0 < m₁} {p₂ : 0 < m₂} (bits : 2 ^ 52 ≤ m₁ * m₂)
    (covers : v.Covers (m₁ * m₂ * 2 ^ (e₁ + e₂) / 2 ^ v.exponent)) :
    UnpackedFloat.mul .binary64 (.finite s₁ m₁ e₁ p₁) (.finite s₂ m₂ e₂ p₂) =
      .finite (s₁ * s₂) v.mantissa v.exponent double.positive := by
  have log : 52 ≤ (m₁ * m₂).log2 := (Nat.le_log2 (Nat.mul_pos p₁ p₂).ne').2 bits
  refine double.roundWithAccuracy covers ?_ (by omega)
  rw [mul_div_cancel_right₀ _ (zpow_ne_zero _ two_ne_zero)]
  exact (Nat.cast_mul m₁ m₂).symm

/-- The remainder of a division tells where the quotient lies. -/
theorem describes_quotient (n : Nat) {d : Nat} (positive : 0 < d) :
    Describes (.ofMantissaAndAccuracy (n / d) (accuracyOfFraction (n % d) d)) (n / d : ℚ) := by
  have some : (0 : ℚ) < d := by exact_mod_cast positive
  have whole : (n : ℚ) = d * (n / d : Nat) + (n % d : Nat) := by
    exact_mod_cast (Nat.div_add_mod n d).symm
  have parts : (n / d : ℚ) = (n / d : Nat) + (n % d : Nat) / d := by
    rw [div_eq_iff some.ne', whole]
    field_simp
  have below : n % d < d := Nat.mod_lt n positive
  rw [parts]
  generalize n % d = r at below ⊢
  have less : (r : ℚ) / d < 1 := by
    rw [div_lt_one some]
    exact_mod_cast below
  unfold accuracyOfFraction
  split_ifs with exact
  · rw [exact, Nat.cast_zero, zero_div, add_zero]
    rfl
  · have more : (0 : ℚ) < r / d := by
      have : (0 : ℚ) < r := by exact_mod_cast Nat.pos_of_ne_zero exact
      positivity
    rcases lt_trichotomy (2 * r) d with left | middle | right
    · rw [compare_lt_iff_lt.2 left]
      have half : (r : ℚ) / d < 1 / 2 := by
        rw [div_lt_div_iff₀ some two_pos, one_mul, mul_comm]
        exact_mod_cast left
      constructor <;> linarith
    · rw [compare_eq_iff_eq.2 middle]
      have half : (r : ℚ) / d = 1 / 2 := by
        rw [div_eq_div_iff some.ne' two_ne_zero, one_mul, mul_comm]
        exact_mod_cast middle
      rw [half]
      rfl
    · rw [compare_gt_iff_gt.2 right]
      have half : (1 : ℚ) / 2 < r / d := by
        rw [div_lt_div_iff₀ two_pos some, one_mul, mul_comm]
        exact_mod_cast right
      constructor <;> linarith

/-- A quotient has enough bits if the dividend has been shifted far enough. -/
theorem log2_quotient {m₁ m₂ k : Nat} (p₁ : 0 < m₁) (p₂ : 0 < m₂)
    (enough : m₂.log2 + 53 ≤ m₁.log2 + k) : 52 ≤ (m₁ <<< k / m₂).log2 := by
  have bits : 2 ^ 52 * m₂ ≤ m₁ <<< k :=
    calc 2 ^ 52 * m₂ ≤ 2 ^ 52 * 2 ^ (m₂.log2 + 1) := Nat.mul_le_mul_left _ Nat.lt_log2_self.le
      _ = 2 ^ (m₂.log2 + 53) := by ring
      _ ≤ 2 ^ (m₁.log2 + k) := Nat.pow_le_pow_right two_pos enough
      _ = 2 ^ m₁.log2 * 2 ^ k := pow_add ..
      _ ≤ m₁ * 2 ^ k := Nat.mul_le_mul_right _ (Nat.log2_self_le p₁.ne')
      _ = m₁ <<< k := (Nat.shiftLeft_eq ..).symm
  have full : 2 ^ 52 ≤ m₁ <<< k / m₂ := (Nat.le_div_iff_mul_le p₂).2 bits
  exact (Nat.le_log2 (Nat.lt_of_lt_of_le (by decide) full).ne').2 full

/-- A quotient that has been rounded is the double that covers it. -/
theorem IsDouble.div (double : v.IsDouble) {s₁ s₂ : Sign} {m₁ m₂ : Nat} {e₁ e₂ : Int}
    {p₁ : 0 < m₁} {p₂ : 0 < m₂}
    (covers : v.Covers (m₁ * 2 ^ e₁ / (m₂ * 2 ^ e₂) / 2 ^ v.exponent)) :
    UnpackedFloat.div .binary64 (.finite s₁ m₁ e₁ p₁) (.finite s₂ m₂ e₂ p₂) =
      .finite (s₁ / s₂) v.mantissa v.exponent double.positive := by
  have target : Format.binary64.targetExponent (totalExponent m₁ e₁ - totalExponent m₂ e₂) =
      max (m₁.log2 + e₁ - (m₂.log2 + e₂) - 53) (-1074) := by
    have long : Format.binary64.targetExponent (totalExponent m₁ e₁ - totalExponent m₂ e₂) =
      max (m₁.log2 + 1 + e₁ - (m₂.log2 + 1 + e₂) - 53) (-1074) := rfl
    rw [long]
    omega
  generalize top : min (e₁ - e₂) (max (m₁.log2 + e₁ - (m₂.log2 + e₂) - 53) (-1074) : Int) = t
  obtain ⟨k, gap⟩ := Int.le.dest (show t ≤ e₁ - e₂ by omega)
  have core : divCore .binary64 m₁ e₁ m₂ e₂ =
      (m₁ <<< k / m₂, t, accuracyOfFraction (m₁ <<< k % m₂) m₂) := by
    have count : (e₁ - e₂ - t).toNat = k := by omega
    rw [divCore, target, top, count]
  have quotient : m₁ * 2 ^ e₁ / (m₂ * 2 ^ e₂) / 2 ^ t = ((m₁ <<< k : Nat) / m₂ : ℚ) := by
    have powers : (2 : ℚ) ^ e₁ = 2 ^ t * 2 ^ e₂ * 2 ^ k := by
      rw [← zpow_natCast, ← zpow_add₀ two_ne_zero, ← zpow_add₀ two_ne_zero]
      congr 1
      omega
    rw [Nat.shiftLeft_eq, powers]
    push_cast
    field_simp
  have fine : t ≤ max ((m₁ <<< k / m₂).log2 + t - 52) (-1074) := by
    by_cases low : t ≤ -1074
    · omega
    · have log := log2_quotient p₁ p₂ (k := k) (by omega)
      omega
  unfold UnpackedFloat.div
  dsimp only
  rw [core]
  exact double.roundWithAccuracy covers (quotient ▸ describes_quotient _ p₂) fine

end Rounding

end Binary

end DebugScopes.Decimal
