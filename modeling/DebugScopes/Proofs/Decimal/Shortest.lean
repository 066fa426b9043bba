import DebugScopes.Proofs.Decimal.Rounding
import DebugScopes.Proofs.Text.Numerals

/-!
# The fewest digits that read back

The digits of a double are searched for on finer and finer grids of decimals, and taken from the
first one that has a decimal which the double covers. The search succeeds: the grid of seventeen
digits is finer than the doubles are, so that one of the two neighbours of the value is covered.

* `Binary.readsBack_iff`: the test of the search is whether the double covers a decimal;
* `Binary.IsDouble.exists_search`: the search finds one;
* `Binary.IsDouble.shortest`: the digits that are written are covered by the double.
-/

namespace DebugScopes.Decimal

theorem zpow_eq_div (b : ℚ) (e : Int) :
    b ^ e = b ^ raised e / b ^ lowered e := by
  unfold raised lowered
  rcases le_total 0 e with natural | negative
  · rw [Int.toNat_eq_zero.2 (by omega : -e ≤ 0), pow_zero, div_one, ← zpow_natCast,
      Int.toNat_of_nonneg natural]
  · rw [Int.toNat_eq_zero.2 negative, pow_zero, one_div, ← zpow_natCast,
      Int.toNat_of_nonneg (by omega), zpow_neg, inv_inv]

namespace Binary

variable {v : Binary} {place : Int} {count : Nat}

/-- Whether a decimal reads back is a question about its value. -/
theorem readsBack_iff (positive : 0 < v.mantissa) :
    v.readsBack count place = true ↔ v.Covers (count * 10 ^ place / 2 ^ v.exponent) := by
  have ten := zpow_eq_div 10 place
  have two := zpow_eq_div 2 v.exponent
  unfold readsBack Covers
  dsimp only [Nat.pow_eq]
  generalize tested : 4 * count * 10 ^ raised place * 2 ^ lowered v.exponent = t
  generalize stepped : 2 ^ raised v.exponent * 10 ^ lowered place = u
  have some : (0 : ℚ) < u := by
    rw [← stepped]
    positivity
  have scaled : (t : ℚ) = 4 * (count * 10 ^ place / 2 ^ v.exponent) * u := by
    rw [← tested, ← stepped, ten, two]
    push_cast
    field_simp
  generalize (count * 10 ^ place / 2 ^ v.exponent : ℚ) = x at *
  have margin (a : Nat) (small : a ≤ 4 * v.mantissa) :
      (((4 * v.mantissa - a) * u : Nat) : ℚ) = (4 * v.mantissa - a) * u := by
    push_cast [Nat.cast_sub small]
    rfl
  have low (a : Nat) (small : a ≤ 4 * v.mantissa) :
      ((4 * v.mantissa - a) * u ≤ t ↔ (v.mantissa - a / 4 : ℚ) ≤ x) ∧
      ((4 * v.mantissa - a) * u < t ↔ (v.mantissa - a / 4 : ℚ) < x) := by
    rw [← Nat.cast_le (α := ℚ), ← Nat.cast_lt (α := ℚ), margin a small, scaled,
      mul_le_mul_iff_left₀ some, mul_lt_mul_iff_left₀ some]
    constructor <;> constructor <;> intro <;> linarith
  have high : (t ≤ (4 * v.mantissa + 2) * u ↔ x ≤ (v.mantissa + 1 / 2 : ℚ)) ∧
      (t < (4 * v.mantissa + 2) * u ↔ x < (v.mantissa + 1 / 2 : ℚ)) := by
    rw [← Nat.cast_le (α := ℚ), ← Nat.cast_lt (α := ℚ), scaled]
    push_cast
    rw [mul_le_mul_iff_left₀ some, mul_lt_mul_iff_left₀ some]
    constructor <;> constructor <;> intro <;> linarith
  have quarter := low 1 (by omega)
  have half := low 2 (by omega)
  push_cast at quarter half
  have two_quarters : (2 / 4 : ℚ) = 1 / 2 := by norm_num
  rw [two_quarters] at half
  split_ifs <;> simp only [Bool.and_eq_true, decide_eq_true_eq, quarter, half, high]

/-! ### The finest grid -/

theorem number_eq_quotient : v.number = (v.quotient.1 : ℚ) / v.quotient.2 := by
  unfold number quotient
  dsimp only [Nat.pow_eq]
  rw [zpow_eq_div 2 v.exponent]
  push_cast
  rw [mul_div_assoc]

theorem quotient_snd_pos : 0 < v.quotient.2 := Nat.two_pow_pos _

theorem quotient_fst_pos (positive : 0 < v.mantissa) : 0 < v.quotient.1 :=
  Nat.mul_pos positive (Nat.two_pow_pos _)

/-- The first digit of a magnitude does not stand behind the place that was found for it. -/
theorem pow_places_le (positive : 0 < v.mantissa) : (10 : ℚ) ^ (v.places - 1) ≤ v.number := by
  have top := quotient_fst_pos positive
  have bottom := quotient_snd_pos (v := v)
  rw [number_eq_quotient]
  unfold places
  dsimp only [Nat.pow_eq]
  generalize v.quotient.1 = n at *
  generalize v.quotient.2 = d at *
  have some : (0 : ℚ) < d := by exact_mod_cast bottom
  rw [le_div_iff₀ some]
  split_ifs with large exact
  · have digits := Numeral.pow_length_le (Nat.div_pos large bottom)
    have rows : 0 < (Nat.toDigits 10 (n / d)).length := List.length_pos_iff.2 Nat.toDigits_ne_nil
    have fits := (Nat.le_div_iff_mul_le bottom).1 digits
    rw [← Nat.cast_pred rows, zpow_natCast]
    exact_mod_cast fits
  · have rows : 0 < (Nat.toDigits 10 (d / n)).length := List.length_pos_iff.2 Nat.toDigits_ne_nil
    generalize (Nat.toDigits 10 (d / n)).length = l at *
    rw [exact, show (2 - l - 1 : Int) = -(l - 1 : Nat) by omega, zpow_neg, zpow_natCast]
    push_cast
    rw [mul_comm (n : ℚ), inv_mul_cancel_left₀ (by positivity)]
  · have fits := (Nat.div_lt_iff_lt_mul top).1 (Numeral.lt_pow_length (d / n))
    generalize (Nat.toDigits 10 (d / n)).length = l at *
    rw [show (1 - l - 1 : Int) = -(l : Nat) by omega, zpow_neg, zpow_natCast,
      inv_mul_le_iff₀ (by positivity)]
    exact_mod_cast fits.le

/-- The grid points around a magnitude. -/
theorem steps_bounds (v : Binary) (place : Int) :
    v.steps place ≤ v.number / 10 ^ place ∧ v.number / 10 ^ place < v.steps place + 1 := by
  have bottom := quotient_snd_pos (v := v)
  rw [number_eq_quotient, zpow_eq_div 10 place]
  unfold steps
  dsimp only [Nat.pow_eq]
  generalize v.quotient.1 = n
  generalize v.quotient.2 = d at *
  have positive : 0 < d * 10 ^ raised place := by positivity
  have whole : (n / d / (10 ^ raised place / 10 ^ lowered place) : ℚ) =
      (n * 10 ^ lowered place : Nat) / (d * 10 ^ raised place : Nat) := by
    push_cast
    field_simp
  rw [whole]
  generalize n * 10 ^ lowered place = a
  generalize d * 10 ^ raised place = b at *
  have some : (0 : ℚ) < b := by exact_mod_cast positive
  constructor
  · rw [le_div_iff₀ some]
    exact_mod_cast Nat.div_mul_le_self a b
  · rw [div_lt_iff₀ some]
    rw [mul_comm]
    exact_mod_cast Nat.lt_mul_div_succ a positive

theorem covers_above {x : ℚ} (above : v.mantissa ≤ x) (near : x < v.mantissa + 1 / 2) :
    v.Covers x := by
  unfold Covers
  split_ifs <;> constructor <;> linarith

theorem covers_below {x : ℚ} (loose : v.tight = false) (near : v.mantissa - 1 / 2 < x)
    (below : x ≤ v.mantissa) : v.Covers x := by
  unfold Covers
  rw [loose, if_neg Bool.false_ne_true]
  split_ifs <;> constructor <;> linarith

/-- On a grid of seventeen digits one of the points around a double reads back: the grid is finer
than the doubles are, and twice as fine at a power of two. -/
theorem IsDouble.readsBack_finest (double : v.IsDouble) :
    v.readsBack (v.steps (v.places - 17)) (v.places - 17) = true ∨
      v.readsBack (v.steps (v.places - 17) + 1) (v.places - 17) = true := by
  have positive := double.positive
  obtain ⟨low, high⟩ := v.steps_bounds (v.places - 17)
  have first := pow_places_le positive
  rw [readsBack_iff positive, readsBack_iff positive]
  generalize v.steps (v.places - 17) = s at *
  have unit : (0 : ℚ) < 2 ^ v.exponent := by positivity
  have grid : (0 : ℚ) < 10 ^ (v.places - 17) := by positivity
  have fine : (10 : ℚ) ^ (v.places - 17) * 10 ^ 16 ≤ v.mantissa * 2 ^ v.exponent := by
    rw [← zpow_natCast, ← zpow_add₀ (by decide), show v.places - 17 + (16 : Nat) = v.places - 1 by
      omega]
    exact first
  generalize (10 : ℚ) ^ (v.places - 17) = h at *
  rw [number, le_div_iff₀ grid] at low
  rw [number, div_lt_iff₀ grid] at high
  rw [← div_le_iff₀ unit, mul_div_right_comm] at fine
  rw [← div_le_iff₀ unit, mul_div_assoc] at low
  rw [← lt_div_iff₀ unit, mul_div_assoc] at high
  push_cast
  rw [mul_div_assoc, mul_div_assoc]
  generalize h / 2 ^ v.exponent = u at *
  have short : (v.mantissa : ℚ) < 2 ^ 53 := by exact_mod_cast double.short
  -- If the neighbour above lies too far off, the one below does not, since a step `u` is too short.
  by_cases near : (s + 1) * u < v.mantissa + 1 / 2
  · exact .inr (covers_above high.le near)
  · refine .inl (covers_below ?_ ?_ low)
    · rw [← Bool.not_eq_true]
      intro tight
      have full : (v.mantissa : ℚ) = 2 ^ 52 := by exact_mod_cast (double.tight.1 tight).1
      apply near
      linarith
    · linarith

/-! ### The search -/

theorem readsBack_of_onGrid (found : v.onGrid place = some count) :
    v.readsBack count place = true := by
  unfold onGrid at found
  dsimp only at found
  split at found
  · contradiction
  · next low _ => cases found; exact low
  · next _ high => cases found; exact high
  · next low high =>
    split at found <;> cases found
    · exact low
    · exact high
    · split_ifs
      · exact low
      · exact high

theorem isSome_onGrid
    (some : v.readsBack (v.steps place) place = true ∨
      v.readsBack (v.steps place + 1) place = true) :
    (v.onGrid place).isSome := by
  unfold onGrid
  dsimp only
  split
  · next low high =>
    rw [low, high] at some
    simp at some
  · rfl
  · rfl
  · split <;> rfl

theorem readsBack_of_search {tried left : Nat} (found : v.search tried left = some (count, place)) :
    v.readsBack count place = true := by
  induction left generalizing tried with
  | zero => contradiction
  | succ left ih =>
    unfold search at found
    dsimp only at found
    split at found
    · next here =>
      cases found
      exact readsBack_of_onGrid here
    · exact ih found

/-- The search ends where some grid that it tries has a point that reads back. -/
theorem isSome_search {tried left more : Nat} (inside : more < left)
    (some : (v.onGrid (v.places - (tried + more : Nat))).isSome) :
    (v.search tried left).isSome := by
  induction left generalizing tried more with
  | zero => contradiction
  | succ left ih =>
    unfold search
    dsimp only
    split
    · rfl
    · next here =>
      cases more with
      | zero =>
        rw [Nat.add_zero, here] at some
        contradiction
      | succ more =>
        rw [show tried + (more + 1) = tried + 1 + more by omega] at some
        exact ih (Nat.lt_of_succ_lt_succ inside) some

theorem IsDouble.exists_search (double : v.IsDouble) :
    ∃ count place, v.search 1 17 = some (count, place) :=
  let ⟨⟨count, place⟩, found⟩ := Option.isSome_iff_exists.1
    (isSome_search (show 16 < 17 by decide) (isSome_onGrid double.readsBack_finest))
  ⟨count, place, found⟩

/-! ### The digits -/

/-- What is taken off the end of a row of digits is zeros; some digit is kept. -/
theorem trimZeros_append {row : List Char} (some : ∃ c ∈ row, c ≠ '0') :
    ∃ zeros, row = trimZeros row ++ List.replicate zeros '0' := by
  have parts : row = (row.reverse.dropWhile (· == '0')).reverse ++
      (row.reverse.takeWhile (· == '0')).reverse := by
    rw [← List.reverse_append, List.takeWhile_append_dropWhile, List.reverse_reverse]
  have zeros : ∀ c ∈ (row.reverse.takeWhile (· == '0')).reverse, c = '0' := fun c among =>
    beq_iff_eq.1 (List.mem_takeWhile_imp (p := (· == '0')) (List.mem_reverse.1 among))
  refine ⟨(row.reverse.takeWhile (· == '0')).reverse.length, ?_⟩
  rw [← List.eq_replicate_of_mem zeros]
  unfold trimZeros
  split
  · next none =>
    rw [none, List.nil_append] at parts
    obtain ⟨c, among, other⟩ := some
    rw [parts] at among
    exact absurd (zeros c among) other
  · exact parts

theorem trimZeros_ne_nil (row : List Char) : trimZeros row ≠ [] := by
  unfold trimZeros
  split
  · exact List.cons_ne_nil _ _
  · assumption

/-- Not a zero that is made of nothing else. -/
theorem exists_ne_zero (positive : 0 < count) : ∃ c ∈ Nat.toDigits 10 count, c ≠ '0' := by
  obtain ⟨front, more, row⟩ :=
    List.exists_cons_of_ne_nil (Nat.toDigits_ne_nil (n := count) (b := 10))
  refine ⟨front, by simp [row], ?_⟩
  rintro rfl
  exact Numeral.head?_toDigits positive (by rw [row]; rfl)

theorem Covers.positive {x : ℚ} (covers : v.Covers x) (positive : 0 < v.mantissa) : 0 < x := by
  have least : (1 : ℚ) ≤ v.mantissa := by exact_mod_cast positive
  linarith [covers.bounds.1]

/-- The digits that a double is written with, with the point where it is, are covered by it. -/
theorem IsDouble.shortest (double : v.IsDouble) :
    ∃ row : List Char, row ≠ [] ∧ Reader.AllDigits row ∧ v.shortest.digits = String.ofList row ∧
      v.Covers (Nat.ofDigitChars 10 row 0 * 10 ^ (v.shortest.point - row.length) /
        2 ^ v.exponent) := by
  obtain ⟨count, place, found⟩ := double.exists_search
  have covers := (readsBack_iff double.positive).1 (readsBack_of_search found)
  have positive : 0 < count := by
    by_contra none
    rw [Nat.eq_zero_of_not_pos none] at covers
    simpa using covers.positive double.positive
  have written : v.shortest = ⟨String.ofList (trimZeros (Nat.toDigits 10 count)),
      (Nat.toDigits 10 count).length + place⟩ := by
    rw [Binary.shortest, if_neg double.positive.ne', found]
  obtain ⟨zeros, parts⟩ := trimZeros_append (exists_ne_zero positive)
  have digits : Reader.AllDigits (trimZeros (Nat.toDigits 10 count)) := by
    intro c among
    refine Reader.allDigits_toDigits count c ?_
    rw [parts]
    exact List.mem_append_left _ among
  refine ⟨trimZeros (Nat.toDigits 10 count), trimZeros_ne_nil _, digits, by rw [written], ?_⟩
  have value := Nat.ofDigitChars_ten_toDigits (n := count)
  rw [written]
  generalize trimZeros (Nat.toDigits 10 count) = row at *
  rw [parts, Reader.ofDigitChars_joined, Nat.ofDigitChars_replicate_zero, List.length_replicate]
    at value
  have point : ((Nat.toDigits 10 count).length : Int) + place - row.length = zeros + place := by
    rw [parts, List.length_append, List.length_replicate]
    omega
  rw [← value] at covers
  dsimp only
  rw [point, zpow_add₀ (by decide), zpow_natCast, ← mul_assoc]
  exact_mod_cast covers

end Binary

end DebugScopes.Decimal
