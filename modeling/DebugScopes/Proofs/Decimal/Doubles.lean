import DebugScopes.Proofs.Decimal.Rounding

/-!
# The bits of a double

A double is kept as 64 bits: its sign, eleven bits that say how large it is, and the mantissa
without its first bit. Packing and unpacking undo each other, and `Binary.ofFloat` takes the same
magnitude from the bits as unpacking does.

* `Binary.IsDouble.unpack_pack`: a double is unpacked as it was packed;
* `kind`: what a double is, and which magnitude is taken from its bits;
* `Binary.toFloat_toUInt64`: a whole number of at most 53 bits is a double.
-/

namespace DebugScopes.Decimal

open Float.Model Float.Model.UnpackedFloat

variable {v : Binary}

/-! ### Packing -/

theorem log2_eq_of_full {m : Nat} (full : 2 ^ 52 ≤ m) (short : m < 2 ^ 53) : m.log2 = 52 :=
  (Nat.log2_eq_iff (by omega)).2 ⟨full, short⟩

/-- A first bit in front of 52 bits. -/
theorem toNat_one_append (row : BitVec 52) : (1#1 ++ row).toNat = 2 ^ 52 + row.toNat := by
  have joined := Nat.two_pow_add_eq_or_of_lt row.isLt 1
  rw [Nat.mul_one] at joined
  rw [joined, BitVec.toNat_append, BitVec.toNat_ofNat, Nat.shiftLeft_eq]

namespace Binary

/-- A double with 53 bits has its exponent in a field of its own, and its first bit nowhere. -/
theorem IsDouble.pack_of_full (double : v.IsDouble) (s : Sign) (full : 2 ^ 52 ≤ v.mantissa) :
    UnpackedFloat.pack .binary64 (.finite s v.mantissa v.exponent double.positive) =
      packComponents .binary64 s (BitVec.ofNat 11 (v.exponent + 1075).toNat)
        (BitVec.ofNat 52 v.mantissa) := by
  have biased : (v.exponent + (Format.binary64.exponentBias : Nat) +
      (Format.binary64.mantissaBitsWithoutImplicit : Nat)).toNat = (v.exponent + 1075).toNat := by
    change (v.exponent + 1023 + 52).toNat = _
    omega
  have most := double.most
  have log := log2_eq_of_full full double.short
  unfold UnpackedFloat.pack
  dsimp only
  rw [biased, if_neg (by change ¬ 2048 ≤ _; omega), if_pos (by rw [log]; rfl)]

/-- A double with fewer bits has them all in one field. -/
theorem IsDouble.pack_of_short (double : v.IsDouble) (s : Sign) (short : v.mantissa < 2 ^ 52) :
    UnpackedFloat.pack .binary64 (.finite s v.mantissa v.exponent double.positive) =
      packComponents .binary64 s 0#11 (BitVec.ofNat 52 v.mantissa) := by
  have bottom := double.full.resolve_left (by omega)
  have log : v.mantissa.log2 < 52 := (Nat.log2_lt double.positive.ne').2 short
  unfold UnpackedFloat.pack
  dsimp only
  rw [bottom, if_neg (by decide), if_neg (by change ¬ _ = 53; omega)]

/-- Nothing of a double is lost in its bits. -/
theorem IsDouble.unpack_pack (double : v.IsDouble) (s : Sign) :
    (Float.Model.pack (.finite s v.mantissa v.exponent double.positive)).unpack =
      .finite s v.mantissa v.exponent double.positive := by
  change UnpackedFloat.unpack .binary64 (UnpackedFloat.pack .binary64 _) = _
  have least := double.least
  have most := double.most
  have positive := double.positive
  rcases Nat.lt_or_ge v.mantissa (2 ^ 52) with short | full
  · have bottom := double.full.resolve_left (by omega)
    have whole : (BitVec.ofNat 52 v.mantissa).toNat = v.mantissa := by
      rw [BitVec.toNat_ofNat, Nat.mod_eq_of_lt short]
    have some : BitVec.ofNat 52 v.mantissa ≠ 0#52 := fun none => by
      rw [none] at whole
      exact positive.ne whole
    rw [double.pack_of_short s short, UnpackedFloat.unpack]
    simp only [unpackExponent_packComponents, unpackMantissa_packComponents,
      unpackSign_packComponents, Sign.ofBitVec_toBitVec]
    rw [if_neg (by decide), if_pos trivial, dif_neg some]
    simp only [whole, bottom]
    rfl
  · have field : (BitVec.ofNat 11 (v.exponent + 1075).toNat).toNat = (v.exponent + 1075).toNat := by
      rw [BitVec.toNat_ofNat, Nat.mod_eq_of_lt (by omega)]
    rw [double.pack_of_full s full, UnpackedFloat.unpack]
    simp only [unpackExponent_packComponents, unpackMantissa_packComponents,
      unpackSign_packComponents, Sign.ofBitVec_toBitVec]
    have named : BitVec.ofNat 11 (v.exponent + 1075).toNat ≠ -1#11 := fun all => by
      rw [all] at field
      change 2047 = _ at field
      omega
    have bottom : BitVec.ofNat 11 (v.exponent + 1075).toNat ≠ 0#11 := fun none => by
      rw [none] at field
      change 0 = _ at field
      omega
    rw [if_neg named, if_neg bottom]
    congr 1
    · rw [toNat_one_append, BitVec.toNat_ofNat]
      have short := double.short
      omega
    · rw [field]
      change ((v.exponent + 1075).toNat : Int) - (1023 + 52) = _
      omega

end Binary

/-! ### Unpacking -/

section Bits

variable (bits : UInt64)

theorem toNat_unpackMantissa :
    (@unpackMantissa .binary64 bits.toBitVec).toNat = bits.toNat % 2 ^ 52 := by
  rw [unpackMantissa_def]
  simp

theorem toNat_unpackExponent :
    (@unpackExponent .binary64 bits.toBitVec).toNat = bits.toNat / 2 ^ 52 % 2 ^ 11 := by
  rw [unpackExponent_def]
  simp [Nat.shiftRight_eq_div_pow]

theorem toNat_unpackSign :
    (@unpackSign .binary64 bits.toBitVec).toNat = bits.toNat / 2 ^ 63 := by
  rw [unpackSign_def]
  have small := bits.toNat_lt
  simp [Nat.shiftRight_eq_div_pow]
  omega

end Bits

/-- The sign of a double is its first bit. -/
def signOf (x : Float) : Sign := if x.toBits.toNat < 2 ^ 63 then .positive else .negative

theorem ofBitVec_unpackSign (x : Float) :
    Sign.ofBitVec (@unpackSign .binary64 x.toBits.toBitVec) = signOf x := by
  have bit := toNat_unpackSign x.toBits
  have small := x.toBits.toNat_lt
  unfold Sign.ofBitVec signOf
  split_ifs with unset low low
  · rfl
  · rw [unset] at bit
    change 0 = _ at bit
    omega
  · exact absurd (BitVec.eq_of_toNat_eq (show _ = 0 by omega)) unset
  · rfl

/-- What a double is, and what its magnitude is taken to be. -/
inductive Kind (x : Float) : Prop where
  | undefined (is : x.toModel.unpack = .notANumber)
  | infinite (is : x.toModel.unpack = .infinity (signOf x))
  | zero (is : x.toModel.unpack = .zero (signOf x)) (none : (Binary.ofFloat x).mantissa = 0)
  | finite (double : (Binary.ofFloat x).IsDouble)
      (is : x.toModel.unpack = .finite (signOf x) (Binary.ofFloat x).mantissa
        (Binary.ofFloat x).exponent double.positive)

/-- Where the bits of the exponent are neither all set nor all unset, one more bit is meant. -/
theorem Binary.isDouble_full {fraction field : Nat} (small : fraction < 2 ^ 52)
    (some : field ≠ 0) (most : field < 2047) :
    IsDouble ⟨2 ^ 52 + fraction, (field : Int) - 1075, fraction = 0 && 1 < field⟩ := by
  constructor <;> simp <;> omega

/-- Where they are all unset, the magnitude is in the last place of the range. -/
theorem Binary.isDouble_short {fraction : Nat} (small : fraction < 2 ^ 52)
    (some : fraction ≠ 0) : IsDouble ⟨fraction, -1074, false⟩ := by
  constructor <;> simp <;> omega

theorem kind (x : Float) : Kind x := by
  have mantissa := toNat_unpackMantissa x.toBits
  have exponent := toNat_unpackExponent x.toBits
  have small := Nat.mod_lt x.toBits.toNat (Nat.two_pow_pos 52)
  have narrow := Nat.mod_lt (x.toBits.toNat / 2 ^ 52) (Nat.two_pow_pos 11)
  have unpacked : x.toModel.unpack = UnpackedFloat.unpack .binary64 x.toBits.toBitVec := rfl
  have apart : Binary.ofFloat x =
      if x.toBits.toNat / 2 ^ 52 % 2 ^ 11 = 0 then ⟨x.toBits.toNat % 2 ^ 52, -1074, false⟩
      else ⟨2 ^ 52 + x.toBits.toNat % 2 ^ 52, (x.toBits.toNat / 2 ^ 52 % 2 ^ 11 : Nat) - 1075,
        x.toBits.toNat % 2 ^ 52 = 0 && 1 < x.toBits.toNat / 2 ^ 52 % 2 ^ 11⟩ := rfl
  simp only [UnpackedFloat.unpack, ofBitVec_unpackSign, toNat_one_append, mantissa, exponent]
    at unpacked
  generalize x.toBits.toNat % 2 ^ 52 = fraction at *
  generalize x.toBits.toNat / 2 ^ 52 % 2 ^ 11 = field at *
  split_ifs at unpacked with full none bottom none
  · exact .infinite unpacked
  · exact .undefined unpacked
  · refine .zero unpacked ?_
    have zero : field = 0 := exponent.symm.trans (congrArg BitVec.toNat bottom)
    rw [apart, if_pos zero]
    exact mantissa.symm.trans (congrArg BitVec.toNat none)
  · have double : Binary.IsDouble ⟨fraction, -1074, false⟩ :=
      Binary.isDouble_short small fun zero => none (BitVec.eq_of_toNat_eq (mantissa.trans zero))
    have zero : field = 0 := exponent.symm.trans (congrArg BitVec.toNat bottom)
    rw [if_pos zero] at apart
    refine .finite (apart ▸ double) (unpacked.trans ?_)
    simp only [apart, zero]
    rfl
  · have some : field ≠ 0 := fun zero => bottom (BitVec.eq_of_toNat_eq (exponent.trans zero))
    have most : field ≠ 2047 := fun ones => full (BitVec.eq_of_toNat_eq (exponent.trans ones))
    have double := Binary.isDouble_full small some (by omega)
    rw [if_neg some] at apart
    refine .finite (apart ▸ double) (unpacked.trans ?_)
    simp only [apart]
    rfl

/-- What is left of a double that is finite. -/
theorem unpack_of_isFinite {x : Float} (finite : x.isFinite)
    (some : (Binary.ofFloat x).mantissa ≠ 0) :
    ∃ double : (Binary.ofFloat x).IsDouble,
      x.toModel.unpack = .finite (signOf x) (Binary.ofFloat x).mantissa
        (Binary.ofFloat x).exponent double.positive := by
  have status : x.toModel.unpack.isFinite = true := finite
  cases kind x with
  | undefined is => exact absurd status (by rw [is]; decide)
  | infinite is => exact absurd status (by rw [is]; exact Bool.false_ne_true)
  | zero is none => exact absurd none some
  | finite double is => exact ⟨double, is⟩

/-- A double is known by what its bits say. -/
theorem eq_ofModel_pack (x : Float) : x = .ofModel (.pack x.toModel.unpack) :=
  (Float.ofBits_toBits x).symm

namespace Binary

/-- The double with a sign and this magnitude. -/
def IsDouble.toFloat {v : Binary} (double : v.IsDouble) (s : Sign) : Float :=
  .ofModel (.pack (.finite s v.mantissa v.exponent double.positive))

theorem IsDouble.unpack_toFloat {v : Binary} (double : v.IsDouble) (s : Sign) :
    (double.toFloat s).toModel.unpack = .finite s v.mantissa v.exponent double.positive :=
  double.unpack_pack s

theorem IsDouble.neg_toFloat {v : Binary} (double : v.IsDouble) (s : Sign) :
    -(double.toFloat s) = double.toFloat (-s) := by
  change Float.ofModel (.pack (double.toFloat s).toModel.unpack.neg) = _
  rw [double.unpack_toFloat]
  rfl

/-! ### Whole numbers that are doubles -/

/-- A whole number with its bits moved so that there are 53 of them. -/
def ofNat (n : Nat) : Binary :=
  ⟨n * 2 ^ 52 / 2 ^ n.log2, n.log2 - 52, n * 2 ^ 52 / 2 ^ n.log2 = 2 ^ 52⟩

variable {n : Nat}

theorem isDouble_ofNat (positive : 0 < n) (small : n.log2 ≤ 1000) : (ofNat n).IsDouble := by
  have some : 0 < 2 ^ n.log2 := Nat.two_pow_pos _
  have least : 2 ^ 52 ≤ n * 2 ^ 52 / 2 ^ n.log2 := by
    rw [Nat.le_div_iff_mul_le some, Nat.mul_comm]
    exact Nat.mul_le_mul_right _ (Nat.log2_self_le positive.ne')
  have most : n * 2 ^ 52 / 2 ^ n.log2 < 2 ^ 53 := by
    rw [Nat.div_lt_iff_lt_mul some]
    calc n * 2 ^ 52 < 2 ^ (n.log2 + 1) * 2 ^ 52 :=
          Nat.mul_lt_mul_of_pos_right Nat.lt_log2_self (by decide)
      _ = 2 ^ 53 * 2 ^ n.log2 := by ring
  constructor
  · exact Nat.lt_of_lt_of_le (by decide) least
  · exact most
  · change -1074 ≤ (n.log2 : Int) - 52
    omega
  · change (n.log2 : Int) - 52 ≤ 971
    omega
  · exact .inl least
  · change decide _ = true ↔ _ ∧ -1074 < (n.log2 : Int) - 52
    rw [decide_eq_true_iff]
    exact ⟨fun full => ⟨full, by omega⟩, And.left⟩

/-- Nothing is lost if the bits that leave are not set. -/
theorem number_ofNat (exact : 2 ^ n.log2 ∣ n * 2 ^ 52) : (ofNat n).number = n := by
  have cleared : ((n * 2 ^ 52 / 2 ^ n.log2 : Nat) : ℚ) = n * 2 ^ 52 / 2 ^ n.log2 := by
    rw [Nat.cast_div exact (by positivity)]
    push_cast
    rfl
  change ((n * 2 ^ 52 / 2 ^ n.log2 : Nat) : ℚ) * 2 ^ ((n.log2 : Int) - 52) = n
  rw [cleared, zpow_sub₀ two_ne_zero, zpow_natCast]
  field_simp

/-- A double covers its own magnitude. -/
theorem covers_number (v : Binary) : v.Covers (v.number / 2 ^ v.exponent) := by
  rw [number, mul_div_cancel_right₀ _ (zpow_ne_zero _ two_ne_zero), Covers]
  split_ifs <;> constructor <;> linarith

/-- A whole number of at most 53 bits is a double. -/
theorem toFloat_toUInt64 (positive : 0 < n) (small : n < 2 ^ 53) :
    ∃ double : (ofNat n).IsDouble, n.toUInt64.toFloat = double.toFloat .positive := by
  have log : n.log2 < 53 := (Nat.log2_lt positive.ne').2 small
  have double := isDouble_ofNat positive (by omega)
  refine ⟨double, ?_⟩
  have whole : n.toUInt64.toNat = n := by
    rw [Nat.toUInt64, UInt64.toNat_ofNat', Nat.mod_eq_of_lt (by omega)]
  have rounded : UnpackedFloat.ofNat .binary64 n = .round .binary64 .positive n 0 := by
    unfold UnpackedFloat.ofNat UnpackedFloat.ofInt UnpackedFloat.normalize
    rw [compare_gt_iff_gt.2 (by omega)]
    rfl
  change Float.ofModel (.pack (.ofNat .binary64 n.toUInt64.toNat)) = _
  rw [whole, rounded]
  obtain ⟨k, gap⟩ := Nat.le.dest (Nat.lt_succ_iff.1 log)
  have target : (0 - Format.binary64.targetExponent (totalExponent n 0)).toNat = k := by
    rw [targetExponent_eq]
    omega
  have covers : (ofNat n).Covers (n / 2 ^ (ofNat n).exponent) := by
    have own := covers_number (ofNat n)
    rwa [number_ofNat (Dvd.dvd.mul_left (Nat.pow_dvd_pow 2 (by omega)) n)] at own
  have bits : 2 ^ 52 ≤ n <<< k :=
    calc 2 ^ 52 = 2 ^ n.log2 * 2 ^ k := by rw [← pow_add, gap]
      _ ≤ n * 2 ^ k := Nat.mul_le_mul_right _ (Nat.log2_self_le positive.ne')
      _ = n <<< k := (Nat.shiftLeft_eq ..).symm
  have told : Describes (.ofMantissaAndAccuracy (n <<< k) .exact) (n / 2 ^ (0 - k : Int)) := by
    change (n / 2 ^ (0 - k : Int) : ℚ) = (n <<< k : Nat)
    rw [zero_sub, zpow_neg, div_inv_eq_mul, zpow_natCast, Nat.shiftLeft_eq]
    push_cast
    rfl
  have full : 52 ≤ (n <<< k).log2 := (Nat.le_log2 (by omega)).2 bits
  unfold UnpackedFloat.round decreaseExponent
  dsimp only
  rw [target, double.roundWithAccuracy covers told (by omega)]
  rfl

end Binary

end DebugScopes.Decimal
