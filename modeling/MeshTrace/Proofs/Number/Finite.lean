import Mathlib
import MeshTrace.Proofs.Number.Bits
import MeshTrace.Proofs.Number.Figure

namespace MeshTrace

open Float.Model

namespace Binary64

/-- The exponent bits of a float. They are all set if the float is not finite. -/
def exponentBits (x : Float) : BitVec 11 :=
  @UnpackedFloat.unpackExponent Format.binary64 x.toModel.toBits.toBitVec

theorem toNat_exponentBits (x : Float) : (exponentBits x).toNat = x.toBits.toNat / 2 ^ 52 % 2 ^ 11 := by
  unfold exponentBits
  rw [UnpackedFloat.unpackExponent_def]
  simp [Nat.shiftRight_eq_div_pow, Float.toBits]

/-- A float is finite if its exponent bits are not all set. -/
theorem isFinite_iff_exponentBits (x : Float) : x.isFinite = true ↔ exponentBits x ≠ -1#11 := by
  show (UnpackedFloat.unpack Format.binary64 x.toModel.toBits.toBitVec).isFinite = true ↔ _
  unfold exponentBits UnpackedFloat.unpack
  simp only
  split
  · split <;> simp_all [UnpackedFloat.isFinite]
  · split
    · split <;> simp_all [UnpackedFloat.isFinite]
    · simp_all [UnpackedFloat.isFinite]

theorem isFinite_iff (x : Float) : x.isFinite = true ↔ x.toBits.toNat / 2 ^ 52 % 2 ^ 11 ≠ 2 ^ 11 - 1 := by
  rw [isFinite_iff_exponentBits, ← toNat_exponentBits, ne_eq, ne_eq, ← BitVec.toNat_inj]
  rfl

theorem isFinite_ofBits {bits : UInt64} (finite : bits.toNat / 2 ^ 52 % 2 ^ 11 ≠ 2 ^ 11 - 1) :
    (Float.ofBits bits).isFinite = true := by
  rw [isFinite_iff, toBits_ofBits finite]
  exact finite

theorem units_le {mantissa exponent top : Nat} (short : mantissa < 2 ^ 53) (low : exponent ≤ top) :
    units mantissa exponent ≤ units (2 ^ 53 - 1) top :=
  Nat.mul_le_mul (Nat.le_sub_one_of_lt short) (Nat.pow_le_pow_right (by decide) low)

/-- The largest float. -/
def largest : Nat := units (2 ^ 53 - 1) 971

/-- The largest float in units of the smallest. -/
theorem largest_mul_scale : largest * scale = units (2 ^ 53 - 1) 2045 := by decide +kernel

/-- A float is finite if it stands for a finite number, and then it is at most the largest one. -/
theorem isFinite_eq (x : Float) :
    match ofFloat x with
    | finite _ mantissa exponent => x.isFinite = true ∧ units mantissa exponent ≤ largest * scale
    | _ => x.isFinite = false := by
  have field : x.toBits.toNat / 2 ^ 52 % 2 ^ 11 < 2 ^ 11 := Nat.mod_lt _ (by decide)
  have fraction : x.toBits.toNat % 2 ^ 52 < 2 ^ 52 := Nat.mod_lt _ (by decide)
  have bits := isFinite_iff x
  rw [largest_mul_scale]
  simp only [ofFloat, ofBits, Nat.pow_eq]
  by_cases full : x.toBits.toNat / 2 ^ 52 % 2 ^ 11 = 2 ^ 11 - 1
  · have infinite : x.isFinite = false := Bool.eq_false_iff.mpr fun finite => bits.mp finite full
    rw [if_pos full]
    by_cases zero : x.toBits.toNat % 2 ^ 52 = 0
    · rw [if_pos zero]
      exact infinite
    · rw [if_neg zero]
      exact infinite
  · rw [if_neg full]
    by_cases subnormal : x.toBits.toNat / 2 ^ 52 % 2 ^ 11 = 0
    · rw [if_pos subnormal]
      exact ⟨bits.mpr full, units_le (by omega) (by omega)⟩
    · rw [if_neg subnormal]
      exact ⟨bits.mpr full, units_le (by omega) (by omega)⟩

theorem isFinite_neg (x : Float) : (-x).isFinite = x.isFinite := by
  have kind := isFinite_eq x
  have opposite := isFinite_eq (-x)
  rw [ofFloat_neg] at opposite
  generalize ofFloat x = value at kind opposite
  cases value with
  | nan => exact opposite.trans kind.symm
  | infinite negative => exact opposite.trans kind.symm
  | finite negative mantissa exponent => exact opposite.1.trans kind.1.symm

end Binary64

/-- A quotient is not rounded above a whole number that bounds it. -/
theorem roundHalfEven_le {num den k : Nat} (positive : 0 < den) (bound : num ≤ k * den) :
    roundHalfEven num den ≤ k := by
  have whole : num / den ≤ k := Nat.div_le_of_le_mul (by rwa [Nat.mul_comm])
  have up (rest : 0 < num % den) : num / den + 1 ≤ k := by
    have parts := Nat.div_add_mod' num den
    have strict : num / den * den < k * den := by omega
    exact Nat.lt_of_mul_lt_mul_right strict
  unfold roundHalfEven
  dsimp only
  split
  · exact whole
  · split
    · exact up (by omega)
    · split
      · exact whole
      · exact up (by omega)

namespace Binary64

/-- A rounded mantissa has one bit more at most. -/
theorem roundedMantissa_le {num den exponent : Nat} (positive : 0 < den) (width : num / den < 2 ^ (53 + exponent)) :
    roundHalfEven num (den * 2 ^ exponent) ≤ 2 ^ 53 := by
  refine roundHalfEven_le (Nat.mul_pos positive (Nat.pow_pos (by decide))) ?_
  calc num ≤ (num / den + 1) * den := Nat.le_of_lt (Nat.lt_mul_of_div_lt (Nat.lt_succ_self _) positive)
    _ ≤ 2 ^ (53 + exponent) * den := Nat.mul_le_mul_right den width
    _ = 2 ^ 53 * (den * 2 ^ exponent) := by rw [Nat.pow_add, Nat.mul_assoc, Nat.mul_comm den]

/-- A mantissa of fifty-three bits that is rounded carries at most once, and not at the largest exponent. -/
theorem carry_lt {num den top : Nat} (positive : 0 < den) (bound : num ≤ units (2 ^ 53 - 1) top * den) :
    ((num / den).log2 + 1 - 53) * 2 ^ 52 +
      roundHalfEven num (den * 2 ^ ((num / den).log2 + 1 - 53)) < (top + 2) * 2 ^ 52 := by
  have width : num / den < 2 ^ ((num / den).log2 + 1) := Nat.lt_log2_self
  have low : (num / den).log2 + 1 ≤ 53 + top := by
    rcases Nat.eq_zero_or_pos (num / den) with zero | nonzero
    · rw [zero, Nat.log2_zero]
      omega
    · refine (Nat.log2_lt (Nat.ne_of_gt nonzero)).mpr ?_
      calc num / den ≤ (2 ^ 53 - 1) * 2 ^ top := Nat.div_le_of_le_mul (by rwa [Nat.mul_comm])
        _ < 2 ^ 53 * 2 ^ top := Nat.mul_lt_mul_of_pos_right (by decide) (Nat.pow_pos (by decide))
        _ = 2 ^ (53 + top) := (Nat.pow_add 2 53 top).symm
  generalize exponentEq : (num / den).log2 + 1 - 53 = exponent
  have unit : 0 < den * 2 ^ exponent := Nat.mul_pos positive (Nat.pow_pos (by decide))
  rcases Nat.lt_or_eq_of_le (by omega : exponent ≤ top) with below | rfl
  · have rounded := roundedMantissa_le positive
      (width.trans_le (Nat.pow_le_pow_right (by decide) (by omega : _ ≤ 53 + exponent)))
    omega
  · have rounded : roundHalfEven num (den * 2 ^ exponent) ≤ 2 ^ 53 - 1 := by
      refine roundHalfEven_le unit (bound.trans_eq ?_)
      rw [units, Nat.pow_eq, Nat.mul_assoc, Nat.mul_comm den]
    omega

/-- A quotient that is at most the largest float has a nearest float. -/
theorem isFinite_nearest {num den : Nat} (positive : 0 < den) (bound : num ≤ largest * den) :
    (nearest num den).isFinite = true := by
  have top : num * scale ≤ units (2 ^ 53 - 1) 2045 * den := by
    rw [← largest_mul_scale, Nat.mul_right_comm]
    exact Nat.mul_le_mul_right scale bound
  have carry := carry_lt positive top
  have bits : nearestBits num den < infinityBits := (Nat.min_le_left _ _).trans_lt carry
  have room : nearestBits num den < 2 ^ 64 := Nat.lt_trans bits (by decide)
  refine isFinite_ofBits ?_
  rw [Nat.toUInt64_eq, UInt64.toNat_ofNat_of_lt' room]
  have field : nearestBits num den / 2 ^ 52 < 2 ^ 11 - 1 := Nat.div_lt_of_lt_mul (by rwa [Nat.mul_comm])
  omega

end Binary64

namespace Number

open Binary64

/-- The numeral of a number within the range of floats is not taken for an infinity. -/
theorem Numeral.top_le {n places : Nat} (bound : n ≤ largest * 10 ^ places) :
    -(places : Int) + ((Nat.toDigits 10 n).length : Nat) ≤ Numeral.highest := by
  -- The exponent has a name so that the power is not computed.
  obtain ⟨width, least, most, wide⟩ : ∃ width, 0 < width ∧ width ≤ 309 ∧ largest < 10 ^ width :=
    ⟨309, by decide, by decide, by decide +kernel⟩
  have length : (Nat.toDigits 10 n).length ≤ width + places := by
    refine (Nat.length_toDigits_le_iff (by decide) (by omega)).mpr ?_
    calc n ≤ largest * 10 ^ places := bound
      _ < 10 ^ width * 10 ^ places := Nat.mul_lt_mul_of_pos_right wide (Nat.pow_pos (by decide))
      _ = 10 ^ (width + places) := (Nat.pow_add 10 width places).symm
  simp only [Numeral.highest]
  omega

/-- A numeral is read as a finite float unless it is larger than all of them. -/
theorem Numeral.isFinite_toFloat {n places : Nat} (bound : n ≤ largest * 10 ^ places) :
    (Numeral.toFloat ⟨n, -(places : Int)⟩).isFinite = true := by
  have zero : (nearest 0 1).isFinite = true := isFinite_nearest (by decide) (Nat.zero_le _)
  simp only [Numeral.toFloat, if_neg (not_lt.mpr (Numeral.top_le bound))]
  split
  · exact zero
  · cases places with
    | zero => exact isFinite_nearest (by decide) (by simpa using bound)
    | succ places => exact isFinite_nearest (Nat.pow_pos (by decide)) bound

theorem roundedPlaces_le {mantissa exponent : Nat} (places : Nat) (bound : units mantissa exponent ≤ largest * scale) :
    roundHalfEven (units mantissa exponent * Nat.pow 10 places) scale ≤ largest * 10 ^ places := by
  refine roundHalfEven_le (by decide +kernel) ?_
  rw [Nat.mul_right_comm]
  exact Nat.mul_le_mul_right _ bound

/-- What is read of a float that was written is finite if the float is. -/
theorem isFinite_of_float?_fixedText {places : Nat} (positive : places ≠ 0) {x y : Float}
    (read : float? (fixedText places x) = some y) : y.isFinite = x.isFinite := by
  have kind := isFinite_eq x
  unfold fixedText at read
  generalize ofFloat x = value at kind read
  cases value with
  | nan =>
    obtain rfl := Option.some.inj read
    exact kind.symm
  | infinite negative =>
    cases negative with
    | true =>
      obtain rfl := Option.some.inj read
      exact kind.symm
    | false =>
      obtain rfl := Option.some.inj read
      exact kind.symm
  | finite negative mantissa exponent =>
    obtain ⟨finite, bound⟩ := kind
    have number := Numeral.isFinite_toFloat (roundedPlaces_le places bound)
    simp only [if_neg positive, List.append_assoc, float?_digits, Option.some.injEq] at read
    rw [finite, ← read]
    cases negative with
    | true => rw [if_pos rfl, isFinite_neg, number]
    | false => rw [if_neg Bool.false_ne_true, number]

end Number

end MeshTrace
