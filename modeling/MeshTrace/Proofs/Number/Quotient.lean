import Mathlib
import MeshTrace.Number.Integer
import MeshTrace.Scalar

namespace MeshTrace.Binary64

open Float.Model UnpackedFloat

theorem mantissa_shiftRight (em : ExtendedMantissa) (k : Nat) : (em >>> k).mantissa = em.mantissa / 2 ^ k := by
  induction k with
  | zero => simp [HShiftRight.hShiftRight, Nat.repeat]
  | succ k ih =>
    show (em >>> k).mantissa / 2 = _
    rw [ih, Nat.div_div_eq_div_mul, Nat.pow_succ]

theorem mantissa_ofMantissaAndAccuracy (mantissa : Nat) (accuracy : Accuracy) :
    (ExtendedMantissa.ofMantissaAndAccuracy mantissa accuracy).mantissa = mantissa := by
  rcases accuracy with _ | _ | _ | _ <;> rfl

/-- Rounding keeps a mantissa or takes the next one. -/
theorem roundedMantissa_bounds (em : ExtendedMantissa) :
    em.mantissa ≤ em.roundedMantissa ∧ em.roundedMantissa ≤ em.mantissa + 1 := by
  obtain ⟨mantissa, roundBit, stickyBit⟩ := em
  cases roundBit <;> cases stickyBit <;>
    simp only [ExtendedMantissa.roundedMantissa, ExtendedMantissa.accuracy, Accuracy.roundToNearestEven] <;> omega

theorem log2_div_two_pow (n k : Nat) : (n / 2 ^ k).log2 = n.log2 - k := by
  rw [Nat.log2_eq_log_two, Nat.log_div_base_pow, Nat.log2_eq_log_two]

theorem log2_shiftLeft {n : Nat} (positive : 0 < n) (k : Nat) : (n <<< k).log2 = n.log2 + k := by
  induction k with
  | zero => rfl
  | succ k ih =>
    rw [Nat.shiftLeft_succ, Nat.log2_two_mul (Nat.shiftLeft_pos_iff.mpr positive).ne', ih]
    rfl

/-- The exponent that leaves fifty-three bits of a mantissa, unless the number is too small for so many. -/
theorem targetExponent_of_wide {mantissa : Nat} {exponent : Int}
    (large : -1074 ≤ exponent + mantissa.log2 - 52) :
    Format.binary64.targetExponent (totalExponent mantissa exponent) = exponent + mantissa.log2 - 52 := by
  simp only [Format.targetExponent, totalExponent, Format.mantissaBits, Format.minExponent]
  norm_num
  omega

/-- A mantissa of enough bits is shifted to 53, and its exponent by as many. -/
theorem shift_of_wide (mantissa : Nat) (exponent : Int) (accuracy : Accuracy) (wide : 52 ≤ mantissa.log2)
    (large : -1074 ≤ exponent + mantissa.log2 - 52) :
    let shifted := shiftToTargetExponent Format.binary64 mantissa exponent accuracy
    shifted.1.mantissa = mantissa / 2 ^ (mantissa.log2 - 52) ∧ shifted.2 = exponent + mantissa.log2 - 52 := by
  have amount : (exponent + mantissa.log2 - 52 - exponent).toNat = mantissa.log2 - 52 := by omega
  simp only [shiftToTargetExponent, shiftToExponent, targetExponent_of_wide large, amount, mantissa_shiftRight,
    mantissa_ofMantissaAndAccuracy, true_and]
  omega

/-- A positive number with all fifty-three bits, and with an exponent in a range. -/
def Ranged (low high : Int) (u : UnpackedFloat) : Prop :=
  ∃ mantissa exponent positive, u = .finite .positive mantissa exponent positive ∧ mantissa.log2 = 52 ∧
    low ≤ exponent ∧ exponent ≤ high

/-- Where enough bits are there to choose from, rounding gives a number with all its bits. -/
theorem ranged_round (mantissa : Nat) (exponent : Int) (accuracy : Accuracy) (wide : 52 ≤ mantissa.log2)
    (large : -1074 ≤ exponent + mantissa.log2 - 52) :
    Ranged (exponent + mantissa.log2 - 52) (exponent + mantissa.log2 - 51)
      (roundWithAccuracy Format.binary64 .positive mantissa exponent accuracy) := by
  obtain ⟨cut, raised⟩ := shift_of_wide mantissa exponent accuracy wide large
  rcases first : shiftToTargetExponent Format.binary64 mantissa exponent accuracy with ⟨em, e⟩
  rw [first] at cut raised
  have bits : em.mantissa.log2 = 52 := by
    rw [cut, log2_div_two_pow]
    omega
  obtain ⟨least, most⟩ := roundedMantissa_bounds em
  have nonzero : em.mantissa ≠ 0 := fun zero => by simp [zero] at bits
  obtain ⟨low, high⟩ := (Nat.log2_eq_iff nonzero).mp bits
  have atLeast : 52 ≤ em.roundedMantissa.log2 := (Nat.le_log2 (by omega)).mpr (low.trans least)
  have atMost : em.roundedMantissa.log2 < 54 := (Nat.log2_lt (by omega)).mpr (by omega)
  -- Rounding adds one bit at most, and the second shift takes it off again.
  obtain ⟨cut', raised'⟩ := shift_of_wide _ e .exact atLeast (by omega)
  rcases second : shiftToTargetExponent Format.binary64 em.roundedMantissa e .exact with ⟨em', e'⟩
  rw [second] at cut' raised'
  have bits' : em'.mantissa.log2 = 52 := by
    rw [cut', log2_div_two_pow]
    omega
  have nonzero' : em'.mantissa ≠ 0 := fun zero => by simp [zero] at bits'
  refine ⟨em'.mantissa, e', Nat.pos_of_ne_zero nonzero', ?_, bits', by omega, by omega⟩
  simp only [roundWithAccuracy, first, second, dif_neg nonzero']

/-- A number with all its bits is kept as it is unless its exponent is too large. -/
theorem unpack_pack_of_ranged {low high : Int} {u : UnpackedFloat} (ranged : Ranged low high u) (small : -1074 ≤ low)
    (large : high ≤ 971) : UnpackedFloat.unpack Format.binary64 (UnpackedFloat.pack Format.binary64 u) = u := by
  obtain ⟨mantissa, exponent, positive, rfl, bits, above, below⟩ := ranged
  obtain ⟨least, most⟩ := (Nat.log2_eq_iff (Nat.ne_of_gt positive)).mp bits
  obtain ⟨biased, biasedEq⟩ : ∃ biased : Nat, exponent = biased - 1075 := ⟨(exponent + 1075).toNat, by omega⟩
  have field : (exponent + Format.binary64.exponentBias + Format.binary64.mantissaBitsWithoutImplicit).toNat = biased := by
    simp only [Format.exponentBias]
    norm_num
    omega
  have exponentBits : (BitVec.ofNat 11 biased).toNat = biased := by
    rw [BitVec.toNat_ofNat]
    omega
  have mantissaBits : (1#1 ++ BitVec.ofNat 52 mantissa).toNat = mantissa := by
    rw [BitVec.toNat_append, ← Nat.shiftLeft_add_eq_or_of_lt (BitVec.isLt _), BitVec.toNat_ofNat, Nat.shiftLeft_eq,
      BitVec.toNat_ofNat]
    omega
  have notFull : BitVec.ofNat 11 biased ≠ -1#11 := by
    intro full
    have := congrArg BitVec.toNat full
    rw [exponentBits] at this
    simp at this
    omega
  have notEmpty : BitVec.ofNat 11 biased ≠ 0#11 := by
    intro empty
    have := congrArg BitVec.toNat empty
    rw [exponentBits] at this
    simp at this
    omega
  have packed : UnpackedFloat.pack Format.binary64 (.finite .positive mantissa exponent positive) =
      packComponents Format.binary64 .positive (BitVec.ofNat 11 biased) (BitVec.ofNat 52 mantissa) := by
    simp only [UnpackedFloat.pack, field, bits]
    rw [if_neg (by norm_num; omega), if_pos (by decide)]
  rw [packed, UnpackedFloat.unpack]
  simp only [unpackExponent_packComponents, unpackMantissa_packComponents, unpackSign_packComponents,
    Sign.ofBitVec_toBitVec, exponentBits, mantissaBits, if_neg notFull, if_neg notEmpty]
  have unbiased : (biased : Int) - (Format.binary64.exponentBias + (52 : Nat)) = exponent := by
    simp only [Format.exponentBias]
    norm_num
    omega
  simp only [unbiased]

/-- A product of numbers with all their bits has enough bits to choose from, and so has their quotient. -/
theorem ranged_mul {low high low' high' : Int} {u v : UnpackedFloat} (left : Ranged low high u)
    (right : Ranged low' high' v) (large : -1126 ≤ low + low') :
    Ranged (low + low' + 52) (high + high' + 54) (UnpackedFloat.mul Format.binary64 u v) := by
  obtain ⟨m, e, positive, rfl, bits, above, below⟩ := left
  obtain ⟨n, d, positive', rfl, bits', above', below'⟩ := right
  obtain ⟨least, most⟩ := (Nat.log2_eq_iff (Nat.ne_of_gt positive)).mp bits
  obtain ⟨least', most'⟩ := (Nat.log2_eq_iff (Nat.ne_of_gt positive')).mp bits'
  have wide : 104 ≤ (m * n).log2 :=
    (Nat.le_log2 (Nat.mul_pos positive positive').ne').mpr
      ((Nat.pow_add 2 52 52).trans_le (Nat.mul_le_mul least least'))
  have narrow : (m * n).log2 < 106 :=
    (Nat.log2_lt (Nat.mul_pos positive positive').ne').mpr
      ((Nat.mul_lt_mul'' most most').trans_eq (Nat.pow_add 2 53 53).symm)
  obtain ⟨k, f, kept, rounded, full, lower, upper⟩ :=
    ranged_round (m * n) (e + d) .exact (by omega) (by omega)
  exact ⟨k, f, kept, rounded, full, by omega, by omega⟩

/-- The quotient of floats in two ranges is in a range between. -/
theorem ranged_div {low high low' high' : Int} {u v : UnpackedFloat} (left : Ranged low high u)
    (right : Ranged low' high' v) (large : -1021 ≤ low - high') :
    Ranged (low - high' - 53) (high - low' - 51) (UnpackedFloat.div Format.binary64 u v) := by
  obtain ⟨m, e, positive, rfl, bits, above, below⟩ := left
  obtain ⟨n, d, positive', rfl, bits', above', below'⟩ := right
  obtain ⟨least, most⟩ := (Nat.log2_eq_iff (Nat.ne_of_gt positive)).mp bits
  obtain ⟨least', most'⟩ := (Nat.log2_eq_iff (Nat.ne_of_gt positive')).mp bits'
  have target : Format.binary64.targetExponent (totalExponent m e - totalExponent n d) = e - d - 53 := by
    simp only [Format.targetExponent, totalExponent, Format.mantissaBits, Format.minExponent, bits, bits']
    norm_num
    omega
  have lowered : min (e - d) (e - d - 53) = e - d - 53 := by omega
  have amount : (e - d - (e - d - 53)).toNat = 53 := by omega
  have quotient : 2 ^ 52 ≤ (m <<< 53) / n ∧ (m <<< 53) / n < 2 ^ 54 := by
    rw [Nat.shiftLeft_eq, Nat.le_div_iff_mul_le positive', Nat.div_lt_iff_lt_mul positive']
    omega
  have nonzero : (m <<< 53) / n ≠ 0 := by omega
  have wide : 52 ≤ ((m <<< 53) / n).log2 := (Nat.le_log2 nonzero).mpr quotient.1
  have narrow : ((m <<< 53) / n).log2 < 54 := (Nat.log2_lt nonzero).mpr quotient.2
  obtain ⟨k, f, kept, rounded, full, lower, upper⟩ := ranged_round _ (e - d - 53)
    (accuracyOfFraction ((m <<< 53) % n) n) wide (by omega)
  refine ⟨k, f, kept, ?_, full, by omega, by omega⟩
  rw [← rounded, UnpackedFloat.div, divCore, target, lowered, amount]
  rfl

theorem ranged_round_nat {n : Nat} (positive : 0 < n) (short : n < 2 ^ 53) :
    Ranged (-52) 1 (UnpackedFloat.round Format.binary64 .positive n 0) := by
  have bits : n.log2 < 53 := (Nat.log2_lt positive.ne').mpr short
  have target : Format.binary64.targetExponent (totalExponent n 0) = n.log2 - 52 := by
    rw [targetExponent_of_wide (by omega), Int.zero_add]
  have amount : (0 - ((n.log2 : Int) - 52)).toNat = 52 - n.log2 := by omega
  have full : (n <<< (52 - n.log2)).log2 = 52 := by
    rw [log2_shiftLeft positive]
    omega
  obtain ⟨k, e, kept, rounded, all, lower, upper⟩ := ranged_round (n <<< (52 - n.log2))
    (0 - (52 - n.log2 : Nat)) .exact (by omega) (by omega)
  refine ⟨k, e, kept, ?_, all, by omega, by omega⟩
  rw [← rounded, UnpackedFloat.round, target, decreaseExponent, amount]

/-- A float that stands for such a number. -/
def Spans (low high : Int) (x : Float) : Prop := Ranged low high x.toModel.unpack

theorem spans_ofModel {low high : Int} {u : UnpackedFloat} (ranged : Ranged low high u) (small : -1074 ≤ low)
    (large : high ≤ 971) : Spans low high (.ofModel (.pack u)) := by
  show Ranged low high (UnpackedFloat.unpack Format.binary64 (UnpackedFloat.pack Format.binary64 u))
  rwa [unpack_pack_of_ranged ranged small large]

/-- The product of floats in two ranges is in the range of the sums. -/
theorem Spans.mul {low high low' high' : Int} {x y : Float} (left : Spans low high x) (right : Spans low' high' y)
    (small : -1126 ≤ low + low') (large : high + high' ≤ 917) : Spans (low + low' + 52) (high + high' + 54) (x * y) :=
  spans_ofModel (ranged_mul left right small) (by omega) (by omega)

/-- The quotient of floats in two ranges is in the range of the differences. -/
theorem Spans.div {low high low' high' : Int} {x y : Float} (left : Spans low high x) (right : Spans low' high' y)
    (small : -1021 ≤ low - high') (large : high - low' ≤ 1022) : Spans (low - high' - 53) (high - low' - 51) (x / y) :=
  spans_ofModel (ranged_div left right small) (by omega) (by omega)

theorem spans_one : Spans (-52) (-52) (Float.ofBits 0x3FF0000000000000) :=
  ⟨2 ^ 52, -52, by decide, rfl, by decide, le_refl _, le_refl _⟩

/-- A counter that is not zero is a float in a range around one. -/
theorem spans_ofNat {n : Nat} (positive : 0 < n) (bound : n < 2 ^ 64) : Spans (-52) 13 (Float.ofNat n) := by
  have written : Float.ofNat n = Float.ofScientific n false 0 := rfl
  rw [written, Float.ofScientific]
  split
  · rename_i short
    have word : n.toUInt64.toNat = n := by
      rw [Nat.toUInt64_eq, UInt64.toNat_ofNat_of_lt' bound]
    have whole : Spans (-52) 1 n.toUInt64.toFloat := by
      refine spans_ofModel ?_ (by decide) (by decide)
      rw [UnpackedFloat.ofUInt64, word, UnpackedFloat.ofNat, UnpackedFloat.ofInt, UnpackedFloat.normalize,
        Int.compare_eq_gt.mpr (by omega)]
      exact ranged_round_nat positive short.1
    obtain ⟨k, e, kept, rounded, full, lower, upper⟩ := whole.mul spans_one (by decide) (by decide)
    exact ⟨k, e, kept, rounded, full, by omega, by omega⟩
  · rename_i long
    have bits : 53 ≤ n.log2 ∧ n.log2 < 64 :=
      ⟨(Nat.le_log2 positive.ne').mpr (by omega), (Nat.log2_lt positive.ne').mpr bound⟩
    have full := log2_shiftLeft positive 53
    obtain ⟨k, e, kept, rounded, all, lower, upper⟩ :=
      ranged_round (n <<< 53) (-53) .exact (by omega) (by omega)
    refine spans_ofModel ⟨k, e, kept, ?_, all, by omega, by omega⟩ (by decide) (by decide)
    rw [← rounded, UnpackedFloat.ofScientific, dif_neg positive.ne', if_neg (by decide), if_neg (by simp),
      if_pos (by decide)]
    show roundWithAccuracy Format.binary64 .positive (n <<< 53 * 1) (-53) .exact = _
    rw [Nat.mul_one]

theorem le_iff (x y : Float) : Arith.le x y = true ↔ x.toModel.unpack.le y.toModel.unpack = true := by
  show decide (x ≤ y) = true ↔ _
  rw [decide_eq_true_iff]
  show decide (x.toModel ≤ y.toModel) = true ↔ _
  rw [decide_eq_true_iff]
  rfl

theorem not_le_zero_of_spans {low high : Int} {x : Float} (spans : Spans low high x) :
    Arith.le x (Arith.ofNat 0) = false := by
  obtain ⟨k, e, kept, is, -, -, -⟩ := spans
  rw [← Bool.not_eq_true, le_iff, is]
  exact Bool.false_ne_true

/-- Zero through a float in a range is not above zero. -/
theorem zero_div_le_zero {low high : Int} {x : Float} (spans : Spans low high x) :
    Arith.le (Arith.ofNat 0 / x) (Arith.ofNat 0) = true := by
  obtain ⟨k, e, kept, is, -, -, -⟩ := spans
  have zero : (Arith.ofNat 0 / x).toModel =
      .pack (UnpackedFloat.div Format.binary64 (.zero .positive) x.toModel.unpack) := rfl
  rw [le_iff, zero, is, UnpackedFloat.div]
  decide +kernel

/-- A rate of ticks is zero if there are none, and only then: no quotient of counters is so small that it is rounded to
zero. -/
theorem le_div_zero_iff {ticks seconds : Nat} (counter : ticks ≤ counterMax) (positive : 0 < seconds)
    (counter' : seconds ≤ counterMax) :
    Arith.le (Arith.ofNat ticks / Arith.ofNat seconds : Float) (Arith.ofNat 0) = true ↔ ticks = 0 := by
  have period := spans_ofNat positive (Nat.lt_succ_of_le counter')
  rcases Nat.eq_zero_or_pos ticks with rfl | reported
  · exact iff_of_true (zero_div_le_zero period) rfl
  · have rate := (spans_ofNat reported (Nat.lt_succ_of_le counter)).div period (by decide) (by decide)
    exact iff_of_false (Bool.eq_false_iff.mp (not_le_zero_of_spans rate)) reported.ne'

end MeshTrace.Binary64
