import MeshTrace.Proofs.Number.Nearest

namespace MeshTrace.Number

open Binary64

theorem Binary64.nearestBits_zero (den : Nat) : nearestBits 0 den = 0 := by
  simp [nearestBits, roundHalfEven]

/-- A numeral of places that is not out of range is read as the nearest float. -/
theorem Numeral.toFloat_eq_nearest {n places : Nat} (positive : places ≠ 0) (few : places ≤ 300)
    (bound : n ≤ largest * 10 ^ places) :
    Numeral.toFloat ⟨n, -(places : Int)⟩ = nearest n (10 ^ places) := by
  simp only [Numeral.toFloat, if_neg (not_lt.mpr (Numeral.top_le bound)), Bool.or_eq_true, decide_eq_true_eq]
  split
  · rename_i none
    have zero : n = 0 := by
      refine none.resolve_right fun small => ?_
      simp only [Numeral.smallest] at small
      omega
    rw [zero, nearest, nearest, Binary64.nearestBits_zero, Binary64.nearestBits_zero]
  · obtain ⟨p, rfl⟩ := Nat.exists_eq_succ_of_ne_zero positive
    rfl

/-- The digits of a figure are those of the rounded number. -/
theorem roundsTo_magnitude (places m e : Nat) :
    RoundsTo (10 ^ places * magnitude m e) (roundHalfEven (units m e * Nat.pow 10 places) scale) := by
  have whole := roundsTo_roundHalfEven (units m e * Nat.pow 10 places) (by decide +kernel : 0 < scale)
  rwa [Nat.pow_eq, Nat.cast_mul, Nat.cast_pow, mul_comm, mul_div_assoc] at whole

/-- Rounding keeps the sign. -/
theorem roundsTo_value_iff (places : Nat) (negative : Bool) (m e n : Nat) :
    RoundsTo (10 ^ places * (finite negative m e).value) (if negative then -n else n) ↔
      RoundsTo (10 ^ places * magnitude m e) n := by
  cases negative with
  | false => exact Iff.rfl
  | true =>
    have mirrored : (10 ^ places * (finite true m e).value : ℚ) = -(10 ^ places * magnitude m e) := mul_neg _ _
    rw [mirrored, if_pos rfl]
    exact ⟨fun rounds => by simpa only [neg_neg] using rounds.neg, RoundsTo.neg⟩

/-- What rounds to the same whole number of places has the same text, if the sign is the same too. -/
theorem fixedText_of_roundsTo {places : Nat} (positive : places ≠ 0) {x : Float} (finite : x.isFinite = true)
    {negative : Bool} (sign : (ofFloat x).isNegative = negative) {n : Nat}
    (rounds : RoundsTo (10 ^ places * (ofFloat x).value) (if negative then -n else n)) :
    fixedText places x = (if negative then ['-'] else []) ++
      (Nat.toDigits 10 (n / Nat.pow 10 places) ++ '.' :: placesText n places) := by
  obtain ⟨signed, m, e, parts, -, -⟩ := exists_finite finite
  rw [parts] at sign rounds
  obtain rfl : signed = negative := sign
  have same := (roundsTo_magnitude places m e).unique ((roundsTo_value_iff ..).mp rounds)
  simp only [fixedText, parts, if_neg positive, Int.natCast_inj.mp same, List.append_assoc]

/-- A float rounds to a whole number of places that has its sign and can be read again. -/
theorem exists_roundsTo (places : Nat) {x : Float} (finite : x.isFinite = true) :
    ∃ n : Nat, n ≤ largest * 10 ^ places ∧
      RoundsTo (10 ^ places * (ofFloat x).value) (if (ofFloat x).isNegative then -n else n) := by
  obtain ⟨negative, m, e, parts, -, bound⟩ := exists_finite finite
  refine ⟨_, roundedPlaces_le places bound, ?_⟩
  rw [parts]
  exact (roundsTo_value_iff ..).mpr (roundsTo_magnitude places m e)

/-- Where a float rounds to, the float nearest to the rounded number rounds as well: the first float is one of those
that are no nearer. -/
theorem roundsTo_of_isNearest {places : Nat} {x y : Float} (finite : x.isFinite = true) {k : ℤ}
    (rounds : RoundsTo (10 ^ places * (ofFloat x).value) k) (nearest : IsNearest (k / 10 ^ places) y) :
    RoundsTo (10 ^ places * (ofFloat y).value) k := by
  have unit : (0 : ℚ) < 10 ^ places := by positivity
  have scaled (q : ℚ) : |10 ^ places * q - k| = 10 ^ places * |q - k / 10 ^ places| := by
    rw [← abs_of_pos unit, ← abs_mul, abs_of_pos unit, mul_sub, mul_div_cancel₀ _ unit.ne']
  refine rounds.of_dist_le ?_
  rw [scaled, scaled]
  exact mul_le_mul_of_nonneg_left (nearest.near x finite) unit.le

section

variable {places : Nat} (positive : places ≠ 0) (few : places ≤ 300)

include positive few

/-- A finite float that was written is read as the float nearest to the rounded number, with the sign that it had. -/
theorem isNearest_of_float?_fixedText {x y : Float} (finite : x.isFinite = true)
    (read : float? (fixedText places x) = some y) {n : Nat} (bound : n ≤ largest * 10 ^ places)
    (rounds : RoundsTo (10 ^ places * (ofFloat x).value) (if (ofFloat x).isNegative then -n else n)) :
    IsNearest (((if (ofFloat x).isNegative then -n else n : ℤ) : ℚ) / 10 ^ places) y ∧
      (ofFloat y).isNegative = (ofFloat x).isNegative := by
  obtain ⟨nearest, sign⟩ := isNearest_nearest (Nat.pow_pos (by decide)) bound
  rw [fixedText_of_roundsTo positive finite rfl rounds, float?_digits, Option.some.injEq,
    Numeral.toFloat_eq_nearest positive few bound] at read
  subst read
  rw [Nat.cast_pow, Nat.cast_ofNat] at nearest
  cases (ofFloat x).isNegative with
  | false => exact ⟨nearest, sign⟩
  | true =>
    obtain ⟨negative, m, e, parts, -, -⟩ := exists_finite nearest.finite
    rw [parts] at sign
    obtain rfl : negative = false := sign
    refine ⟨?_, by rw [if_pos rfl, ofFloat_neg, parts]; rfl⟩
    have mirrored := nearest.neg
    rwa [← neg_div] at mirrored

/-- What was written and read is written as it was before. -/
theorem fixedText_of_float?_fixedText {x y : Float} (read : float? (fixedText places x) = some y) :
    fixedText places y = fixedText places x := by
  by_cases finite : x.isFinite = true
  · obtain ⟨n, bound, rounds⟩ := exists_roundsTo places finite
    obtain ⟨nearest, sign⟩ := isNearest_of_float?_fixedText positive few finite read bound rounds
    have again := roundsTo_of_isNearest finite rounds nearest
    rw [fixedText_of_roundsTo positive finite rfl rounds, fixedText_of_roundsTo positive nearest.finite sign again]
  · -- The names of the other floats are read as these floats.
    have kind := isFinite_eq x
    unfold fixedText at read
    cases parts : ofFloat x with
    | finite negative m e =>
      rw [parts] at kind
      exact absurd kind.1 finite
    | nan =>
      rw [parts] at read
      obtain rfl := Option.some.inj read
      simp only [fixedText, parts]
      rfl
    | infinite negative =>
      rw [parts] at read
      cases negative with
      | true =>
        obtain rfl := Option.some.inj read
        simp only [fixedText, parts]
        rfl
      | false =>
        obtain rfl := Option.some.inj read
        simp only [fixedText, parts]
        rfl

end

end MeshTrace.Number
