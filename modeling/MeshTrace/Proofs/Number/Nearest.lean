import MeshTrace.Proofs.Number.Finite

namespace MeshTrace

/-- From one number to two different whole ones it is one in all, or more. -/
theorem one_le_dist_add_dist (q : ℚ) {j k : ℤ} (other : j ≠ k) : 1 ≤ |q - j| + |q - k| := by
  have apart : (1 : ℚ) ≤ |(j : ℚ) - k| := by exact_mod_cast Int.one_le_abs (sub_ne_zero.mpr other)
  calc (1 : ℚ) ≤ |(j : ℚ) - k| := apart
    _ ≤ |(j : ℚ) - q| + |q - k| := abs_sub_le _ _ _
    _ = |q - j| + |q - k| := by rw [abs_sub_comm q j]

/-- `k` is the whole number nearest to `q`, and the even one if two are nearest. -/
structure RoundsTo (q : ℚ) (k : ℤ) : Prop where
  near : |q - k| ≤ 1 / 2
  even : |q - k| = 1 / 2 → Even k

namespace RoundsTo

variable {p q : ℚ} {j k : ℤ}

theorem neg (rounds : RoundsTo q k) : RoundsTo (-q) (-k) := by
  have same : |-q - (-k : ℤ)| = |q - k| := by
    rw [Int.cast_neg, ← neg_sub', abs_neg]
  exact ⟨same ▸ rounds.near, fun middle => (rounds.even (same ▸ middle)).neg⟩

/-- Of two neighbours that are equally near, only one is even. -/
theorem unique (first : RoundsTo q j) (second : RoundsTo q k) : j = k := by
  by_contra other
  have apart := one_le_dist_add_dist q other
  obtain ⟨a, rfl⟩ := first.even (by linarith [first.near, second.near])
  obtain ⟨b, rfl⟩ := second.even (by linarith [first.near, second.near])
  have between := abs_sub_le ((a + a : ℤ) : ℚ) q (b + b : ℤ)
  rw [abs_sub_comm _ q] at between
  have close : |((a + a : ℤ) : ℚ) - (b + b : ℤ)| ≤ 1 := by linarith [first.near, second.near]
  have close : |(a + a) - (b + b)| ≤ 1 := by exact_mod_cast close
  rw [abs_le] at close
  omega

/-- No whole number is nearer than the rounded one. -/
theorem dist_le (rounds : RoundsTo q k) (j : ℤ) : |q - k| ≤ |q - j| := by
  by_cases same : j = k
  · rw [same]
  · linarith [one_le_dist_add_dist q same, rounds.near]

/-- What is no farther away from a whole number rounds to it too. -/
theorem of_dist_le (rounds : RoundsTo q k) (nearer : |p - k| ≤ |q - k|) : RoundsTo p k :=
  ⟨nearer.trans rounds.near, fun middle => rounds.even (le_antisymm rounds.near (middle ▸ nearer))⟩

end RoundsTo

/-- The rounded quotient is nearest, and even where two are. -/
theorem roundsTo_roundHalfEven (num : Nat) {den : Nat} (positive : 0 < den) :
    RoundsTo (num / den) (roundHalfEven num den) := by
  have unit : (0 : ℚ) < den := by exact_mod_cast positive
  obtain ⟨rest, restEq⟩ : ∃ rest : ℚ, rest = (num % den : Nat) / den := ⟨_, rfl⟩
  have whole : (num / den : ℚ) = (num / den : Nat) + rest := by
    rw [restEq, ← mul_left_inj' unit.ne', add_mul, div_mul_cancel₀ _ unit.ne', div_mul_cancel₀ _ unit.ne']
    exact_mod_cast (Nat.div_add_mod' num den).symm
  have low : 0 ≤ rest := restEq ▸ by positivity
  have less : rest < 1 / 2 ↔ 2 * (num % den) < den := by
    rw [restEq, div_lt_iff₀ unit, one_div_mul_eq_div, lt_div_iff₀ two_pos, mul_comm]
    exact_mod_cast Iff.rfl
  have more : 1 / 2 < rest ↔ den < 2 * (num % den) := by
    rw [restEq, lt_div_iff₀ unit, one_div_mul_eq_div, div_lt_iff₀ two_pos, mul_comm]
    exact_mod_cast Iff.rfl
  have high : rest < 1 := by
    rw [restEq, div_lt_one unit]
    exact_mod_cast Nat.mod_lt num positive
  have below : |(num / den : ℚ) - ((num / den : Nat) : ℤ)| = rest := by
    rw [whole, Int.cast_natCast, add_sub_cancel_left, abs_of_nonneg low]
  have above : |(num / den : ℚ) - ((num / den + 1 : Nat) : ℤ)| = 1 - rest := by
    rw [whole, Int.cast_natCast, Nat.cast_succ, add_sub_add_left_eq_sub, abs_sub_comm, abs_of_pos (sub_pos.mpr high)]
  unfold roundHalfEven
  dsimp only
  split
  · rename_i small
    have near := less.mpr small
    exact ⟨below ▸ near.le, fun middle => absurd (below ▸ middle) near.ne⟩
  · rename_i large
    have half := not_lt.mp (mt less.mp large)
    split
    · rename_i larger
      have near := more.mpr larger
      exact ⟨by linarith, fun middle => absurd (above ▸ middle) (by linarith)⟩
    · rename_i middle
      have exact := le_antisymm (not_lt.mp (mt more.mp middle)) half
      split
      · rename_i even
        refine ⟨by linarith, fun _ => ?_⟩
        rw [Int.even_coe_nat, Nat.even_iff]
        exact even
      · rename_i odd
        refine ⟨by linarith, fun _ => ?_⟩
        rw [Int.even_coe_nat, Nat.even_add_one, Nat.even_iff]
        exact odd

theorem le_roundHalfEven (num den : Nat) : num / den ≤ roundHalfEven num den := by
  unfold roundHalfEven
  dsimp only
  split_ifs <;> omega

namespace Binary64

/-- The distance from zero of a finite float. -/
def magnitude (mantissa exponent : Nat) : ℚ := units mantissa exponent / scale

/-- The number that a finite float is. -/
def value : Binary64 → ℚ
  | finite negative mantissa exponent => if negative then -magnitude mantissa exponent else magnitude mantissa exponent
  | _ => 0

def isNegative : Binary64 → Bool
  | finite negative _ _ => negative
  | infinite negative => negative
  | nan => false

theorem magnitude_nonneg (mantissa exponent : Nat) : 0 ≤ magnitude mantissa exponent :=
  div_nonneg (Nat.cast_nonneg _) (Nat.cast_nonneg _)

theorem value_neg (b : Binary64) : b.neg.value = -b.value := by
  cases b with
  | nan => exact neg_zero.symm
  | infinite negative => exact neg_zero.symm
  | finite negative mantissa exponent =>
    cases negative with
    | true => exact (neg_neg _).symm
    | false => rfl

theorem mantissa_lt {bits mantissa exponent : Nat} {negative : Bool}
    (parts : ofBits bits = finite negative mantissa exponent) : mantissa < 2 ^ 53 := by
  have fraction : bits % 2 ^ 52 < 2 ^ 52 := Nat.mod_lt _ (by decide)
  simp only [ofBits, Nat.pow_eq] at parts
  split_ifs at parts
  · obtain ⟨-, rfl, -⟩ := finite.inj parts
    omega
  · obtain ⟨-, rfl, -⟩ := finite.inj parts
    omega

/-- A mantissa that has a bit more than it may have, because it was rounded up, carries into the exponent. -/
theorem exists_ofBits_carry {mantissa exponent : Nat} (normal : exponent = 0 ∨ 2 ^ 52 ≤ mantissa)
    (short : mantissa ≤ 2 ^ 53) (below : exponent * 2 ^ 52 + mantissa < infinityBits) :
    ∃ m e, ofBits (exponent * 2 ^ 52 + mantissa) = finite false m e ∧ units m e = units mantissa exponent := by
  simp only [infinityBits, Nat.pow_eq] at below
  have positive : (exponent * 2 ^ 52 + mantissa) / 2 ^ 63 % 2 ≠ 1 := by omega
  have finite : (exponent * 2 ^ 52 + mantissa) / 2 ^ 52 % 2 ^ 11 ≠ 2 ^ 11 - 1 := by omega
  simp only [ofBits, Nat.pow_eq, if_neg finite, decide_eq_false positive]
  by_cases subnormal : mantissa < 2 ^ 52
  · have field : (exponent * 2 ^ 52 + mantissa) / 2 ^ 52 % 2 ^ 11 = 0 := by omega
    have fraction : (exponent * 2 ^ 52 + mantissa) % 2 ^ 52 = mantissa := by omega
    have lowest : exponent = 0 := by omega
    exact ⟨mantissa, 0, by rw [if_pos field, fraction], by rw [lowest]⟩
  · by_cases carry : mantissa = 2 ^ 53
    · have field : (exponent * 2 ^ 52 + mantissa) / 2 ^ 52 % 2 ^ 11 = exponent + 2 := by omega
      have fraction : (exponent * 2 ^ 52 + mantissa) % 2 ^ 52 = 0 := by omega
      refine ⟨2 ^ 52, exponent + 1, by rw [field, fraction, if_neg (by omega)]; rfl, ?_⟩
      rw [units, units, carry, Nat.pow_eq, Nat.pow_eq, Nat.pow_succ 2 exponent, Nat.mul_left_comm]
      omega
    · have field : (exponent * 2 ^ 52 + mantissa) / 2 ^ 52 % 2 ^ 11 = exponent + 1 := by omega
      have fraction : (exponent * 2 ^ 52 + mantissa) % 2 ^ 52 = mantissa - 2 ^ 52 := by omega
      refine ⟨mantissa, exponent, ?_, rfl⟩
      rw [field, fraction, if_neg (by omega)]
      congr 1
      omega

/-- The exponent is as small as fifty-three bits allow. -/
theorem quotient_bounds (num den : Nat) :
    num / den < 2 ^ (53 + ((num / den).log2 + 1 - 53)) ∧
      ((num / den).log2 + 1 - 53 = 0 ∨ 2 ^ (52 + ((num / den).log2 + 1 - 53)) ≤ num / den) := by
  constructor
  · exact Nat.lt_log2_self.trans_le (Nat.pow_le_pow_right (by decide) (by omega))
  · rcases Nat.eq_zero_or_pos ((num / den).log2 + 1 - 53) with least | wide
    · exact Or.inl least
    · have nonzero : num / den ≠ 0 := by
        intro zero
        rw [zero, Nat.log2_zero] at wide
        omega
      exact Or.inr ((Nat.pow_le_pow_right (by decide) (by omega)).trans (Nat.log2_self_le nonzero))

/-- No float is nearer to a quotient than the multiple of a power of two to which it is rounded: the floats with
lower exponents are all below the quotient, and so below a multiple that is. -/
theorem dist_rounded_le {num den exponent : Nat} (positive : 0 < den)
    (wide : exponent = 0 ∨ 2 ^ (52 + exponent) ≤ num / den) {m : Nat} (short : m < 2 ^ 53) (e : Nat) :
    |(units (roundHalfEven num (den * 2 ^ exponent)) exponent : ℚ) - num / den| ≤ |(units m e : ℚ) - num / den| := by
  have unit : (0 : ℚ) < den := by exact_mod_cast positive
  have power : (0 : ℚ) < 2 ^ exponent := by positivity
  have rounds := roundsTo_roundHalfEven num (Nat.mul_pos positive (Nat.two_pow_pos exponent))
  generalize roundHalfEven num (den * 2 ^ exponent) = r at rounds
  obtain ⟨q, qEq⟩ : ∃ q : ℚ, q = num / (den * 2 ^ exponent) := ⟨_, rfl⟩
  rw [Nat.cast_mul, Nat.cast_pow, Nat.cast_ofNat, ← qEq] at rounds
  have scaled (a : ℚ) : |a * 2 ^ exponent - num / den| = |q - a| * 2 ^ exponent := by
    rw [← abs_of_pos power, ← abs_mul, abs_of_pos power, abs_sub_comm, sub_mul, qEq, div_mul_eq_mul_div,
      mul_div_mul_right _ _ power.ne']
  have multiple (a : Nat) : (units a exponent : ℚ) = a * 2 ^ exponent := by
    rw [units, Nat.pow_eq]
    push_cast
    rfl
  have nearest (k : Nat) : |(units r exponent : ℚ) - num / den| ≤ |(units k exponent : ℚ) - num / den| := by
    rw [multiple, multiple, scaled, scaled]
    exact mul_le_mul_of_nonneg_right (by simpa using rounds.dist_le k) power.le
  rcases Nat.lt_or_ge e exponent with lower | higher
  · have long : 2 ^ (52 + exponent) ≤ num / den := wide.resolve_left (by omega)
    have atLeast : (units (2 ^ 52) exponent : ℚ) ≤ num / den := by
      rw [le_div_iff₀ unit, units, Nat.pow_eq, ← Nat.pow_add]
      exact_mod_cast (Nat.mul_le_mul_right den long).trans (Nat.div_mul_le_self num den)
    have below : (units m e : ℚ) ≤ units (2 ^ 52) exponent := by
      have small : units m e ≤ units (2 ^ 52) exponent := by
        calc units m e ≤ 2 ^ 53 * 2 ^ e := Nat.mul_le_mul_right _ short.le
          _ = 2 ^ 52 * 2 ^ (e + 1) := by rw [Nat.pow_succ 2 e]; omega
          _ ≤ units (2 ^ 52) exponent := Nat.mul_le_mul_left _ (Nat.pow_le_pow_right (by decide) lower)
      exact_mod_cast small
    refine (nearest (2 ^ 52)).trans ?_
    rw [abs_of_nonpos (sub_nonpos.mpr atLeast), abs_of_nonpos (sub_nonpos.mpr (below.trans atLeast))]
    exact neg_le_neg (sub_le_sub_right below _)
  · have same : units m e = units (m * 2 ^ (e - exponent)) exponent := by
      rw [units, units, Nat.pow_eq, Nat.pow_eq, Nat.mul_assoc, ← Nat.pow_add, Nat.sub_add_cancel higher]
    rw [same]
    exact nearest _

/-- A float that is finite, and to a number no finite float is nearer. -/
structure IsNearest (q : ℚ) (y : Float) : Prop where
  finite : y.isFinite = true
  near : ∀ z : Float, z.isFinite = true → |(ofFloat y).value - q| ≤ |(ofFloat z).value - q|

theorem IsNearest.neg {q : ℚ} {y : Float} (nearest : IsNearest q y) : IsNearest (-q) (-y) := by
  have mirrored (z : Float) : |(ofFloat (-z)).value - -q| = |(ofFloat z).value - q| := by
    rw [ofFloat_neg, value_neg, ← neg_sub', abs_neg]
  refine ⟨(isFinite_neg y).trans nearest.finite, fun z finite => ?_⟩
  have other := nearest.near (-z) ((isFinite_neg z).trans finite)
  have opposite : |(ofFloat (-z)).value - q| = |(ofFloat z).value - -q| := by
    rw [ofFloat_neg, value_neg, ← neg_add', abs_neg, sub_neg_eq_add]
  rwa [mirrored, ← opposite]

/-- A finite float is a mantissa with an exponent, within the largest. -/
theorem exists_finite {x : Float} (finite : x.isFinite = true) :
    ∃ negative m e, ofFloat x = .finite negative m e ∧ m < 2 ^ 53 ∧ units m e ≤ largest * scale := by
  have kind := isFinite_eq x
  cases parts : ofFloat x with
  | nan =>
    rw [parts] at kind
    exact absurd finite (by simp [kind])
  | infinite negative =>
    rw [parts] at kind
    exact absurd finite (by simp [kind])
  | finite negative m e =>
    rw [parts] at kind
    exact ⟨negative, m, e, rfl, mantissa_lt parts, kind.2⟩

/-- The nearest bits are those of the quotient rounded to the finest multiple of a power of two that a mantissa has
room for. -/
theorem exists_ofFloat_nearest {num den : Nat} (positive : 0 < den) (bound : num ≤ largest * den) :
    ∃ m e, ofFloat (nearest num den) = finite false m e ∧ ∀ m' < 2 ^ 53, ∀ e',
      |magnitude m e - num / den| ≤ |magnitude m' e' - num / den| := by
  obtain ⟨narrow, wide⟩ := quotient_bounds (num * scale) den
  have top : num * scale ≤ units (2 ^ 53 - 1) 2045 * den := by
    rw [← largest_mul_scale, Nat.mul_right_comm]
    exact Nat.mul_le_mul_right scale bound
  have carry := carry_lt positive top
  have bits : nearestBits num den = _ := min_eq_left carry.le
  have short := roundedMantissa_le positive narrow
  have near (m : Nat) (room : m < 2 ^ 53) := dist_rounded_le positive wide room
  have normal : (num * scale / den).log2 + 1 - 53 = 0 ∨
      2 ^ 52 ≤ roundHalfEven (num * scale) (den * 2 ^ ((num * scale / den).log2 + 1 - 53)) := by
    refine wide.imp_right fun long => le_trans ?_ (le_roundHalfEven _ _)
    rwa [← Nat.div_div_eq_div_mul, Nat.le_div_iff_mul_le (Nat.pow_pos (by decide)), ← Nat.pow_add]
  generalize (num * scale / den).log2 + 1 - 53 = exponent at *
  simp only [Nat.pow_eq] at bits
  generalize roundHalfEven (num * scale) (den * 2 ^ exponent) = mantissa at *
  have below : exponent * 2 ^ 52 + mantissa < infinityBits := carry
  have field : (exponent * 2 ^ 52 + mantissa) / 2 ^ 52 % 2 ^ 11 ≠ 2 ^ 11 - 1 := by
    simp only [infinityBits, Nat.pow_eq] at below
    omega
  have room : exponent * 2 ^ 52 + mantissa < 2 ^ 64 := below.trans (by decide)
  obtain ⟨m, e, parts, value⟩ := exists_ofBits_carry normal short below
  refine ⟨m, e, ?_, fun m' room e' => ?_⟩
  · have word : (Nat.toUInt64 (exponent * 2 ^ 52 + mantissa)).toNat = exponent * 2 ^ 52 + mantissa := by
      rw [Nat.toUInt64_eq, UInt64.toNat_ofNat_of_lt' room]
    rw [nearest, bits, ofFloat, toBits_ofBits (by rwa [word]), word, parts]
  · have unit : (0 : ℚ) < scale := by exact_mod_cast (by decide +kernel : 0 < scale)
    have scaled (a : Nat) : |(a : ℚ) / scale - num / den| = |(a : ℚ) - (num * scale : Nat) / den| / scale := by
      rw [← abs_of_pos unit, ← abs_div, abs_of_pos unit, sub_div, Nat.cast_mul, mul_comm (num : ℚ), mul_div_assoc,
        mul_div_cancel_left₀ _ unit.ne']
    rw [magnitude, magnitude, scaled, scaled, value]
    exact div_le_div_of_nonneg_right (near m' room e') unit.le

/-- The float with the nearest bits is the nearest one. -/
theorem isNearest_nearest {num den : Nat} (positive : 0 < den) (bound : num ≤ largest * den) :
    IsNearest (num / den) (nearest num den) ∧ (ofFloat (nearest num den)).isNegative = false := by
  obtain ⟨m, e, parts, near⟩ := exists_ofFloat_nearest positive bound
  refine ⟨⟨isFinite_nearest positive bound, fun z finite => ?_⟩, by rw [parts]; rfl⟩
  obtain ⟨negative, m', e', other, room, -⟩ := exists_finite finite
  have least := near m' room e'
  rw [parts, other]
  cases negative with
  | false => exact least
  | true =>
    -- A negative float is farther away than the positive one of the same magnitude.
    have quotient : (0 : ℚ) ≤ num / den := by positivity
    have farther : |magnitude m' e' - num / den| ≤ |-magnitude m' e' - num / den| := by
      rw [← neg_add', abs_neg, abs_of_nonneg (add_nonneg (magnitude_nonneg m' e') quotient), abs_le]
      exact ⟨by linarith [magnitude_nonneg m' e'], by linarith [magnitude_nonneg m' e']⟩
    exact least.trans farther

end Binary64

end MeshTrace
