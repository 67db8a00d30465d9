import MeshTrace.Campaign.Summary
import MeshTrace.Proofs.Number.Precise
import MeshTrace.Proofs.Number.Squares

namespace MeshTrace

namespace Stats

open Precise

/-- How much numbers scatter around their mean. -/
noncomputable def scattering (rs : List ℝ) : ℝ := (rs.map fun r => (r - rs.sum / rs.length) ^ 2).sum

theorem scattering_nonneg (rs : List ℝ) : 0 ≤ scattering rs := sum_sq_sub_nonneg rs _

/-- Numbers scatter alike in every order. -/
theorem scattering_perm {rs others : List ℝ} (same : rs.Perm others) : scattering rs = scattering others := by
  rw [scattering, scattering, same.sum_eq, same.length_eq, (same.map _).sum_eq]

/-- Only numbers that are all the same do not scatter. -/
theorem scattering_eq_zero_iff (rs : List ℝ) : scattering rs = 0 ↔ ∃ m, ∀ r ∈ rs, r = m := by
  rw [scattering, sum_sq_sub_eq_zero_iff]
  refine ⟨fun all => ⟨_, all⟩, ?_⟩
  rintro ⟨m, all⟩ r member
  have count : (rs.length : ℝ) ≠ 0 := cast_length_ne_zero (List.ne_nil_of_mem member)
  rw [List.sum_eq_card_nsmul rs m all, nsmul_eq_mul, mul_div_cancel_left₀ _ count, all r member]

section

variable (rs : List ℝ)

theorem average_map_number (some : rs ≠ []) : Arith.average (rs.map number) = number (rs.sum / rs.length) := by
  rw [Arith.average, total_map_number, List.length_map, ofNat_eq, number_div (cast_length_ne_zero some)]

theorem scatter_map_number (some : rs ≠ []) :
    scatter (Arith.average (rs.map number)) (rs.map number) = number (scattering rs) := by
  rw [average_map_number rs some, scatter, scattering, ← total_map_number, List.map_map, List.map_map]
  refine congrArg Arith.total (List.map_congr_left fun r _ => ?_)
  simp only [Function.comp_apply, number_sub, number_mul, sq]

theorem sampleDeviation_map_number (several : 1 < rs.length) :
    sampleDeviation (rs.map number) = number √(scattering rs / (rs.length - 1)) := by
  have some : rs ≠ [] := List.ne_nil_of_length_pos (Nat.zero_lt_of_lt several)
  have positive : (0 : ℝ) < rs.length - 1 := sub_pos.mpr (Nat.one_lt_cast.mpr several)
  have nonneg : 0 ≤ scattering rs / (rs.length - 1) := div_nonneg (scattering_nonneg rs) positive.le
  have enough : ¬rs.length < 2 := Nat.not_lt.mpr several
  simp only [sampleDeviation, defined_map_number, List.length_map, enough, if_false, scatter_map_number rs some,
    ofNat_eq, number_sub, Nat.cast_one, number_div positive.ne', sqrt_number nonneg]

end

section

variable (xs : List Precise)

/-- The mean is that of the numbers among the samples, if there are any. -/
theorem mean_eq : mean xs =
    if (numbers xs).length < 1 then undefined else number ((numbers xs).sum / (numbers xs).length) := by
  rw [mean, defined_eq]
  generalize numbers xs = rs
  cases rs with
  | nil => rfl
  | cons r rs =>
    have some : ¬(r :: rs).length < 1 := by simp
    rw [if_neg some]
    exact average_map_number (r :: rs) (List.cons_ne_nil r rs)

theorem deviation_eq : deviation xs =
    if (numbers xs).length < 1 then undefined else number √(scattering (numbers xs) / (numbers xs).length) := by
  rw [deviation, defined_eq]
  generalize numbers xs = rs
  cases rs with
  | nil => rfl
  | cons r rs =>
    have count : ((r :: rs).length : ℝ) ≠ 0 := cast_length_ne_zero (List.cons_ne_nil r rs)
    have nonneg : 0 ≤ scattering (r :: rs) / (r :: rs).length := div_nonneg (scattering_nonneg _) (Nat.cast_nonneg _)
    have filled : ((r :: rs).map number).isEmpty = false := rfl
    have some : ¬(r :: rs).length < 1 := by simp
    rw [if_neg some]
    simp only [filled, Bool.false_eq_true, if_false, scatter_map_number _ (List.cons_ne_nil r rs), List.length_map,
      ofNat_eq, number_div count, sqrt_number nonneg]

/-- The margin is the quantile times the error of the mean. -/
theorem marginOfError_eq (quantile : Precise → Precise → Precise) (confidence : Precise) :
    marginOfError quantile confidence xs =
      if (numbers xs).length < 2 then undefined
      else quantile (Arith.ofNat 1 - (Arith.ofNat 1 - confidence) / Arith.ofNat 2)
          (Arith.ofNat ((numbers xs).length - 1)) *
        number (√(scattering (numbers xs) / ((numbers xs).length - 1)) / √(numbers xs).length) := by
  rw [marginOfError, defined_eq]
  generalize numbers xs = rs
  rcases Nat.lt_or_ge 1 rs.length with several | few
  · have positive : (0 : ℝ) < rs.length := Nat.cast_pos.mpr (Nat.zero_lt_of_lt several)
    rw [if_neg (Nat.not_lt.mpr several)]
    simp only [List.length_map, several.not_ge, if_false, sampleDeviation_map_number rs several, ofNat_eq,
      sqrt_number positive.le, number_div (Real.sqrt_pos.mpr positive).ne']
  · rw [if_pos (Nat.lt_succ_of_le few)]
    exact if_pos ((List.length_map ..).trans_le few)

/-- A spread is zero only if the numbers are all the same. -/
theorem sqrt_scattering_eq_zero_iff {k : ℝ} (positive : 0 < k) :
    √(scattering (numbers xs) / k) = 0 ↔ ∃ m, ∀ r ∈ numbers xs, r = m := by
  rw [Real.sqrt_eq_zero (div_nonneg (scattering_nonneg _) positive.le), div_eq_zero_iff, or_iff_left positive.ne',
    scattering_eq_zero_iff]

end

variable {xs : List Precise}

/-- The laws of a deviation that is defined. -/
theorem deviation_of_number {d : ℝ} (value : deviation xs = number d) :
    0 ≤ d ∧ (d = 0 ↔ ∃ m, ∀ r ∈ numbers xs, r = m) ∧ d ^ 2 * (numbers xs).length = scattering (numbers xs) := by
  rw [deviation_eq] at value
  split at value
  · cases value
  · rename_i some
    obtain rfl := number.inj value
    have count : (0 : ℝ) < (numbers xs).length := Nat.cast_pos.mpr (Nat.not_lt.mp some)
    refine ⟨Real.sqrt_nonneg _, sqrt_scattering_eq_zero_iff xs count, ?_⟩
    rw [Real.sq_sqrt (div_nonneg (scattering_nonneg _) count.le), div_mul_cancel₀ _ count.ne']

section

variable {quantile : Precise → Precise → Precise} {confidence : Precise}
  (positive : ∀ df : Nat, 0 < df → ∃ t, 0 < t ∧
    quantile (Arith.ofNat 1 - (Arith.ofNat 1 - confidence) / Arith.ofNat 2) (Arith.ofNat df) = number t)

include positive

/-- With two samples or more the margin is a positive multiple of a root. -/
theorem exists_marginOfError (several : 1 < (numbers xs).length) : ∃ t, 0 < t ∧
    quantile (Arith.ofNat 1 - (Arith.ofNat 1 - confidence) / Arith.ofNat 2)
      (Arith.ofNat ((numbers xs).length - 1)) = number t ∧
    marginOfError quantile confidence xs =
      number (t * (√(scattering (numbers xs) / ((numbers xs).length - 1)) / √(numbers xs).length)) := by
  obtain ⟨t, above, value⟩ := positive ((numbers xs).length - 1) (Nat.sub_pos_of_lt several)
  exact ⟨t, above, value, by rw [marginOfError_eq, if_neg (Nat.not_lt.mpr several), value, number_mul]⟩

/-- The laws of a margin that is defined. -/
theorem marginOfError_of_number {d : ℝ} (value : marginOfError quantile confidence xs = number d) :
    0 ≤ d ∧ (d = 0 ↔ ∃ m, ∀ r ∈ numbers xs, r = m) ∧ ∃ t,
      quantile (Arith.ofNat 1 - (Arith.ofNat 1 - confidence) / Arith.ofNat 2)
        (Arith.ofNat ((numbers xs).length - 1)) = number t ∧
      d ^ 2 * ((numbers xs).length * ((numbers xs).length - 1)) = t ^ 2 * scattering (numbers xs) := by
  rcases Nat.lt_or_ge 1 (numbers xs).length with several | few
  · obtain ⟨t, above, point, margin⟩ := exists_marginOfError positive several
    obtain rfl := number.inj (margin.symm.trans value)
    have count : (0 : ℝ) < (numbers xs).length := Nat.cast_pos.mpr (Nat.zero_lt_of_lt several)
    have others : (0 : ℝ) < (numbers xs).length - 1 := sub_pos.mpr (Nat.one_lt_cast.mpr several)
    refine ⟨by positivity, ?_, t, point, ?_⟩
    · rw [mul_eq_zero, or_iff_right above.ne', div_eq_zero_iff, or_iff_left (Real.sqrt_pos.mpr count).ne',
        sqrt_scattering_eq_zero_iff xs others]
    · rw [mul_pow, div_pow, Real.sq_sqrt (div_nonneg (scattering_nonneg _) others.le), Real.sq_sqrt count.le]
      field_simp
  · rw [marginOfError_eq, if_pos (Nat.lt_succ_of_le few)] at value
    cases value

/-- A margin needs two numbers. -/
theorem marginOfError_eq_undefined_iff :
    marginOfError quantile confidence xs = undefined ↔ (numbers xs).length < 2 := by
  constructor
  · intro unknown
    by_contra several
    obtain ⟨t, -, -, margin⟩ := exists_marginOfError positive (Nat.not_lt.mp several)
    cases unknown.symm.trans margin
  · intro few
    rw [marginOfError_eq, if_pos few]

end

theorem mean_eq_undefined_iff : mean xs = undefined ↔ numbers xs = [] := by
  rw [mean_eq, ← List.length_eq_zero_iff, ← Nat.lt_one_iff]
  split <;> simp_all

theorem mean_of_number {m : ℝ} (value : mean xs = number m) : m * (numbers xs).length = (numbers xs).sum := by
  rw [mean_eq] at value
  split at value
  · cases value
  · rename_i some
    obtain rfl := number.inj value
    exact div_mul_cancel₀ _ (Nat.cast_ne_zero.mpr (Nat.ne_of_gt (Nat.not_lt.mp some)))

theorem deviation_eq_undefined_iff : deviation xs = undefined ↔ numbers xs = [] := by
  rw [deviation_eq, ← List.length_eq_zero_iff, ← Nat.lt_one_iff]
  split <;> simp_all

end Stats

namespace CampaignSummary

open Precise Stats

/-- What is undefined is left out by all statistics. -/
theorem spreadOf_congr {α : Type} [Scalar α] (quantile : α → α → α) (s : CampaignSettings α) {xs ys : List α}
    (same : defined xs = defined ys) : spreadOf quantile s xs = spreadOf quantile s ys := by
  simp only [spreadOf, mean, deviation, marginOfError, same]

/-- The order of the numbers does not matter, nor does what stands between them. -/
theorem spreadOf_perm (quantile : Precise → Precise → Precise) (s : CampaignSettings Precise) {xs ys : List Precise}
    (same : (numbers xs).Perm (numbers ys)) : spreadOf quantile s xs = spreadOf quantile s ys := by
  simp only [spreadOf, mean_eq, deviation_eq, marginOfError_eq, same.sum_eq, same.length_eq, scattering_perm same]

/-- A campaign is the same in every order of its runs. -/
theorem ofRuns_perm (quantile : Precise → Precise → Precise) (s : CampaignSettings Precise)
    {runs others : List (RunScalars Precise)} (same : runs.Perm others) :
    ofRuns quantile s runs = ofRuns quantile s others := by
  have metric (f : RunScalars Precise → Precise) :
      spreadOf quantile s (runs.map f) = spreadOf quantile s (others.map f) :=
    spreadOf_perm quantile s ((same.map f).filterMap _)
  simp only [ofRuns, metric, same.length_eq]

/-- This is the mean of the numbers with their spread, of which the square is given. -/
structure Summarizes (quantile : Precise → Precise → Precise) (s : CampaignSettings Precise) (rs : List ℝ)
    (summary : MeanSpread Precise) : Prop where
  mean_undefined_iff : summary.mean = undefined ↔ rs = []
  mean_mul_length : ∀ m, summary.mean = number m → m * rs.length = rs.sum
  deviation_undefined_iff : s.spread = .deviation → (summary.spread = undefined ↔ rs = [])
  margin_undefined_iff : s.spread = .confidence → (summary.spread = undefined ↔ rs.length < 2)
  nonneg : ∀ d, summary.spread = number d → 0 ≤ d
  eq_zero_iff : ∀ d, summary.spread = number d → (d = 0 ↔ ∃ m, ∀ r ∈ rs, r = m)
  deviation_sq : s.spread = .deviation → ∀ d, summary.spread = number d → d ^ 2 * rs.length = scattering rs
  margin_sq : s.spread = .confidence → ∀ d, summary.spread = number d → ∃ t,
    quantile (Arith.ofNat 1 - (Arith.ofNat 1 - s.confidenceLevel) / Arith.ofNat 2) (Arith.ofNat (rs.length - 1)) =
        number t ∧
      d ^ 2 * (rs.length * (rs.length - 1)) = t ^ 2 * scattering rs

/-- The mean and the spread of samples are those of the numbers among them. -/
theorem summarizes_spreadOf {quantile : Precise → Precise → Precise} {s : CampaignSettings Precise}
    (positive : ∀ df : Nat, 0 < df → ∃ t, 0 < t ∧
      quantile (Arith.ofNat 1 - (Arith.ofNat 1 - s.confidenceLevel) / Arith.ofNat 2) (Arith.ofNat df) = number t)
    (xs : List Precise) : Summarizes quantile s (numbers xs) (spreadOf quantile s xs) := by
  obtain ⟨kind, level⟩ := s
  cases kind with
  | deviation =>
    exact {
      mean_undefined_iff := mean_eq_undefined_iff
      mean_mul_length := fun _ => mean_of_number
      deviation_undefined_iff := fun _ => deviation_eq_undefined_iff
      margin_undefined_iff := nofun
      nonneg := fun _ value => (deviation_of_number value).1
      eq_zero_iff := fun _ value => (deviation_of_number value).2.1
      deviation_sq := fun _ _ value => (deviation_of_number value).2.2
      margin_sq := nofun }
  | confidence =>
    exact {
      mean_undefined_iff := mean_eq_undefined_iff
      mean_mul_length := fun _ => mean_of_number
      deviation_undefined_iff := nofun
      margin_undefined_iff := fun _ => marginOfError_eq_undefined_iff positive
      nonneg := fun _ value => (marginOfError_of_number positive value).1
      eq_zero_iff := fun _ value => (marginOfError_of_number positive value).2.1
      deviation_sq := nofun
      margin_sq := fun _ _ value => (marginOfError_of_number positive value).2.2 }

/-- Without rounding, the mean and the spread are those of the numbers among the samples in any order, for every quantile
that is positive. Rounded or not, they do not depend on the samples that are not finite. -/
theorem spreadOf_precise (quantile : Precise → Precise → Precise) (s : CampaignSettings Precise)
    (positive : ∀ df : Nat, 0 < df → ∃ t, 0 < t ∧
      quantile (Arith.ofNat 1 - (Arith.ofNat 1 - s.confidenceLevel) / Arith.ofNat 2) (Arith.ofNat df) = number t) :
    (∀ xs ys, (numbers xs).Perm (numbers ys) → spreadOf quantile s xs = spreadOf quantile s ys) ∧
    (∀ xs, Summarizes quantile s (numbers xs) (spreadOf quantile s xs)) ∧
    (∀ runs others : List (RunScalars Precise), runs.Perm others → ofRuns quantile s runs = ofRuns quantile s others) ∧
    ∀ (rounded : CampaignSettings Float) (xs ys : List Float), xs.filter Float.isFinite = ys.filter Float.isFinite →
      spreadOf Student.quantile rounded xs = spreadOf Student.quantile rounded ys :=
  ⟨fun _ _ same => spreadOf_perm quantile s same, summarizes_spreadOf positive,
    fun _ _ same => ofRuns_perm quantile s same, fun rounded _ _ same => spreadOf_congr _ rounded same⟩

/-- The quantiles of Student's distribution with two degrees of freedom. -/
noncomputable def twoDegreesQuantile : Precise → Precise → Precise
  | number p, _ => number ((2 * p - 1) * √(1 / (2 * p * (1 - p))))
  | undefined, _ => undefined

/-- Three numbers and two samples without a value, in two orders. -/
theorem spreadOf_precise_threeSamples :
    let s : CampaignSettings Precise := ⟨.confidence, number (19 / 20)⟩
    let samples := [number 1, undefined, number 2, number 6]
    spreadOf twoDegreesQuantile s samples =
        spreadOf twoDegreesQuantile s [undefined, number 6, undefined, number 1, number 2] ∧
      (spreadOf twoDegreesQuantile s samples).mean = number 3 ∧
      ∃ d, (spreadOf twoDegreesQuantile s samples).spread = number d ∧ 0 < d := by
  intro s samples
  have level : (Arith.ofNat 1 - (Arith.ofNat 1 - s.confidenceLevel) / Arith.ofNat 2 : Precise) = number (39 / 40) := by
    simp only [s, ofNat_eq, number_sub]
    rw [number_div (by norm_num), number_sub]
    norm_num
  obtain ⟨same, spread, -⟩ := spreadOf_precise twoDegreesQuantile s fun df _ => by
    rw [level]
    exact ⟨_, by positivity, rfl⟩
  have laws := spread samples
  have three : numbers samples = [1, 2, 6] := rfl
  rw [three] at laws
  refine ⟨same _ _ (List.perm_append_comm : ([1, 2] ++ [6] : List ℝ).Perm ([6] ++ [1, 2])), ?_, ?_⟩
  · cases value : (spreadOf twoDegreesQuantile s samples).mean with
    | undefined => exact absurd (laws.mean_undefined_iff.mp value) (List.cons_ne_nil _ _)
    | number m =>
      have product := laws.mean_mul_length m value
      norm_num at product
      exact congrArg number (by linarith)
  · cases value : (spreadOf twoDegreesQuantile s samples).spread with
    | undefined => exact absurd ((laws.margin_undefined_iff rfl).mp value) (by decide)
    | number d =>
      refine ⟨d, rfl, (laws.nonneg d value).lt_of_ne' fun none => ?_⟩
      obtain ⟨m, all⟩ := (laws.eq_zero_iff d value).mp none
      have different : (1 : ℝ) = 2 := (all 1 (by simp)).trans (all 2 (by simp)).symm
      norm_num at different

end CampaignSummary

end MeshTrace
