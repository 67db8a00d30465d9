import MeshTrace.Proofs.Number.Exact
import MeshTrace.Proofs.Number.Squares
import MeshTrace.Run.Summary

namespace MeshTrace

open Exact

namespace Exact

theorem exists_percentage (part whole : Nat) : ∃ q, Arith.percentage part whole = number q := by
  unfold Arith.percentage
  split
  · exact ⟨0, rfl⟩
  · rename_i nonzero
    exact ⟨_, number_div (Nat.cast_ne_zero.mpr nonzero)⟩

end Exact

namespace Fairness

/-- The index as a number: the square of the sum over the count and the sum of the squares. -/
def jain (qs : List ℚ) : ℚ := qs.sum ^ 2 / (qs.length * (qs.map (· ^ 2)).sum)

theorem index_map_number (qs : List ℚ) : index (qs.map number) = number (jain qs) := by
  have squares : Arith.total ((qs.map number).map fun v => v * v) = number (qs.map (· ^ 2)).sum := by
    have each : (qs.map number).map (fun v => v * v) = (qs.map (· ^ 2)).map number := by
      rw [List.map_map, List.map_map]
      exact List.map_congr_left fun q _ => congrArg number (sq q).symm
    rw [each, total_map_number]
  have whole : index (qs.map number) = if qs = [] ∨ (qs.map (· ^ 2)).sum = 0 then number 0 else
      number qs.sum * number qs.sum / (number qs.length * number (qs.map (· ^ 2)).sum) := by
    simp [index, squares, total_map_number, isZero_number, -List.map_map]
  rw [whole]
  split
  · rename_i degenerate
    rcases degenerate with rfl | zero
    · simp [jain]
    · rw [jain, zero, mul_zero, div_zero]
  · rename_i proper
    obtain ⟨nonempty, nonzero⟩ := not_or.mp proper
    rw [number_mul, number_mul, number_div (mul_ne_zero (cast_length_ne_zero nonempty) nonzero), jain, sq]

variable (qs : List ℚ)

theorem sum_sq_nonneg : 0 ≤ (qs.map (· ^ 2)).sum := by
  simpa only [sub_zero] using sum_sq_sub_nonneg qs 0

theorem sum_sq_eq_zero_iff : (qs.map (· ^ 2)).sum = 0 ↔ ∀ q ∈ qs, q = 0 := by
  simpa only [sub_zero] using sum_sq_sub_eq_zero_iff qs 0

theorem jain_nonneg : 0 ≤ jain qs :=
  div_nonneg (sq_nonneg _) (mul_nonneg (Nat.cast_nonneg _) (sum_sq_nonneg qs))

/-- The index is at most one. -/
theorem jain_le_one : jain qs ≤ 1 :=
  div_le_one_of_le₀ (sq_sum_le_length_mul qs) (mul_nonneg (Nat.cast_nonneg _) (sum_sq_nonneg qs))

/-- The index is zero if nothing is shared. -/
theorem jain_eq_zero_iff : jain qs = 0 ↔ qs = [] ∨ qs.sum = 0 := by
  rw [jain, div_eq_zero_iff, sq_eq_zero_iff, mul_eq_zero, Nat.cast_eq_zero, List.length_eq_zero_iff, sum_sq_eq_zero_iff]
  constructor
  · rintro (zero | rfl | zeros)
    · exact Or.inr zero
    · exact Or.inl rfl
    · exact Or.inr (List.sum_eq_zero zeros)
  · rintro (rfl | zero)
    · exact Or.inr (Or.inl rfl)
    · exact Or.inl zero

/-- The index is one if nothing scatters around the mean. -/
theorem jain_eq_one_iff : jain qs = 1 ↔ qs ≠ [] ∧ ∃ v, v ≠ 0 ∧ ∀ q ∈ qs, q = v := by
  constructor
  · intro one
    have proper : ¬(qs = [] ∨ qs.sum = 0) := by
      rw [← jain_eq_zero_iff, one]
      exact one_ne_zero
    obtain ⟨nonempty, sum⟩ := not_or.mp proper
    have count : (qs.length : ℚ) ≠ 0 := cast_length_ne_zero nonempty
    have same : qs.sum ^ 2 = qs.length * (qs.map (· ^ 2)).sum := eq_of_div_eq_one one
    have scatter := sum_sq_sub_mean qs
    rw [same, sub_self] at scatter
    exact ⟨nonempty, _, div_ne_zero sum count,
      (sum_sq_sub_eq_zero_iff qs _).mp ((mul_eq_zero.mp scatter).resolve_left count)⟩
  · rintro ⟨nonempty, v, nonzero, equal⟩
    have count : (qs.length : ℚ) ≠ 0 := cast_length_ne_zero nonempty
    have each : ∀ square ∈ qs.map (· ^ 2), square = v ^ 2 := by
      intro square member
      obtain ⟨q, among, rfl⟩ := List.mem_map.mp member
      rw [equal q among]
    have sum : qs.sum = qs.length * v := by rw [List.sum_eq_card_nsmul qs v equal, nsmul_eq_mul]
    have squares : (qs.map (· ^ 2)).sum = qs.length * v ^ 2 := by
      rw [List.sum_eq_card_nsmul _ _ each, List.length_map, nsmul_eq_mul]
    rw [jain, sum, squares]
    field_simp

/-- Without negative values the index is at least that of a single value among zeros. -/
theorem le_jain (nonneg : ∀ q ∈ qs, 0 ≤ q) (nonzero : ∃ q ∈ qs, q ≠ 0) : 1 / qs.length ≤ jain qs := by
  have squares : 0 < (qs.map (· ^ 2)).sum := by
    refine (sum_sq_nonneg qs).lt_of_ne' fun zero => ?_
    obtain ⟨q, member, nonzero⟩ := nonzero
    exact nonzero ((sum_sq_eq_zero_iff qs).mp zero q member)
  calc (1 : ℚ) / qs.length
    _ = (qs.map (· ^ 2)).sum / (qs.length * (qs.map (· ^ 2)).sum) := by
      rw [mul_comm, div_mul_cancel_left₀ squares.ne', one_div]
    _ ≤ jain qs := div_le_div_of_nonneg_right (sum_sq_le_sq_sum nonneg) (mul_nonneg (Nat.cast_nonneg _) squares.le)

variable {qs} in
/-- The index does not depend on the order. -/
theorem jain_perm {others : List ℚ} (same : others.Perm qs) : jain others = jain qs := by
  rw [jain, jain, same.sum_eq, same.length_eq, (same.map _).sum_eq]

/-- The index does not depend on the scale. -/
theorem jain_map_mul {c : ℚ} (nonzero : c ≠ 0) : jain (qs.map (c * ·)) = jain qs := by
  have squares : ((qs.map (c * ·)).map (· ^ 2)).sum = c ^ 2 * (qs.map (· ^ 2)).sum := by
    rw [List.map_map, ← List.sum_map_mul_left]
    exact congrArg List.sum (List.map_congr_left fun q _ => mul_pow c q 2)
  have sum : (qs.map (c * ·)).sum = c * qs.sum := by rw [List.sum_map_mul_left, List.map_id']
  rw [jain, squares, sum, List.length_map, mul_pow, mul_left_comm, mul_div_mul_left _ _ (pow_ne_zero 2 nonzero), jain]

end Fairness

namespace RunSummary

/-- The index over some records is that of the numbers among their values. -/
theorem fairnessOf_eq (f : NodeRecord Exact → Exact) (records : List (NodeRecord Exact)) :
    fairnessOf f records = number (Fairness.jain ((Stats.defined (records.map f)).map toRat)) := by
  rw [← Fairness.index_map_number, ← defined_eq, fairnessOf]

/-- The index of every metric is a number between zero and one. -/
theorem fairnessOf_bounds (f : NodeRecord Exact → Exact) (records : List (NodeRecord Exact)) :
    ∃ j, fairnessOf f records = number j ∧ 0 ≤ j ∧ j ≤ 1 :=
  ⟨_, fairnessOf_eq f records, Fairness.jain_nonneg _, Fairness.jain_le_one _⟩

/-- Where every record has the same share, the index is one. -/
theorem fairnessOf_eq_one {f : NodeRecord Exact → Exact} {records : List (NodeRecord Exact)} (nonempty : records ≠ [])
    {v : ℚ} (nonzero : v ≠ 0) (equal : ∀ r ∈ records, f r = number v) : fairnessOf f records = number 1 := by
  rw [fairnessOf_eq]
  refine congrArg number ((Fairness.jain_eq_one_iff _).mpr ⟨?_, v, nonzero, ?_⟩)
  · obtain ⟨r, member⟩ := List.exists_mem_of_ne_nil _ nonempty
    have kept : f r ∈ Stats.defined (records.map f) :=
      List.mem_filter.mpr ⟨List.mem_map_of_mem member, by rw [equal r member]; rfl⟩
    exact List.ne_nil_of_mem (List.mem_map_of_mem kept)
  · rintro q member
    obtain ⟨x, kept, rfl⟩ := List.mem_map.mp member
    obtain ⟨r, among, rfl⟩ := List.mem_map.mp (List.mem_of_mem_filter kept)
    rw [equal r among, toRat_number]

theorem exists_pdr_of_mem {trace : TrackedTrace Exact} {s : Settings Exact} {r : NodeRecord Exact}
    (member : r ∈ (ofTrace trace s).nodes) : ∃ q, r.pdr = number q := by
  obtain ⟨n, -, rfl⟩ := List.mem_map.mp (List.mem_of_mem_filter member)
  simp only [Node.record]
  split
  · exact exists_percentage _ _
  · exact ⟨0, rfl⟩

/-- Computed without rounding, Jain's index is an index of fairness, and so are the four of every run. -/
theorem fairness_ofTrace_exact :
    (∀ qs : List ℚ, ∃ j, Fairness.index (qs.map number) = number j ∧ 0 ≤ j ∧ j ≤ 1 ∧
      (j = 0 ↔ qs = [] ∨ qs.sum = 0) ∧ (j = 1 ↔ qs ≠ [] ∧ ∃ v, v ≠ 0 ∧ ∀ q ∈ qs, q = v) ∧
      ((∀ q ∈ qs, 0 ≤ q) → (∃ q ∈ qs, q ≠ 0) → 1 / qs.length ≤ j) ∧
      (∀ others : List ℚ, others.Perm qs → Fairness.index (others.map number) = number j) ∧
      ∀ c : ℚ, c ≠ 0 → Fairness.index ((qs.map (c * ·)).map number) = number j) ∧
    ∀ (trace : TrackedTrace Exact) (s : Settings Exact), let run := ofTrace trace s
      (∀ index ∈ [run.fairness.pdr, run.fairness.parentSwitches, run.fairness.delay, run.fairness.jitter],
        ∃ j, index = number j ∧ 0 ≤ j ∧ j ≤ 1) ∧
      ((∃ r ∈ run.nodes, 0 < r.packetsReceived) → ∀ p, p ≠ number 0 →
        (∀ r ∈ run.nodes, 0 < r.packetsReceived → r.pdr = p) → run.fairness.pdr = number 1) := by
  refine ⟨fun qs => ?_, fun trace s => ⟨?_, ?_⟩⟩
  · refine ⟨Fairness.jain qs, Fairness.index_map_number qs, Fairness.jain_nonneg qs, Fairness.jain_le_one qs,
      Fairness.jain_eq_zero_iff qs, Fairness.jain_eq_one_iff qs, Fairness.le_jain qs, fun others same => ?_,
      fun c nonzero => ?_⟩
    · rw [Fairness.index_map_number, Fairness.jain_perm same]
    · rw [Fairness.index_map_number, Fairness.jain_map_mul qs nonzero]
  · simp only [List.forall_mem_cons, List.not_mem_nil, false_implies, implies_true, and_true]
    exact ⟨fairnessOf_bounds .., fairnessOf_bounds .., fairnessOf_bounds .., fairnessOf_bounds ..⟩
  · rintro ⟨r, listed, delivered⟩ p nonzero equal
    obtain ⟨v, value⟩ := exists_pdr_of_mem listed
    obtain rfl : p = number v := (equal r listed delivered).symm.trans value
    have delivering : r ∈ (ofTrace trace s).nodes.filter (0 < ·.packetsReceived) :=
      List.mem_filter.mpr ⟨listed, decide_eq_true delivered⟩
    refine fairnessOf_eq_one (List.ne_nil_of_mem delivering) (fun zero => nonzero (congrArg number zero)) ?_
    intro r member
    obtain ⟨among, received⟩ := List.mem_filter.mp member
    exact equal r among (of_decide_eq_true received)

/-- Nodes two and three send two packets each, of which one arrives; no packet of node four arrives. -/
def halvesArrive : List Event :=
  [⟨1000, 2, .packetSent 1, ""⟩, ⟨1500, 3, .packetSent 1, ""⟩, ⟨2000, 4, .packetSent 1, ""⟩,
    ⟨2500, 1, .packetReceived 1 2, ""⟩, ⟨3000, 2, .packetSent 2, ""⟩, ⟨3500, 3, .packetSent 2, ""⟩,
    ⟨4000, 1, .packetReceived 2 3, ""⟩]

/-- Two nodes each have half of their packets delivered. -/
theorem fairness_ofTrace_exact_halvesArrive :
    let t : Tracker Exact := halvesArrive.foldl Tracker.apply .start
    let run := ofTrace (t.finish none) settings
    run.nodes.map (·.pdr) = [number 50, number 50, number 0] ∧ run.fairness.pdr = number 1 ∧
      ∃ j, Fairness.index ([50, 50, 0].map number) = number j ∧ 1 / 3 ≤ j := by
  intro t run
  obtain ⟨index, runs⟩ := fairness_ofTrace_exact
  obtain ⟨j, value, -, -, -, -, bound, -⟩ := index [50, 50, 0]
  refine ⟨by decide +kernel, (runs (t.finish none) settings).2 ?_ (number 50) (by decide) ?_, j, value, ?_⟩
  · decide +kernel
  · decide +kernel
  · exact bound (by decide) (by decide)

end RunSummary

end MeshTrace
