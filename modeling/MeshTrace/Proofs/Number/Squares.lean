import Mathlib.Algebra.Order.BigOperators.Group.List
import Mathlib.Algebra.Order.Field.Basic
import Mathlib.Algebra.BigOperators.Ring.List
import Mathlib.Tactic.FieldSimp
import Mathlib.Tactic.Ring

namespace MeshTrace

variable {K : Type} [Field K] [LinearOrder K] [IsStrictOrderedRing K] (xs : List K) (c : K)

variable {xs} in
theorem cast_length_ne_zero (nonempty : xs ≠ []) : (xs.length : K) ≠ 0 :=
  Nat.cast_ne_zero.mpr (List.length_pos_iff.mpr nonempty).ne'

theorem sum_sq_sub_nonneg : 0 ≤ (xs.map fun x => (x - c) ^ 2).sum := by
  refine List.sum_nonneg fun y member => ?_
  obtain ⟨x, -, rfl⟩ := List.mem_map.mp member
  exact sq_nonneg _

/-- Numbers do not scatter around `c` only if all are `c`. -/
theorem sum_sq_sub_eq_zero_iff : (xs.map fun x => (x - c) ^ 2).sum = 0 ↔ ∀ x ∈ xs, x = c := by
  induction xs with
  | nil => simp
  | cons x xs ih =>
    rw [List.map_cons, List.sum_cons, add_eq_zero_iff_of_nonneg (sq_nonneg _) (sum_sq_sub_nonneg xs c), sq_eq_zero_iff,
      sub_eq_zero, ih, List.forall_mem_cons]

/-- By how much the square of a sum falls short of the count times the sum of the squares: the count times the scatter
around the mean. -/
theorem sum_sq_sub_mean :
    xs.length * (xs.map fun x => (x - xs.sum / xs.length) ^ 2).sum = xs.length * (xs.map (· ^ 2)).sum - xs.sum ^ 2 := by
  rcases eq_or_ne xs [] with rfl | nonempty
  · simp
  have count : (xs.length : K) ≠ 0 := cast_length_ne_zero nonempty
  have expanded (m : K) : (xs.map fun x => (x - m) ^ 2).sum =
      (xs.map (· ^ 2)).sum - 2 * m * xs.sum + xs.length * m ^ 2 := by
    clear nonempty count
    induction xs with
    | nil => simp
    | cons x xs ih =>
      simp only [List.map_cons, List.sum_cons, List.length_cons, ih]
      push_cast
      ring
  rw [expanded]
  field_simp
  ring

/-- The square of the sum is at most the count times the sum of the squares. -/
theorem sq_sum_le_length_mul : xs.sum ^ 2 ≤ xs.length * (xs.map (· ^ 2)).sum := by
  rw [← sub_nonneg, ← sum_sq_sub_mean]
  exact mul_nonneg (Nat.cast_nonneg _) (sum_sq_sub_nonneg ..)

/-- Without negative numbers it is at least the sum of the squares. -/
theorem sum_sq_le_sq_sum {xs : List K} (nonneg : ∀ x ∈ xs, 0 ≤ x) : (xs.map (· ^ 2)).sum ≤ xs.sum ^ 2 := by
  induction xs with
  | nil => simp
  | cons x xs ih =>
    obtain ⟨first, others⟩ := List.forall_mem_cons.mp nonneg
    have cross : 0 ≤ 2 * x * xs.sum := mul_nonneg (mul_nonneg zero_le_two first) (List.sum_nonneg others)
    calc ((x :: xs).map (· ^ 2)).sum
      _ = x ^ 2 + (xs.map (· ^ 2)).sum := by rw [List.map_cons, List.sum_cons]
      _ ≤ x ^ 2 + 2 * x * xs.sum + xs.sum ^ 2 := add_le_add (le_add_of_nonneg_right cross) (ih others)
      _ = (x :: xs).sum ^ 2 := by rw [List.sum_cons]; ring

end MeshTrace
