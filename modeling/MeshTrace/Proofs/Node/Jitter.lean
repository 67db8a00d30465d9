import Mathlib.Algebra.BigOperators.Intervals
import Mathlib.Algebra.BigOperators.Ring.Finset
import Mathlib.Algebra.Order.Ring.Abs
import Mathlib.Data.List.GetD
import Mathlib.Tactic.Linarith
import Mathlib.Tactic.NormNum
import Mathlib.Tactic.Ring
import MeshTrace.Node.Delay
import MeshTrace.Proofs.Number.Exact

namespace MeshTrace.Delay

open Arith Exact

/-- How much a delay differs from the one before it; the first delay is at place zero. -/
def change (delays : List Int) (k : Nat) : ℚ := |(delays.getD k 0 : ℚ) - delays.getD (k - 1) 0|

/-- The changes as numbers. -/
theorem changes_eq (delays : List Int) :
    changes delays = (List.range (delays.length - 1)).map fun i => number (change delays (i + 1)) := by
  fun_induction changes (α := Exact) delays with
  | case1 a b rest ih =>
    have count : (a :: b :: rest).length - 1 = rest.length + 1 := rfl
    rw [ih, count, List.range_succ_eq_map, List.map_cons, List.map_map]
    rfl
  | case2 delays short =>
    match delays, short with
    | [], _ => rfl
    | [a], _ => rfl
    | a :: b :: rest, short => exact (short a b rest rfl).elim

/-- The smoothed change after the first `m + 1` changes. -/
def smoothed (d : Nat → ℚ) : Nat → ℚ
  | 0 => d 1
  | m + 1 => smoothed d m * (15 / 16) + d (m + 2) * (1 / 16)

theorem smooth_number (a b : ℚ) : smooth (number a) (number b) = number (a * (15 / 16) + b * (1 / 16)) := by
  have weight : (historyWeight : Exact) = number (15 / 16) := number_div (by norm_num)
  have rest : (ofNat 1 - historyWeight : Exact) = number (1 / 16) := by
    rw [weight, ofNat_eq, number_sub]
    norm_num
  rw [smooth, rest, weight, number_mul, number_mul, number_add]

theorem foldl_smooth (d : Nat → ℚ) (m : Nat) :
    ((List.range m).map fun i => number (d (i + 2))).foldl smooth (number (d 1)) = number (smoothed d m) := by
  induction m with
  | zero => rfl
  | succ m ih =>
    rw [List.range_succ, List.map_append, List.foldl_append, ih]
    exact smooth_number _ _

theorem jitter?_of_short {delays : List Int} (short : delays.length < 2) : (jitter? delays : Option Exact) = none := by
  have none : delays.length - 1 = 0 := by omega
  rw [jitter?, changes_eq, none]
  rfl

/-- Two delays or more have the smoothed change as their jitter. -/
theorem jitter?_of_several {delays : List Int} (several : 2 ≤ delays.length) :
    jitter? delays = some (number (smoothed (change delays) (delays.length - 2))) := by
  have count : delays.length - 1 = delays.length - 2 + 1 := by omega
  rw [jitter?, changes_eq, count, List.range_succ_eq_map, List.map_cons, List.map_map]
  exact congrArg some (foldl_smooth (change delays) (delays.length - 2))

section

variable (d : Nat → ℚ) (m : Nat)

/-- A change weighs less the longer it is ago. -/
theorem smoothed_eq_sum :
    smoothed d m = (15 / 16) ^ m * d 1 + ∑ k ∈ Finset.Icc 2 (m + 1), 1 / 16 * (15 / 16) ^ (m + 1 - k) * d k := by
  induction m with
  | zero => simp [smoothed]
  | succ m ih =>
    have older : ∑ k ∈ Finset.Icc 2 (m + 1), 1 / 16 * (15 / 16) ^ (m + 1 + 1 - k) * d k =
        (∑ k ∈ Finset.Icc 2 (m + 1), 1 / 16 * (15 / 16) ^ (m + 1 - k) * d k) * (15 / 16) := by
      rw [Finset.sum_mul]
      refine Finset.sum_congr rfl fun k member => ?_
      rw [Nat.sub_add_comm (Finset.mem_Icc.mp member).2, pow_succ]
      ring
    have latest : 2 ≤ m + 1 + 1 := by omega
    rw [smoothed, ih, Finset.sum_Icc_succ_top latest, older, Nat.sub_self]
    ring

/-- Some change is at most the smoothed one. -/
theorem exists_le_smoothed : ∃ k, 1 ≤ k ∧ k ≤ m + 1 ∧ d k ≤ smoothed d m := by
  induction m with
  | zero => exact ⟨1, le_refl _, le_refl _, le_refl _⟩
  | succ m ih =>
    obtain ⟨k, low, high, bound⟩ := ih
    rcases le_total (d (m + 2)) (smoothed d m) with below | above
    · exact ⟨m + 2, by omega, le_refl _, by rw [smoothed]; linarith⟩
    · exact ⟨k, low, by omega, by rw [smoothed]; linarith⟩

/-- Some change is at least the smoothed one. -/
theorem exists_smoothed_le : ∃ k, 1 ≤ k ∧ k ≤ m + 1 ∧ smoothed d m ≤ d k := by
  induction m with
  | zero => exact ⟨1, le_refl _, le_refl _, le_refl _⟩
  | succ m ih =>
    obtain ⟨k, low, high, bound⟩ := ih
    rcases le_total (d (m + 2)) (smoothed d m) with below | above
    · exact ⟨k, low, by omega, by rw [smoothed]; linarith⟩
    · exact ⟨m + 2, by omega, le_refl _, by rw [smoothed]; linarith⟩

theorem smoothed_nonneg (nonneg : ∀ k, 0 ≤ d k) : 0 ≤ smoothed d m := by
  obtain ⟨k, -, -, bound⟩ := exists_le_smoothed d m
  exact (nonneg k).trans bound

/-- Every change leaves a trace in what is smoothed. -/
theorem smoothed_eq_zero_iff (nonneg : ∀ k, 0 ≤ d k) : smoothed d m = 0 ↔ ∀ k, 1 ≤ k → k ≤ m + 1 → d k = 0 := by
  induction m with
  | zero =>
    refine ⟨fun zero k low high => ?_, fun zero => zero 1 (le_refl _) (le_refl _)⟩
    obtain rfl : k = 1 := by omega
    exact zero
  | succ m ih =>
    have history := smoothed_nonneg d m nonneg
    have last := nonneg (m + 2)
    constructor
    · intro zero k low high
      rw [smoothed] at zero
      rcases Nat.lt_or_ge k (m + 2) with earlier | latest
      · exact ih.mp (by linarith) k low (by omega)
      · obtain rfl : k = m + 2 := by omega
        linarith
    · intro zero
      rw [smoothed, ih.mpr fun k low high => zero k low (by omega), zero (m + 2) (by omega) (by omega)]
      norm_num

theorem smoothed_mul (r : ℚ) : smoothed (fun k => r * d k) m = r * smoothed d m := by
  induction m with
  | zero => rfl
  | succ m ih =>
    rw [smoothed, smoothed, ih]
    ring

end

theorem change_nonneg (delays : List Int) (k : Nat) : 0 ≤ change delays k := abs_nonneg _

/-- There is no change only between equal delays. -/
theorem change_eq_zero_iff (delays : List Int) (k : Nat) :
    change delays k = 0 ↔ delays.getD k 0 = delays.getD (k - 1) 0 := by
  rw [change, abs_eq_zero, sub_eq_zero, Int.cast_inj]

/-- Delays do not change exactly if all are the same. -/
theorem forall_change_eq_zero_iff (delays : List Int) :
    (∀ k, 1 ≤ k → k < delays.length → change delays k = 0) ↔ ∃ v, ∀ a ∈ delays, a = v := by
  simp only [change_eq_zero_iff]
  constructor
  · intro steady
    have first (k : Nat) (within : k < delays.length) : delays.getD k 0 = delays.getD 0 0 := by
      induction k with
      | zero => rfl
      | succ k ih => exact (steady (k + 1) (by omega) within).trans (ih (by omega))
    refine ⟨delays.getD 0 0, fun a member => ?_⟩
    obtain ⟨k, within, rfl⟩ := List.mem_iff_getElem.mp member
    rw [← first k within, List.getD_eq_getElem _ _ within]
  · rintro ⟨v, all⟩ k low within
    have before : k - 1 < delays.length := by omega
    rw [List.getD_eq_getElem _ _ within, List.getD_eq_getElem _ _ before, all _ (List.getElem_mem within),
      all _ (List.getElem_mem before)]

theorem change_map_add (delays : List Int) (c : Int) {k : Nat} (within : k < delays.length) :
    change (delays.map (· + c)) k = change delays k := by
  have later {i : Nat} (within : i < delays.length) : (delays.map (· + c)).getD i 0 = delays.getD i 0 + c := by
    rw [List.getD_eq_getElem _ _ within, List.getD_eq_getElem _ _ (by rwa [List.length_map]), List.getElem_map]
  have before : k - 1 < delays.length := by omega
  rw [change, change, later within, later before, Int.cast_add, Int.cast_add, add_sub_add_right_eq_sub]

/-- The changes of later delays are the same. -/
theorem changes_map_add (delays : List Int) (c : Int) :
    (changes (delays.map (· + c)) : List Exact) = changes delays := by
  rw [changes_eq, changes_eq, List.length_map]
  refine List.map_congr_left fun i member => ?_
  have within : i + 1 < delays.length := by
    rw [List.mem_range] at member
    omega
  rw [change_map_add delays c within]

theorem change_of_scaled {delays others : List Int} {r : ℚ}
    (scaled : others.map (fun a : Int => (a : ℚ)) = delays.map fun a : Int => r * a) (k : Nat) :
    change others k = |r| * change delays k := by
  have each (k : Nat) : (others.getD k 0 : ℚ) = r * (delays.getD k 0 : ℚ) := by
    calc (others.getD k 0 : ℚ)
      _ = (others.map fun a : Int => (a : ℚ)).getD k (0 : Int) := (List.getD_map ..).symm
      _ = (delays.map fun a : Int => r * a).getD k (r * (0 : Int)) := by rw [scaled, Int.cast_zero, mul_zero]
      _ = r * (delays.getD k 0 : ℚ) := List.getD_map ..
  rw [change, change, each, each, ← mul_sub, abs_mul]

/-- A shift of all delays leaves the jitter. -/
theorem jitter?_map_add (delays : List Int) (c : Int) :
    (jitter? (delays.map (· + c)) : Option Exact) = jitter? delays := by
  rw [jitter?, jitter?, changes_map_add]

/-- Scaled delays have a scaled jitter. -/
theorem jitter?_of_scaled {delays others : List Int} {r : ℚ}
    (scaled : others.map (fun a : Int => (a : ℚ)) = delays.map fun a : Int => r * a) :
    (jitter? others : Option Exact) = (jitter? delays).map (number |r| * ·) := by
  have count : others.length = delays.length := by
    have lengths := congrArg List.length scaled
    rwa [List.length_map, List.length_map] at lengths
  rcases Nat.lt_or_ge delays.length 2 with short | several
  · rw [jitter?_of_short short, jitter?_of_short (count ▸ short), Option.map_none]
  · rw [jitter?_of_several several, jitter?_of_several (count ▸ several), count, Option.map_some, number_mul,
      ← smoothed_mul, funext (change_of_scaled scaled)]

/-- Negated delays have the same jitter. -/
theorem jitter?_map_neg (delays : List Int) : (jitter? (delays.map (- ·)) : Option Exact) = jitter? delays := by
  have scaled : (delays.map (- ·)).map (fun a : Int => (a : ℚ)) = delays.map fun a : Int => (-1 : ℚ) * a := by
    rw [List.map_map]
    refine List.map_congr_left fun a _ => ?_
    rw [Function.comp_apply, Int.cast_neg, neg_one_mul]
  rw [jitter?_of_scaled scaled]
  rcases Nat.lt_or_ge delays.length 2 with short | several
  · rw [jitter?_of_short short, Option.map_none]
  · rw [jitter?_of_several several, Option.map_some, number_mul, abs_neg, abs_one, one_mul]

/-- The jitter is a weighted mean of the changes from delay to delay, in which a change weighs less the longer it is
ago; only the first one has all the weight that is left. So it lies between the least and the largest change, and
depends on the changes alone. -/
theorem jitter?_exact (delays : List Int) :
    ((jitter? delays : Option Exact) = none ↔ delays.length < 2) ∧
    (2 ≤ delays.length → ∃ q : ℚ, jitter? delays = some (number q) ∧
      q = (15 / 16) ^ (delays.length - 2) * change delays 1 +
        ∑ k ∈ Finset.Icc 2 (delays.length - 1), 1 / 16 * (15 / 16) ^ (delays.length - 1 - k) * change delays k ∧
      (∃ k, 1 ≤ k ∧ k < delays.length ∧ change delays k ≤ q) ∧
      (∃ k, 1 ≤ k ∧ k < delays.length ∧ q ≤ change delays k) ∧
      (q = 0 ↔ ∃ v, ∀ a ∈ delays, a = v)) ∧
    (∀ c, (jitter? (delays.map (· + c)) : Option Exact) = jitter? delays) ∧
    (jitter? (delays.map (- ·)) : Option Exact) = jitter? delays ∧
    ∀ (r : ℚ) (others : List Int), others.map (fun a : Int => (a : ℚ)) = delays.map (fun a : Int => r * a) →
      (jitter? others : Option Exact) = (jitter? delays).map (number |r| * ·) := by
  refine ⟨⟨fun undefined => ?_, jitter?_of_short⟩, fun several => ?_, jitter?_map_add delays, jitter?_map_neg delays,
    fun r others => jitter?_of_scaled⟩
  · by_contra several
    cases undefined.symm.trans (jitter?_of_several (Nat.not_lt.mp several))
  · have count : delays.length - 2 + 1 = delays.length - 1 := by omega
    have closed := smoothed_eq_sum (change delays) (delays.length - 2)
    obtain ⟨least, low, high, below⟩ := exists_le_smoothed (change delays) (delays.length - 2)
    obtain ⟨largest, low', high', above⟩ := exists_smoothed_le (change delays) (delays.length - 2)
    have zero := smoothed_eq_zero_iff (change delays) (delays.length - 2) (change_nonneg delays)
    rw [count] at closed
    refine ⟨_, jitter?_of_several several, closed, ⟨least, low, by omega, below⟩, ⟨largest, low', by omega, above⟩, ?_⟩
    rw [zero, ← forall_change_eq_zero_iff]
    exact forall_congr' fun k => forall_congr' fun _ => imp_congr (by omega) Iff.rfl

/-- Three delays, and the same negated and doubled. -/
theorem jitter?_exact_threeDelays :
    ∃ q : ℚ, jitter? [10, 30, 20] = some (number q) ∧ q = 15 / 16 * 20 + 1 / 16 * 10 ∧
      jitter? [-20, -60, -40] = some (number (2 * q)) := by
  obtain ⟨-, several, -, -, scaled⟩ := jitter?_exact [10, 30, 20]
  obtain ⟨q, value, weights, -⟩ := several (by decide)
  have first : change [10, 30, 20] 1 = 20 := by norm_num [change]
  have second : change [10, 30, 20] 2 = 10 := by norm_num [change]
  refine ⟨q, value, ?_, ?_⟩
  · rw [weights, first]
    norm_num [second]
  · rw [scaled (-2) [-20, -60, -40] (by norm_num), value, Option.map_some, number_mul, abs_neg, abs_two]

end MeshTrace.Delay
