import Mathlib.Algebra.Order.Archimedean.Real.Basic
import Mathlib.Logic.Function.Iterate
import Mathlib.Tactic.Linarith
import Mathlib.Tactic.NormNum
import Mathlib.Tactic.Ring
import MeshTrace.Proofs.Number.Exact
import MeshTrace.Stats.Crossing

namespace MeshTrace.Stats.Crossing

open Arith Exact

variable {F : ℚ → ℚ} {p : ℚ}

/-- Two numbers between which `F`, going up, reaches `p`. -/
structure Bracket (F : ℚ → ℚ) (p : ℚ) where
  lo : ℚ
  hi : ℚ
  lo_lt_hi : lo < hi
  below : F lo < p
  reached : p ≤ F hi

namespace Bracket

variable (b : Bracket F p)

def middle : ℚ := (b.lo + b.hi) / 2

theorem lo_lt_middle : b.lo < b.middle := left_lt_add_div_two.mpr b.lo_lt_hi

theorem middle_lt_hi : b.middle < b.hi := add_div_two_lt_right.mpr b.lo_lt_hi

/-- The half in which `p` is reached. -/
def halved : Bracket F p :=
  if below : F b.middle < p then ⟨b.middle, b.hi, b.middle_lt_hi, below, b.reached⟩
  else ⟨b.lo, b.middle, b.lo_lt_middle, b.below, not_lt.mp below⟩

def width : ℚ := b.hi - b.lo

/-- The bracket is narrow, measured by its upper end. -/
def Narrow : Prop := b.width ≤ 1 / 10 ^ 13 * max b.hi 1

instance : Decidable b.Narrow := inferInstanceAs (Decidable (b.width ≤ 1 / 10 ^ 13 * max b.hi 1))

/-- Its ends as they are searched with. -/
def ends : Exact × Exact := (number b.lo, number b.hi)

theorem halved_of_below (below : F b.middle < p) : b.halved = ⟨b.middle, b.hi, b.middle_lt_hi, below, b.reached⟩ :=
  dif_pos below

theorem halved_of_reached (reached : p ≤ F b.middle) :
    b.halved = ⟨b.lo, b.middle, b.lo_lt_middle, b.below, reached⟩ :=
  dif_neg (not_lt.mpr reached)

theorem width_halved : b.halved.width = b.width / 2 := by
  unfold halved
  split <;> simp only [width, middle] <;> ring

theorem lo_le_lo_halved : b.lo ≤ b.halved.lo := by
  unfold halved
  split
  · exact b.lo_lt_middle.le
  · exact le_refl _

/-- The bracket after some halvings. -/
def after (b : Bracket F p) (n : Nat) : Bracket F p := halved^[n] b

theorem after_succ (n : Nat) : b.after (n + 1) = b.halved.after n := Function.iterate_succ_apply ..

/-- The width after some steps. -/
theorem width_after (n : Nat) : (b.after n).width = b.width / 2 ^ n := by
  induction n generalizing b with
  | zero => rw [pow_zero, div_one]; rfl
  | succ n ih => rw [after_succ, ih, width_halved, div_div, pow_succ']

theorem lo_le_lo_after (n : Nat) : b.lo ≤ (b.after n).lo := by
  induction n generalizing b with
  | zero => exact le_refl _
  | succ n ih => exact b.lo_le_lo_halved.trans (b.after_succ n ▸ ih b.halved)

/-- The bracket is narrow after this many halvings, and not earlier. -/
structure NarrowFirst (m : Nat) : Prop where
  halved : 1 ≤ m
  narrow : (b.after m).Narrow
  wide : ∀ n, 1 ≤ n → n < m → ¬ (b.after n).Narrow

/-- A bracket starts no wider than its lower end, or than one. Its lower end does not get smaller, so forty-four
halvings make it narrow. -/
theorem narrow_after (slim : b.width ≤ max b.lo 1) : (b.after 44).Narrow := by
  have positive : (0 : ℚ) < max b.lo 1 := lt_max_of_lt_right one_pos
  calc (b.after 44).width
    _ = b.width / 2 ^ 44 := b.width_after 44
    _ ≤ max b.lo 1 / 2 ^ 44 := by gcongr
    _ ≤ 1 / 10 ^ 13 * max b.lo 1 := by
      rw [div_eq_mul_inv, mul_comm]
      gcongr
      norm_num
    _ ≤ 1 / 10 ^ 13 * max (b.after 44).hi 1 := by
      have higher : b.lo ≤ (b.after 44).hi := (b.lo_le_lo_after 44).trans (b.after 44).lo_lt_hi.le
      gcongr

/-- A bracket no wider than its lower end, or than one, is narrow after 44 steps at most. -/
theorem exists_narrowFirst (slim : b.width ≤ max b.lo 1) : ∃ m ≤ 44, b.NarrowFirst m := by
  have some : ∃ m, 1 ≤ m ∧ (b.after m).Narrow := ⟨44, by omega, b.narrow_after slim⟩
  obtain ⟨halved, narrow⟩ := Nat.find_spec some
  exact ⟨Nat.find some, Nat.find_min' some ⟨by omega, b.narrow_after slim⟩, halved, narrow,
    fun n low earlier narrow => Nat.find_min some earlier ⟨low, narrow⟩⟩

end Bracket

theorem middle_number (lo hi : ℚ) : middle (number lo) (number hi) = number ((lo + hi) / 2) := by
  rw [middle, ofNat_eq, ofNat_eq, number_add, number_div (by norm_num), number_mul]
  exact congrArg number (by push_cast; ring)

theorem narrow_number (b : Bracket F p) : narrow (number b.lo) (number b.hi) = true ↔ b.Narrow := by
  rw [narrow, ofNat_eq, ofNat_eq, number_sub, number_div (by norm_num), larger_number, number_mul, le_number,
    decide_eq_true_iff, Bracket.Narrow, Bracket.width]
  norm_num

/-- One halving. -/
theorem halve_succ (b : Bracket F p) (fuel : Nat) :
    halve (Exact.map F) (number p) (fuel + 1) (number b.lo) (number b.hi) =
      if b.halved.Narrow then b.halved.ends
      else halve (Exact.map F) (number p) fuel (number b.halved.lo) (number b.halved.hi) := by
  have value : lt (Exact.map F (number b.middle)) (number p) = decide (F b.middle < p) := lt_number _ _
  have narrow := narrow_number b.halved
  rw [halve, middle_number, ← Bracket.middle, value]
  rcases lt_or_ge (F b.middle) p with below | reached
  · rw [b.halved_of_below below] at narrow ⊢
    rw [decide_eq_true below, if_pos rfl]
    exact if_congr narrow rfl rfl
  · rw [b.halved_of_reached reached] at narrow ⊢
    rw [decide_eq_false (not_lt.mpr reached), if_neg Bool.false_ne_true]
    exact if_congr narrow rfl rfl

/-- The halvings end when the bracket is narrow, whatever the fuel. -/
theorem halve_eq {b : Bracket F p} {m : Nat} (first : b.NarrowFirst m) (fuel : Nat) :
    halve (Exact.map F) (number p) fuel (number b.lo) (number b.hi) = (b.after (min fuel m)).ends := by
  induction fuel generalizing b m with
  | zero => rw [Nat.zero_min]; rfl
  | succ fuel ih =>
    obtain ⟨m, rfl⟩ := Nat.exists_eq_add_one.mpr first.halved
    rw [halve_succ, Nat.succ_min_succ, b.after_succ]
    split
    case isTrue narrow =>
      -- The halving that makes the bracket narrow is the last one.
      obtain rfl : m = 0 := by
        by_contra later
        exact first.wide 1 (le_refl _) (by omega) narrow
      rw [Nat.min_zero]
      rfl
    case isFalse wide =>
      have later : 1 ≤ m := by
        by_contra now
        obtain rfl : m = 0 := by omega
        exact wide first.narrow
      refine ih ⟨later, b.after_succ m ▸ first.narrow, fun n low earlier narrow => ?_⟩
      exact first.wide (n + 1) (by omega) (by omega) (b.after_succ n ▸ narrow)

/-- The last power of two that is searched. -/
theorem two_pow_le_farthest_iff (k : Nat) : (2 : ℚ) ^ k ≤ 10 ^ 300 ↔ k ≤ 996 := by
  have size : Nat.log2 (10 ^ 300) = 996 := by decide +kernel
  have within : 2 ^ k ≤ 10 ^ 300 ↔ k ≤ 996 := size ▸ (Nat.le_log2 (by positivity)).symm
  exact_mod_cast within

theorem lt_farthest (a : ℚ) : lt (farthest : Exact) (number a) = decide ((10 : ℚ) ^ 300 < a) := by
  -- The exponent has a name so that the power is not computed.
  rw [farthest]
  generalize 300 = n
  rw [ofNat_pow, Nat.cast_ofNat, lt_number]

/-- The lower end of the search when the upper one is this power of two. -/
def lower : Nat → ℚ
  | 0 => 0
  | k + 1 => 2 ^ k

theorem lower_lt (k : Nat) : lower k < 2 ^ k := by
  cases k with
  | zero => exact one_pos
  | succ k => exact pow_lt_pow_right₀ one_lt_two k.lt_succ_self

/-- A bracket between powers of two is no wider than its lower end, or than one. -/
theorem sub_lower_le (k : Nat) : 2 ^ k - lower k ≤ max (lower k) 1 := by
  cases k with
  | zero => norm_num [lower]
  | succ k =>
    have half : (2 : ℚ) ^ (k + 1) - 2 ^ k = 2 ^ k := by ring
    exact half.trans_le (le_max_left _ _)

/-- One doubling. -/
theorem bracket_succ (F : ℚ → ℚ) (p : ℚ) (fuel k : Nat) :
    bracket (Exact.map F) (number p) (fuel + 1) (number (lower k)) (number (2 ^ k)) =
      if p ≤ F (2 ^ k) then some (number (lower k), number (2 ^ k))
      else if 996 < k + 1 then none
      else bracket (Exact.map F) (number p) fuel (number (lower (k + 1))) (number (2 ^ (k + 1))) := by
  have value : lt (Exact.map F (number (2 ^ k))) (number p) = decide (F (2 ^ k) < p) := lt_number _ _
  have next : (number (2 ^ k) * ofNat 2 : Exact) = number (2 ^ (k + 1)) := congrArg number (pow_succ (2 : ℚ) k).symm
  have beyond : (10 : ℚ) ^ 300 < 2 ^ (k + 1) ↔ 996 < k + 1 := by
    rw [← not_le, two_pow_le_farthest_iff, not_le]
  rw [bracket, value, next]
  rcases lt_or_ge (F (2 ^ k)) p with below | reached
  · rw [decide_eq_true below, if_pos rfl, if_neg (not_le.mpr below)]
    exact if_congr ((Bool.eq_iff_iff.mp (lt_farthest _)).trans (decide_eq_true_iff.trans beyond)) rfl rfl
  · rw [decide_eq_false (not_lt.mpr reached), if_neg Bool.false_ne_true, if_pos reached]

/-- The doublings try one power of two after the other, up to the last that is searched. -/
theorem bracket_eq (F : ℚ → ℚ) (p : ℚ) {count fuel k : Nat} (last : k + count = 996) (enough : count < fuel) :
    bracket (Exact.map F) (number p) fuel (number (lower k)) (number (2 ^ k)) =
      ((List.range' k (count + 1)).find? fun j => p ≤ F (2 ^ j)).map fun j => (number (lower j), number (2 ^ j)) := by
  induction count generalizing fuel k with
  | zero =>
    obtain ⟨fuel, rfl⟩ := Nat.exists_eq_add_one.mpr enough
    -- The next power of two is above `farthest`.
    have beyond : 996 < k + 1 := by omega
    rw [bracket_succ, if_pos beyond, List.range'_one]
    split
    case isTrue reached => simp [reached]
    case isFalse below => simp [below]
  | succ count ih =>
    obtain ⟨fuel, rfl⟩ := Nat.exists_eq_add_one.mpr (Nat.zero_lt_of_lt enough)
    have within : ¬ 996 < k + 1 := by omega
    rw [bracket_succ, if_neg within, List.range'_succ, List.find?_cons]
    split
    case isTrue reached => rw [decide_eq_true reached]; rfl
    case isFalse below =>
      rw [decide_eq_false below]
      exact ih (by omega) (by omega)

/-- Below this point `F` is below `p`, and above it no longer. -/
def IsCrossing (F : ℚ → ℚ) (p : ℚ) (c : ℝ) : Prop :=
  (∀ x : ℚ, (x : ℝ) < c → F x < p) ∧ ∀ x : ℚ, c < (x : ℝ) → p ≤ F x

/-- No crossing is above another, so there is one at most. -/
theorem IsCrossing.le {c d : ℝ} (crossing : IsCrossing F p c) (other : IsCrossing F p d) : c ≤ d := by
  by_contra later
  obtain ⟨x, low, high⟩ := exists_rat_btwn (not_le.mp later)
  exact not_le.mpr (crossing.1 x high) (other.2 x low)

/-- A function that does not decrease crosses between the ends of a bracket. -/
theorem Bracket.exists_isCrossing (b : Bracket F p) (monotone : Monotone F) :
    ∃ c : ℝ, (b.lo : ℝ) ≤ c ∧ c ≤ b.hi ∧ IsCrossing F p c := by
  -- The crossing is the supremum of the numbers at which `F` is below `p`.
  let smaller : Set ℝ := Set.image (fun x : ℚ => (x : ℝ)) { x | F x < p }
  have bound : ∀ y ∈ smaller, y ≤ b.hi := by
    rintro _ ⟨x, below, rfl⟩
    have before : x < b.hi := monotone.reflect_lt (lt_of_lt_of_le below b.reached)
    exact Rat.cast_le.mpr before.le
  have member : (b.lo : ℝ) ∈ smaller := ⟨b.lo, b.below, rfl⟩
  refine ⟨sSup smaller, le_csSup ⟨b.hi, bound⟩ member, csSup_le ⟨_, member⟩ bound, ?_, ?_⟩ <;> intro x apart
  · obtain ⟨_, ⟨y, below, rfl⟩, later⟩ := exists_lt_of_lt_csSup ⟨_, member⟩ apart
    exact (monotone (Rat.cast_lt.mp later).le).trans_lt below
  · by_contra below
    exact not_le.mpr apart (le_csSup ⟨b.hi, bound⟩ ⟨x, not_le.mp below, rfl⟩)

/-- The middle is half a width away from a crossing at most. -/
theorem Bracket.abs_middle_sub_le (b : Bracket F p) {c : ℝ} (low : (b.lo : ℝ) ≤ c) (high : c ≤ b.hi) :
    |(b.middle : ℝ) - c| ≤ (b.width : ℝ) / 2 := by
  rw [Bracket.middle, Bracket.width, abs_le]
  push_cast
  constructor <;> linarith

section

variable (F : ℚ → ℚ) (p : ℚ)

/-- The first power of two, of those that are searched, at which `F` is no longer below `p`. -/
def power? : Option Nat := (List.range 997).find? fun k => p ≤ F (2 ^ k)

/-- No power of two is found if the level is reached at none in the range. -/
theorem power?_eq_none_iff : power? F p = none ↔ ∀ k : Nat, (2 : ℚ) ^ k ≤ 10 ^ 300 → F (2 ^ k) < p := by
  simp only [power?, List.find?_range_eq_none, two_pow_le_farthest_iff, Nat.lt_succ_iff, Bool.not_eq_true',
    decide_eq_false_iff_not, not_le]

/-- The power of two that is found is the first at which the level is reached. -/
theorem power?_eq_some_iff (k : Nat) :
    power? F p = some k ↔ p ≤ F (2 ^ k) ∧ (2 : ℚ) ^ k ≤ 10 ^ 300 ∧ ∀ j < k, F (2 ^ j) < p := by
  simp only [power?, List.find?_range_eq_some, two_pow_le_farthest_iff, List.mem_range, Nat.lt_succ_iff,
    Bool.not_eq_true', decide_eq_false_iff_not, decide_eq_true_iff, not_le]

/-- The doublings start with zero and one. -/
theorem bracket_start {fuel : Nat} (enough : 997 ≤ fuel) :
    bracket (Exact.map F) (number p) fuel (ofNat 0) (ofNat 1) =
      (power? F p).map fun k => (number (lower k), number (2 ^ k)) := by
  have doublings := bracket_eq F p (k := 0) (Nat.zero_add 996) enough
  rw [pow_zero] at doublings
  rw [ofNat_eq, ofNat_eq, Nat.cast_zero, Nat.cast_one, power?, List.range_eq_range']
  exact doublings

end

/-- At the lower end the level is not reached. -/
theorem below_lower (start : F 0 < p) {k : Nat} (earlier : ∀ j < k, F (2 ^ j) < p) : F (lower k) < p := by
  cases k with
  | zero => exact start
  | succ k => exact earlier k k.lt_succ_self

/-- The search gives up only if `F` is below `p` at all powers of two up to `farthest`. Otherwise the first of them
at which it is not ends a bracket, which is halved until it is narrow; this takes at most forty-four halvings. All of
these brackets hold what is searched, and the result is the middle of the last one: for a function that does not
decrease, it is no farther from the crossing than half its width. -/
theorem find?_exact (F : ℚ → ℚ) (p : ℚ) (start : F 0 < p) :
    (∀ fuel, 997 ≤ fuel → bracket (Exact.map F) (number p) fuel (ofNat 0) (ofNat 1) =
      bracket (Exact.map F) (number p) 997 (ofNat 0) (ofNat 1)) ∧
    (find? (Exact.map F) (number p) = none ↔ ∀ k : Nat, (2 : ℚ) ^ k ≤ 10 ^ 300 → F (2 ^ k) < p) ∧
    ∀ r, find? (Exact.map F) (number p) = some r → ∃ (k m : Nat) (b : Bracket F p),
      b.hi = 2 ^ k ∧ (2 : ℚ) ^ k ≤ 10 ^ 300 ∧ (∀ j < k, F (2 ^ j) < p) ∧
      bracket (Exact.map F) (number p) 997 (ofNat 0) (ofNat 1) = some b.ends ∧
      (∀ n, (b.after n).lo < (b.after n).hi ∧ F (b.after n).lo < p ∧ p ≤ F (b.after n).hi) ∧
      m ≤ 44 ∧ b.NarrowFirst m ∧
      (∀ fuel, halve (Exact.map F) (number p) fuel b.ends.1 b.ends.2 = (b.after (min fuel m)).ends) ∧
      r = number (b.after m).middle ∧
      (b.after m).hi - (b.after m).lo ≤ 1 / 10 ^ 13 * max (b.after m).hi 1 ∧
      (Monotone F → ∃ c : ℝ, IsCrossing F p c ∧
        |((b.after m).middle : ℝ) - c| ≤ (((b.after m).hi - (b.after m).lo : ℚ) : ℝ) / 2) := by
  have doublings : bracket (Exact.map F) (number p) 997 (ofNat 0) (ofNat 1) = _ := bracket_start F p (le_refl 997)
  have searched : bracket (Exact.map F) (number p) 1100 (ofNat 0) (ofNat 1) = _ := bracket_start F p (by omega)
  refine ⟨fun fuel enough => (bracket_start F p enough).trans doublings.symm, ?_, fun r found => ?_⟩
  · rw [find?, searched, Option.map_eq_none_iff, Option.map_eq_none_iff, power?_eq_none_iff]
  · rw [find?, searched, Option.map_map, Option.map_eq_some_iff] at found
    obtain ⟨k, power, rfl⟩ := found
    obtain ⟨reached, within, earlier⟩ := (power?_eq_some_iff F p k).mp power
    let b : Bracket F p := ⟨lower k, 2 ^ k, lower_lt k, below_lower start earlier, reached⟩
    obtain ⟨m, few, first⟩ := b.exists_narrowFirst (sub_lower_le k)
    refine ⟨k, m, b, rfl, within, earlier, ?_, fun n => ⟨(b.after n).lo_lt_hi, (b.after n).below, (b.after n).reached⟩,
      few, first, halve_eq first, ?_, first.narrow, fun monotone => ?_⟩
    · rw [doublings, power]
      rfl
    · have last := halve_eq first 200
      rw [Nat.min_eq_right (by omega)] at last
      change middle (halve _ _ 200 (number b.lo) (number b.hi)).1 (halve _ _ 200 (number b.lo) (number b.hi)).2 = _
      rw [last]
      exact middle_number _ _
    · obtain ⟨c, low, high, crossing⟩ := (b.after m).exists_isCrossing monotone
      exact ⟨c, crossing, (b.after m).abs_middle_sub_le low high⟩

/-- A sixteenth of a number reaches nine sixteenths at nine. -/
theorem find?_exact_sixteenths :
    ∃ q : ℚ, find? (Exact.map fun x => x / 16) (number (9 / 16)) = some (number q) ∧ |(q : ℝ) - 9| ≤ 1 / 10 ^ 12 := by
  obtain ⟨-, unreached, found⟩ := find?_exact (fun x => x / 16) (9 / 16) (by norm_num)
  have nine : IsCrossing (fun x => x / 16) (9 / 16) 9 := by
    refine ⟨fun x before => ?_, fun x after => ?_⟩
    · have before : x < 9 := by exact_mod_cast before
      linarith
    · have after : 9 < x := by exact_mod_cast after
      linarith
  cases result : find? (Exact.map fun x => x / 16) (number (9 / 16)) with
  | none =>
    have within : (2 : ℚ) ^ 4 ≤ 10 ^ 300 := (two_pow_le_farthest_iff 4).mpr (by norm_num)
    exact absurd (unreached.mp result 4 within) (by norm_num)
  | some r =>
    obtain ⟨k, m, b, -, -, -, -, ends, -, -, -, rfl, narrow, near⟩ := found r result
    obtain ⟨c, crossing, near⟩ := near fun x y le => div_le_div_of_nonneg_right le (by norm_num)
    obtain rfl : c = 9 := (crossing.le nine).antisymm (nine.le crossing)
    have low : (b.after m).lo < 9 := by linarith [(ends m).2.1]
    have high : 9 ≤ (b.after m).hi := by linarith [(ends m).2.2]
    rw [max_eq_left (by linarith)] at narrow
    have slim : ((_ : ℚ) : ℝ) ≤ ((2 / 10 ^ 12 : ℚ) : ℝ) := Rat.cast_le.mpr (narrow.trans (by linarith))
    exact ⟨_, rfl, near.trans (by push_cast at slim ⊢; linarith)⟩

end MeshTrace.Stats.Crossing
