import Mathlib.Algebra.Order.BigOperators.Group.List
import Mathlib.Algebra.Order.Field.Rat
import Mathlib.Data.Rat.Sqrt
import MeshTrace.Settings.Basic
import MeshTrace.Stats.Moments

namespace MeshTrace

/-- Where no addition rounds, a total is a sum. -/
theorem Arith.total_map {α K : Type} [Arith α] [AddMonoid K] {f : K → α} (empty : emptySum = f 0)
    (add : ∀ a b, f a + f b = f (a + b)) (ks : List K) : total (ks.map f) = f ks.sum := by
  have step (sum : K) : (ks.map f).foldl (· + ·) (f sum) = f (sum + ks.sum) := by
    induction ks generalizing sum with
    | nil => simp
    | cons k ks ih => rw [List.map_cons, List.foldl_cons, add, ih, List.sum_cons, add_assoc]
  rw [total, empty, step, zero_add]

/-- The defined samples can be replaced by what they stand for. -/
theorem Stats.map_map_defined {α K : Type} [Scalar α] {f : K → α} {g : α → K}
    (inverse : ∀ x, Scalar.isDefined x = true → f (g x) = x) (xs : List α) :
    ((defined xs).map g).map f = defined xs := by
  rw [List.map_map]
  exact (List.map_congr_left fun x member => inverse x (List.of_mem_filter member)).trans (List.map_id _)

/-- A rational number, or what comes of a division by zero or of a root that is not rational. -/
inductive Exact
  | number (q : ℚ)
  | undefined
  deriving DecidableEq

namespace Exact

/-- An operation on numbers. Nothing undefined becomes defined by it. -/
def lift (f : ℚ → ℚ → ℚ) : Exact → Exact → Exact
  | number a, number b => number (f a b)
  | _, _ => undefined

def div : Exact → Exact → Exact
  | number a, number b => if b = 0 then undefined else number (a / b)
  | _, _ => undefined

def map (f : ℚ → ℚ) : Exact → Exact
  | number a => number (f a)
  | undefined => undefined

/-- A comparison of numbers. Nothing compares with what is undefined. -/
def test (p : ℚ → ℚ → Bool) : Exact → Exact → Bool
  | number a, number b => p a b
  | _, _ => false

def sqrt : Exact → Exact
  | number a => if Rat.sqrt a * Rat.sqrt a = a then number (Rat.sqrt a) else undefined
  | undefined => undefined

def isNumber : Exact → Bool
  | number _ => true
  | undefined => false

/-- The number, or zero. -/
def toRat : Exact → ℚ
  | number q => q
  | undefined => 0

end Exact

/-- No operation rounds. -/
instance : Scalar Exact where
  add := .lift (· + ·)
  sub := .lift (· - ·)
  mul := .lift (· * ·)
  div := .div
  neg := .map (- ·)
  ofNat n := .number n
  ofInt k := .number k
  abs := .map fun q => |q|
  emptySum := .number 0
  isZero := Exact.test (· = ·) (.number 0)
  lt := Exact.test (· < ·)
  le := Exact.test (· ≤ ·)
  undefined := .undefined
  isDefined := Exact.isNumber
  sqrt := .sqrt

namespace Exact

open Arith

@[simp] theorem toRat_number (q : ℚ) : (number q).toRat = q := rfl

theorem number_add (a b : ℚ) : number a + number b = number (a + b) := rfl

theorem number_sub (a b : ℚ) : number a - number b = number (a - b) := rfl

theorem number_mul (a b : ℚ) : number a * number b = number (a * b) := rfl

theorem lt_number (a b : ℚ) : lt (number a) (number b) = decide (a < b) := rfl

theorem le_number (a b : ℚ) : le (number a) (number b) = decide (a ≤ b) := rfl

theorem larger_number (a b : ℚ) : larger (number a) (number b) = number (max a b) := by
  rw [larger, le_number, max_comm, max_def, apply_ite number]
  exact if_congr decide_eq_true_iff rfl rfl

theorem isZero_number (q : ℚ) : isZero (number q) = decide (q = 0) := decide_eq_decide.mpr eq_comm

theorem number_div {a b : ℚ} (nonzero : b ≠ 0) : number a / number b = number (a / b) := if_neg nonzero

@[simp] theorem ofNat_eq (n : Nat) : (ofNat n : Exact) = number n := rfl

theorem ofNat_pow (a n : Nat) : (ofNat (Nat.pow a n) : Exact) = number (a ^ n) :=
  congrArg number (Nat.cast_pow a n)

@[simp] theorem ofInt_eq (k : Int) : (ofInt k : Exact) = number k := rfl

/-- The total of numbers is their sum. -/
theorem total_map_number (qs : List ℚ) : total (qs.map number) = number qs.sum :=
  total_map (f := number) rfl number_add qs

/-- The defined samples are numbers. -/
theorem defined_eq (xs : List Exact) : Stats.defined xs = ((Stats.defined xs).map toRat).map number := by
  refine (Stats.map_map_defined (fun x defined => ?_) xs).symm
  cases x with
  | number q => rfl
  | undefined => cases defined

/-- The standard settings, in numbers that are not rounded. -/
def settings : Settings Exact where
  coordinator := 1
  includeInvalid := true
  requireJoin := false
  framing := .auto
  mapping := .lpmIsDeepSleep
  currents := ⟨number (91 / 10), number (59 / 10), number (366 / 125), number (267 / 200), number (1 / 100)⟩
  campaign := ⟨.confidence, number (19 / 20)⟩

end Exact

end MeshTrace
