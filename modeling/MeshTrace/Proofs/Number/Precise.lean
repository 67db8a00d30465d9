import Mathlib.Analysis.Real.Sqrt
import MeshTrace.Proofs.Number.Exact

namespace MeshTrace

/-- A real number, or what comes of a division by zero or of the root of a negative number. -/
inductive Precise
  | number (x : ℝ)
  | undefined

noncomputable section

namespace Precise

open Classical in
def div : Precise → Precise → Precise
  | number a, number b => if b = 0 then undefined else number (a / b)
  | _, _ => undefined

/-- An operation on numbers. Nothing undefined becomes defined by it. -/
def lift (f : ℝ → ℝ → ℝ) : Precise → Precise → Precise
  | number a, number b => number (f a b)
  | _, _ => undefined

def map (f : ℝ → ℝ) : Precise → Precise
  | number a => number (f a)
  | undefined => undefined

open Classical in
/-- A comparison of numbers. Nothing compares with what is undefined. -/
def test (p : ℝ → ℝ → Prop) : Precise → Precise → Bool
  | number a, number b => decide (p a b)
  | _, _ => false

open Classical in
def sqrt : Precise → Precise
  | number a => if a < 0 then undefined else number √a
  | undefined => undefined

def isNumber : Precise → Bool
  | number _ => true
  | undefined => false

def number? : Precise → Option ℝ
  | number x => some x
  | undefined => none

/-- The numbers among samples. -/
def numbers (xs : List Precise) : List ℝ := xs.filterMap number?

end Precise

/-- Every root has its value, and no operation rounds. -/
instance : Scalar Precise where
  add := .lift (· + ·)
  sub := .lift (· - ·)
  mul := .lift (· * ·)
  div := .div
  neg := .map (- ·)
  ofNat n := .number n
  ofInt k := .number k
  abs := .map fun x => |x|
  emptySum := .number 0
  isZero := Precise.test (· = ·) (.number 0)
  lt := Precise.test (· < ·)
  le := Precise.test (· ≤ ·)
  undefined := .undefined
  isDefined := Precise.isNumber
  sqrt := .sqrt

namespace Precise

open Arith

@[simp] theorem ofNat_eq (n : Nat) : (ofNat n : Precise) = number n := rfl

theorem number_add (a b : ℝ) : number a + number b = number (a + b) := rfl

theorem number_sub (a b : ℝ) : number a - number b = number (a - b) := rfl

theorem number_mul (a b : ℝ) : number a * number b = number (a * b) := rfl

theorem number_div {a b : ℝ} (nonzero : b ≠ 0) : number a / number b = number (a / b) := if_neg nonzero

theorem sqrt_number {a : ℝ} (nonneg : 0 ≤ a) : Scalar.sqrt (number a) = number √a := if_neg nonneg.not_gt

/-- The total of numbers is their sum. -/
theorem total_map_number (xs : List ℝ) : total (xs.map number) = number xs.sum :=
  total_map (f := number) rfl number_add xs

/-- The samples that have a value are the numbers among them. -/
theorem defined_eq (xs : List Precise) : Stats.defined xs = (numbers xs).map number := by
  induction xs with
  | nil => rfl
  | cons x xs ih =>
    cases x with
    | number r => exact congrArg (number r :: ·) ih
    | undefined => exact ih

theorem defined_map_number (xs : List ℝ) : Stats.defined (xs.map number) = xs.map number :=
  List.filter_eq_self.mpr fun _ member => by
    obtain ⟨x, -, rfl⟩ := List.mem_map.mp member
    rfl

end Precise

end

end MeshTrace
