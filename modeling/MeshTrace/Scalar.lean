namespace MeshTrace

/-- The operations that ratios, means and charges are computed with. Every formula is written once
over them: it runs on floats, in the order in which it is written, and can be read over any other
numbers. -/
class Arith (α : Type) extends Add α, Sub α, Mul α, Div α, Neg α where
  ofNat : Nat → α
  ofInt : Int → α
  abs : α → α
  /-- The sum of no terms: every sum starts from it. -/
  emptySum : α
  isZero : α → Bool
  lt : α → α → Bool
  le : α → α → Bool

/-- Numbers among which some stand for an undefined value. -/
class Scalar (α : Type) extends Arith α where
  undefined : α
  isDefined : α → Bool
  sqrt : α → α

namespace Arith

variable {α : Type} [Arith α]

/-- Adds from left to right. -/
def total (xs : List α) : α := xs.foldl (· + ·) emptySum

/-- The larger of two numbers, the second if they cannot be compared. -/
def larger (a b : α) : α := if le b a then a else b

/-- The sum over the count. -/
def average (xs : List α) : α := total xs / ofNat xs.length

/-- How many percent `part` is of `whole`, zero if there is no whole. -/
def percentage (part whole : Nat) : α :=
  if whole = 0 then ofNat 0 else ofNat 100 * ofNat part / ofNat whole

end Arith

/-- Floats round to nearest after every operation. A sum starts from negative zero, which is what
the sum of no terms is; values that are not finite are undefined. -/
instance : Scalar Float where
  ofNat := Float.ofNat
  ofInt := Float.ofInt
  abs := Float.abs
  emptySum := -0.0
  isZero x := x == 0.0
  lt x y := x < y
  le x y := x ≤ y
  undefined := 0.0 / 0.0
  isDefined := Float.isFinite
  sqrt := Float.sqrt

end MeshTrace
