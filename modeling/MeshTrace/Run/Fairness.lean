import MeshTrace.Scalar

namespace MeshTrace

/-- How evenly several metrics are spread over the nodes of a run. -/
structure Fairness (α : Type) where
  pdr : α
  parentSwitches : α
  delay : α
  jitter : α

namespace Fairness

open Arith

/-- Jain's index: the square of the sum over the count and the sum of the squares. It is zero where
that is undefined. -/
def index {α : Type} [Arith α] (values : List α) : α :=
  let sum := total values
  let squares := total (values.map fun v => v * v)
  if values.isEmpty || isZero squares then ofNat 0
  else sum * sum / (ofNat values.length * squares)

end Fairness

end MeshTrace
