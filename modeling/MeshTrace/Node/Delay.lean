import MeshTrace.Scalar

namespace MeshTrace.Delay

open Arith

variable {α : Type} [Arith α]

/-- The mean of the delays, none without delays. -/
def mean? (delays : List Int) : Option α :=
  if delays.isEmpty then none else some (average (delays.map ofInt))

/-- How much each delay differs from the one before it. -/
def changes : List Int → List α
  | a :: b :: rest => abs (ofInt b - ofInt a) :: changes (b :: rest)
  | _ => []

/-- The weight of what the jitter was before. -/
def historyWeight : α := ofNat 15 / ofNat 16

/-- Takes one more change into the jitter. -/
def smooth (jitter change : α) : α :=
  jitter * historyWeight + change * (ofNat 1 - historyWeight)

/-- The smoothed change from delay to delay, which starts from the first change; none with fewer than
two delays. -/
def jitter? (delays : List Int) : Option α :=
  match changes delays with
  | [] => none
  | first :: rest => some (rest.foldl smooth first)

end MeshTrace.Delay
