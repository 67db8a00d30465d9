import MeshTrace.Scalar

namespace MeshTrace.Stats

open Arith Scalar

variable {α : Type} [Scalar α]

/-- The samples that have a value. -/
def defined (xs : List α) : List α := xs.filter isDefined

/-- The squared distances from `center`, added up. -/
def scatter (center : α) (xs : List α) : α :=
  total (xs.map fun x => (x - center) * (x - center))

/-- The mean of the defined samples. -/
def mean (xs : List α) : α :=
  let xs := defined xs
  if xs.isEmpty then undefined else average xs

/-- The standard deviation of the defined samples, taken as the whole population. -/
def deviation (xs : List α) : α :=
  let xs := defined xs
  if xs.isEmpty then undefined
  else sqrt (scatter (average xs) xs / ofNat xs.length)

/-- The standard deviation that the defined samples, at least two, estimate. -/
def sampleDeviation (xs : List α) : α :=
  let xs := defined xs
  if xs.length < 2 then undefined
  else
    let n : α := ofNat xs.length
    sqrt (scatter (average xs) xs / (n - ofNat 1))

/-- The half width of the confidence interval around the mean of the defined samples, at least two.
`quantile p df` is the point below which a sample of Student's distribution with `df` degrees of
freedom lies with probability `p`. -/
def marginOfError (quantile : α → α → α) (confidence : α) (xs : List α) : α :=
  let xs := defined xs
  if xs.length ≤ 1 then undefined
  else
    let standardError := sampleDeviation xs / sqrt (ofNat xs.length)
    let p := ofNat 1 - (ofNat 1 - confidence) / ofNat 2
    quantile p (ofNat (xs.length - 1)) * standardError

end MeshTrace.Stats
