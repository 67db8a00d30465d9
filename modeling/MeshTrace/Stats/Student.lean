import MeshTrace.Stats.Beta
import MeshTrace.Stats.Crossing

namespace MeshTrace.Stats.Student

/-- The probability that a sample of Student's distribution with `df` degrees of freedom lies below
`t`. -/
def below (df t : Float) : Float :=
  let tail := 0.5 * betaBelow (df / 2.0) 0.5 (df / (df + t * t))
  if t ≥ 0.0 then 1.0 - tail else tail

/-- Whether `p` is a probability strictly between zero and one, and `df` positive. -/
def hasQuantile (p df : Float) : Bool := p > 0.0 && p < 1.0 && df > 0.0

/-- The quantile of a probability from one half on. -/
def upperQuantile (p df : Float) : Float :=
  if !hasQuantile p df then 0.0 / 0.0
  else if p == 0.5 then 0.0
  else (Crossing.find? (below df) p).getD (1.0 / 0.0)

/-- The point below which a sample lies with probability `p`. The distribution is symmetric around
zero. -/
def quantile (p df : Float) : Float :=
  if !hasQuantile p df then 0.0 / 0.0
  else if p < 0.5 then -upperQuantile (1.0 - p) df
  else upperQuantile p df

end MeshTrace.Stats.Student
