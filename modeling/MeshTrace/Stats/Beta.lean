import MeshTrace.Stats.Gamma

namespace MeshTrace.Stats

/-- Keeps a denominator away from zero. -/
def awayFromZero (v : Float) : Float := if v.abs < 1e-300 then 1e-300 else v

/-- The value of a continued fraction so far, with the ratios that carry it on. -/
structure FractionState where
  c : Float
  d : Float
  value : Float

/-- Takes one partial numerator into a continued fraction; also the factor by which the value
changed. -/
def FractionState.next (s : FractionState) (numerator : Float) : FractionState × Float :=
  let d := 1.0 / awayFromZero (1.0 + numerator * s.d)
  let c := awayFromZero (1.0 + numerator / s.c)
  let factor := d * c
  (⟨c, d, s.value * factor⟩, factor)

/-- Carries the fraction of the incomplete beta function on from its `m`th pair of numerators until a
pair changes the value no further, for at most `fuel` pairs. -/
def betaFractionFrom (a b x : Float) : Nat → Nat → FractionState → Float
  | 0, _, s => s.value
  | fuel + 1, n, s =>
    let m := Float.ofNat n
    let m2 := 2.0 * m
    let (s, _) := s.next (m * (b - m) * x / ((a - 1.0 + m2) * (a + m2)))
    let (s, factor) := s.next (-(a + m) * (a + b + m) * x / ((a + m2) * (a + 1.0 + m2)))
    if (factor - 1.0).abs < 1e-15 then s.value else betaFractionFrom a b x fuel (n + 1) s

def betaFraction (a b x : Float) : Float :=
  let d := 1.0 / awayFromZero (1.0 - (a + b) * x / (a + 1.0))
  betaFractionFrom a b x 500 1 ⟨1.0, d, d⟩

/-- The part of the beta integral with parameters `a` and `b` that lies below `x`. -/
def betaBelow (a b x : Float) : Float :=
  if x ≤ 0.0 then 0.0
  else if x ≥ 1.0 then 1.0
  else
    let front :=
      (lnGamma (a + b) - lnGamma a - lnGamma b + a * x.log + b * (1.0 - x).log).exp
    if x < (a + 1.0) / (a + b + 2.0) then front * betaFraction a b x / a
    else 1.0 - front * betaFraction b a (1.0 - x) / b

end MeshTrace.Stats
