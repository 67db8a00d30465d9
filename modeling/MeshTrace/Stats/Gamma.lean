namespace MeshTrace.Stats

def pi : Float := 3.14159265358979323846

/-- The first coefficient of the Lanczos series. -/
def lanczosFirst : Float := 0.99999999999980993

/-- The other coefficients of the Lanczos series. -/
def lanczosRest : List Float :=
  [676.5203681218851, -1259.1392167224028, 771.32342877765313, -176.61502916214059,
    12.507343278686905, -0.13857109526572012, 9.9843695780195716e-6, 1.5056327351493116e-7]

/-- The logarithm of the gamma function from one half on, by the Lanczos series around seven. -/
def lnGammaUpper (x : Float) : Float :=
  let x := x - 1.0
  let t := x + 7.0 + 0.5
  let series := lanczosRest.zipIdx.foldl (fun sum (c, i) => sum + c / (x + Float.ofNat (i + 1)))
    lanczosFirst
  0.5 * (2.0 * pi).log + (x + 0.5) * t.log - t + series.log

/-- The logarithm of the gamma function, below one half by reflection. -/
def lnGamma (x : Float) : Float :=
  if x < 0.5 then (pi / (pi * x).sin).log - lnGammaUpper (1.0 - x) else lnGammaUpper x

end MeshTrace.Stats
