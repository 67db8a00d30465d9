import MeshTrace.Proofs.Number.Stable
import MeshTrace.Proofs.Report.RoundTrip

namespace MeshTrace.Report

open Binary64

/-- A figure that was read is written as it was. -/
theorem figure_figureValue (x : Float) : figure (figureValue x) = figure x :=
  Number.fixedText_of_float?_fixedText (by decide) (by decide) (float?_figure x)

/-- A report that was read is written as it was. -/
theorem runText_reread (s : RunScalars Float) : runText (reread s) = runText s := by
  simp only [runText, runLines_eq, reread, figure_figureValue]

/-- A report that is read and written again is the same text. A float that was written in thousandths rounds to the
same thousandth when it is read, with the same sign, as does every float nearest to that thousandth. -/
theorem runText_of_readRun_runText (s : RunScalars Float) (counted : s.Counted) :
    (∃ again, readRun (runText s) = .ok again ∧ runText again = runText s) ∧
      ∀ x : Float, x.isFinite = true → ∃ k : ℤ, RoundsTo (1000 * (ofFloat x).value) k ∧
        (∀ y, IsNearest (k / 1000) y → RoundsTo (1000 * (ofFloat y).value) k) ∧
        IsNearest (k / 1000) (figureValue x) ∧ (ofFloat (figureValue x)).isNegative = (ofFloat x).isNegative := by
  refine ⟨⟨reread s, readRun_runText counted, runText_reread s⟩, fun x finite => ?_⟩
  have thousand : (1000 : ℚ) = 10 ^ 3 := by norm_num
  obtain ⟨n, bound, rounds⟩ := Number.exists_roundsTo 3 finite
  obtain ⟨nearest, sign⟩ :=
    Number.isNearest_of_float?_fixedText (by decide) (by decide) finite (float?_figure x) bound rounds
  rw [thousand]
  exact ⟨_, rounds, fun y => Number.roundsTo_of_isNearest finite rounds, nearest, sign⟩

/-- Around this float the distance of the floats is close to a thousandth. -/
theorem runText_of_readRun_runText_extremes :
    (∃ again, readRun (runText extremes) = .ok again ∧ runText again = runText extremes) ∧
      (4398046511104.0009765625 : Float).isFinite = true ∧
      ∃ k : ℤ, RoundsTo (1000 * (ofFloat 4398046511104.0009765625).value) k ∧
        IsNearest (k / 1000) (figureValue 4398046511104.0009765625) := by
  obtain ⟨again, thousandths⟩ := runText_of_readRun_runText extremes ⟨by decide, by decide, by decide⟩
  have finite : (4398046511104.0009765625 : Float).isFinite = true := by decide
  obtain ⟨k, rounds, -, nearest, -⟩ := thousandths _ finite
  exact ⟨again, finite, k, rounds, nearest⟩

end MeshTrace.Report
