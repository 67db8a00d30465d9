import MeshTrace.Campaign.Summary
import MeshTrace.Proofs.Number.Finite
import MeshTrace.Proofs.Report.RoundTrip

namespace MeshTrace

/-- The figures of a run that a campaign puts together, the counters as numbers. -/
def RunScalars.metrics {α : Type} [Scalar α] : List (RunScalars α → α) :=
  [(·.linkPar), fun s => Arith.ofNat s.linkQueueDropped, (·.pdr.mean), (·.endToEndPdr),
    fun s => Arith.ofNat s.totalSent, fun s => Arith.ofNat s.totalReceived, (·.parentSwitches.mean),
    (·.meanTimeJoined), (·.delay.mean), (·.jitter.mean), (·.fairness.pdr), (·.fairness.parentSwitches),
    (·.fairness.delay), (·.fairness.jitter)]

/-- The mean and spread of every metric. -/
def CampaignSummary.pairs {α : Type} (c : CampaignSummary α) : List (MeanSpread α) :=
  [c.linkPar, c.linkQueueDropped, c.pdr, c.endToEndPdr, c.totalSent, c.totalReceived, c.parentSwitches,
    c.meanTimeJoined, c.delay, c.jitter, c.fairness.pdr, c.fairness.parentSwitches, c.fairness.delay,
    c.fairness.jitter]

/-- A campaign reads nothing but the metrics of its runs. -/
theorem CampaignSummary.pairs_ofRuns {α : Type} [Scalar α] (quantile : α → α → α) (s : CampaignSettings α)
    (runs : List (RunScalars α)) :
    (ofRuns quantile s runs).pairs = RunScalars.metrics.map fun metric => spreadOf quantile s (runs.map metric) :=
  rfl

namespace Report

/-- A figure reads as a finite number where it was one. -/
theorem isDefined_figureValue (x : Float) : Scalar.isDefined (figureValue x) = Scalar.isDefined x :=
  Number.isFinite_of_float?_fixedText (by decide) (float?_figure x)

/-- If each text reads as its run, all texts read as all runs. -/
theorem mapM_readRun {runs : List (RunScalars Float)} {text : RunScalars Float → List Char}
    (read : ∀ s ∈ runs, readRun (text s) = .ok (reread s)) :
    runs.mapM (fun s => readRun (text s)) = .ok (runs.map reread) := by
  induction runs with
  | nil => rfl
  | cons s runs ih =>
    have first := read s List.mem_cons_self
    have others := ih fun r member => read r (List.mem_cons_of_mem s member)
    rw [List.mapM_cons, first, others]
    rfl

/-- A metric of a run that was written is its counter, or its figure as it reads. -/
theorem metrics_reread {metric : RunScalars Float → Float} (member : metric ∈ RunScalars.metrics) :
    (∀ s, metric (reread s) = metric s) ∨ ∀ s, metric (reread s) = figureValue (metric s) := by
  simp only [RunScalars.metrics, List.mem_cons, List.not_mem_nil, or_false] at member
  rcases member with rfl | rfl | rfl | rfl | rfl | rfl | rfl | rfl | rfl | rfl | rfl | rfl | rfl | rfl
  · exact Or.inr fun _ => rfl
  · exact Or.inl fun _ => rfl
  · exact Or.inr fun _ => rfl
  · exact Or.inl fun _ => rfl
  · exact Or.inl fun _ => rfl
  · exact Or.inl fun _ => rfl
  all_goals exact Or.inr fun _ => rfl

/-- A metric is finite when it is read where it was finite when it was written. -/
theorem isDefined_metric_reread {metric : RunScalars Float → Float} (member : metric ∈ RunScalars.metrics)
    (s : RunScalars Float) : Scalar.isDefined (metric (reread s)) = Scalar.isDefined (metric s) := by
  rcases metrics_reread member with kept | read
  · rw [kept]
  · rw [read, isDefined_figureValue]

/-- Of the runs that were written and read, those that have a value of a metric are those that had one. -/
theorem defined_map_reread {metric : RunScalars Float → Float} (member : metric ∈ RunScalars.metrics)
    (runs : List (RunScalars Float)) :
    Stats.defined ((runs.map reread).map metric) =
      (runs.filter fun s => (metric s).isFinite).map fun s => metric (reread s) := by
  rw [Stats.defined, List.map_map, List.filter_map]
  exact congrArg _ (List.filter_congr fun s _ => isDefined_metric_reread member s)

end Report

namespace CampaignSummary

open Report

/-- The mean and spread of a metric whose values have been written and read. -/
def spreadOfFigures (settings : CampaignSettings Float) (runs : List (RunScalars Float))
    (metric : RunScalars Float → Float) : MeanSpread Float :=
  spreadOf Stats.Student.quantile settings ((runs.map metric).map figureValue)

/-- A campaign over the reports of its runs and one over the runs themselves agree: what a report keeps as it is
has the same mean and spread, every other figure the mean and spread of what its texts read as. The samples of a metric
that both put together are those of the runs in which it is finite. -/
theorem ofFloatRuns_of_runText (settings : CampaignSettings Float) (runs : List (RunScalars Float))
    (counted : ∀ s ∈ runs, s.Counted) :
    ∃ again : List (RunScalars Float),
      runs.mapM (fun s => readRun (runText s)) = .ok again ∧
      runs.mapM (fun s => readRun (runText s ++ ['\n'])) = .ok again ∧
      ofFloatRuns settings again =
        { ofFloatRuns settings runs with
          linkPar := spreadOfFigures settings runs (·.linkPar)
          pdr := spreadOfFigures settings runs (·.pdr.mean)
          parentSwitches := spreadOfFigures settings runs (·.parentSwitches.mean)
          meanTimeJoined := spreadOfFigures settings runs (·.meanTimeJoined)
          delay := spreadOfFigures settings runs (·.delay.mean)
          jitter := spreadOfFigures settings runs (·.jitter.mean)
          fairness :=
            { pdr := spreadOfFigures settings runs (·.fairness.pdr)
              parentSwitches := spreadOfFigures settings runs (·.fairness.parentSwitches)
              delay := spreadOfFigures settings runs (·.fairness.delay)
              jitter := spreadOfFigures settings runs (·.fairness.jitter) } } ∧
      (∀ given, (ofFloatRuns settings given).pairs =
        RunScalars.metrics.map fun metric => spreadOf Stats.Student.quantile settings (given.map metric)) ∧
      ∀ metric ∈ RunScalars.metrics,
        (again.map metric).map Scalar.isDefined = (runs.map metric).map Scalar.isDefined ∧
        Stats.defined (runs.map metric) = (runs.filter fun s => (metric s).isFinite).map metric ∧
        Stats.defined (again.map metric) =
          (runs.filter fun s => (metric s).isFinite).map fun s => metric (reread s) := by
  refine ⟨runs.map reread, ?_, ?_, ?_, pairs_ofRuns _ settings, fun metric member => ⟨?_, ?_, ?_⟩⟩
  · exact mapM_readRun fun s among => readRun_runText (counted s among)
  · exact mapM_readRun fun s among => readRun_runText_lineFeed (counted s among)
  · simp only [ofFloatRuns, ofRuns, spreadOfFigures, List.map_map, List.length_map]
    rfl
  · rw [List.map_map, List.map_map, List.map_map]
    exact List.map_congr_left fun s _ => isDefined_metric_reread member s
  · exact List.filter_map
  · exact defined_map_reread member runs

/-- A run in which no packet arrived, and two that lose digits in their reports. -/
def unevenRuns : List (RunScalars Float) :=
  [⟨100.0, 0, ⟨0.0, 0.0⟩, 7, 0, ⟨1.0, 0.0⟩, 0.0005, ⟨0.0 / 0.0, 0.0 / 0.0⟩, ⟨0.0 / 0.0, 0.0 / 0.0⟩,
      ⟨0.0 / 0.0, 1.0, 0.0 / 0.0, 0.0 / 0.0⟩⟩,
    ⟨98.76543, 3, ⟨66.66666, 1.5⟩, 30, 20, ⟨1.25, 0.25⟩, 1234.5678, ⟨150.0625, 12.0⟩, ⟨1.0 / 0.0, 0.0⟩,
      ⟨0.99999, 1.0, 0.98765, 0.5⟩⟩,
    ⟨-0.0001, counterMax, ⟨33.33333, 1.5⟩, counterMax, counterMax, ⟨1e300, 0.25⟩, 0.25, ⟨99.9995, 12.0⟩,
      ⟨2.5, 0.0⟩, ⟨0.12345, 1.0, 0.5, 0.5⟩⟩]

/-- The total delivery keeps its mean, the delay is that of the texts, and a run without a delay is
left out both times. -/
theorem ofFloatRuns_of_runText_uneven :
    (∀ s ∈ unevenRuns, s.Counted) ∧
      ∃ again : List (RunScalars Float),
        unevenRuns.mapM (fun s => readRun (runText s ++ ['\n'])) = .ok again ∧
        (ofFloatRuns .standard again).endToEndPdr = (ofFloatRuns .standard unevenRuns).endToEndPdr ∧
        (ofFloatRuns .standard again).delay = spreadOfFigures .standard unevenRuns (·.delay.mean) ∧
        (again.map (·.delay.mean)).map Scalar.isDefined = [false, true, true] ∧
        (again.map (·.jitter.mean)).map Scalar.isDefined = [false, false, true] ∧
        (Stats.defined (unevenRuns.map (·.jitter.mean))).length = 1 ∧
        (Stats.defined (again.map (·.jitter.mean))).length = 1 := by
  have counted : ∀ s ∈ unevenRuns, s.Counted := by
    intro s member
    simp only [unevenRuns, List.mem_cons, List.not_mem_nil, or_false] at member
    rcases member with rfl | rfl | rfl <;> exact ⟨by decide, by decide, by decide⟩
  obtain ⟨again, -, read, summary, -, same⟩ := ofFloatRuns_of_runText .standard unevenRuns counted
  obtain ⟨delays, -, -⟩ := same (·.delay.mean) (by simp [RunScalars.metrics])
  obtain ⟨jitters, kept, keptAgain⟩ := same (·.jitter.mean) (by simp [RunScalars.metrics])
  have one : (unevenRuns.filter fun s => s.jitter.mean.isFinite).length = 1 := by decide +kernel
  refine ⟨counted, again, read, ?_, ?_, ?_, ?_, ?_, ?_⟩
  · rw [summary]
  · rw [summary]
  · rw [delays]
    rfl
  · rw [jitters]
    rfl
  · rw [kept, List.length_map, one]
  · rw [keptAgain, List.length_map, one]

end CampaignSummary

end MeshTrace
