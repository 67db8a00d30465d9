import MeshTrace.Run.Summary
import MeshTrace.Settings.Basic
import MeshTrace.Stats.Student

namespace MeshTrace

/-- Several runs of the same scenario put together: the mean of every metric over the runs, and its
spread. -/
structure CampaignSummary (α : Type) where
  runs : Nat
  spreadKind : SpreadKind
  confidenceLevel : α
  linkPar : MeanSpread α
  linkQueueDropped : MeanSpread α
  /-- Of the mean over the nodes of each run. -/
  pdr : MeanSpread α
  /-- Of the totals of each run. -/
  endToEndPdr : MeanSpread α
  totalSent : MeanSpread α
  totalReceived : MeanSpread α
  parentSwitches : MeanSpread α
  meanTimeJoined : MeanSpread α
  delay : MeanSpread α
  jitter : MeanSpread α
  fairness : Fairness (MeanSpread α)

namespace CampaignSummary

variable {α : Type} [Scalar α]

/-- The mean and the chosen spread of the samples that are defined. -/
def spreadOf (quantile : α → α → α) (s : CampaignSettings α) (samples : List α) : MeanSpread α where
  mean := Stats.mean samples
  spread :=
    match s.spread with
    | .deviation => Stats.deviation samples
    | .confidence => Stats.marginOfError quantile s.confidenceLevel samples

/-- Puts the figures of several runs together. -/
def ofRuns (quantile : α → α → α) (s : CampaignSettings α) (runs : List (RunScalars α)) :
    CampaignSummary α :=
  let metric (f : RunScalars α → α) : MeanSpread α := spreadOf quantile s (runs.map f)
  { runs := runs.length
    spreadKind := s.spread
    confidenceLevel := s.confidenceLevel
    linkPar := metric (·.linkPar)
    linkQueueDropped := metric fun r => Arith.ofNat r.linkQueueDropped
    pdr := metric (·.pdr.mean)
    endToEndPdr := metric (·.endToEndPdr)
    totalSent := metric fun r => Arith.ofNat r.totalSent
    totalReceived := metric fun r => Arith.ofNat r.totalReceived
    parentSwitches := metric (·.parentSwitches.mean)
    meanTimeJoined := metric (·.meanTimeJoined)
    delay := metric (·.delay.mean)
    jitter := metric (·.jitter.mean)
    fairness :=
      { pdr := metric (·.fairness.pdr)
        parentSwitches := metric (·.fairness.parentSwitches)
        delay := metric (·.fairness.delay)
        jitter := metric (·.fairness.jitter) } }

/-- Puts the figures of several runs together, the margins of error by Student's distribution. -/
def ofFloatRuns (s : CampaignSettings Float) (runs : List (RunScalars Float)) :
    CampaignSummary Float :=
  ofRuns Stats.Student.quantile s runs

end CampaignSummary

end MeshTrace
