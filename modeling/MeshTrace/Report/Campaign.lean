import MeshTrace.Campaign.Summary
import MeshTrace.Number.Fixed
import MeshTrace.Report.Shapes

namespace MeshTrace.Report

/-- The name of the spread in reports. -/
def spreadLabel : SpreadKind → List Char
  | .confidence => "moe".toList
  | .deviation => "std".toList

/-- A mean and a spread with a fixed number of places, each followed by its unit. -/
def pairText (label : List Char) (places : Nat) (unit : String) (m : MeanSpread Float) : List Char :=
  "[mean = ".toList ++ Number.fixedText places m.mean ++ unit.toList ++ '/' :: label ++
    " = ".toList ++ Number.fixedText places m.spread ++ unit.toList ++ "]".toList

/-- The five lines of the report of several runs: metrics have two places, fairness indices three. -/
def campaignLines (s : CampaignSummary Float) : List (List Char) :=
  let label := spreadLabel s.spreadKind
  let pair := pairText label 2
  let index := pairText label 3 ""
  [("Link-layer PAR: ".toList ++ pair "" s.linkPar ++ " (total packets dropped in queue: ".toList ++
      pair "" s.linkQueueDropped ++ ") End-to-end PDR: ".toList ++ pair "" s.pdr),
    ("Total packets sent: ".toList ++ pair "" s.totalSent ++ " Total packets received: ".toList ++
      pair "" s.totalReceived),
    ("Avg. no. of parent switches: ".toList ++ pair "" s.parentSwitches ++
      " Avg. time joined: ".toList ++ pair " s" s.meanTimeJoined),
    ("Avg. end-to-end total delay: ".toList ++ pair " ms" s.delay ++
      " Avg. end-to-end total jitter: ".toList ++ pair " ms" s.jitter),
    ("Avg. Justice Index: PDR = ".toList ++ index s.fairness.pdr ++ " Parent Switches = ".toList ++
      index s.fairness.parentSwitches ++ " Delay = ".toList ++ index s.fairness.delay ++
      " Jitter = ".toList ++ index s.fairness.jitter)]

/-- The report of several runs, without a final line feed. -/
def campaignText (s : CampaignSummary Float) : List Char := joinLines (campaignLines s)

end MeshTrace.Report
