import MeshTrace.Number.Fixed
import MeshTrace.Report.Shapes
import MeshTrace.Run.Summary

namespace MeshTrace.Report

/-- Figures of a run report have three decimal places. -/
def figure (x : Float) : List Char := Number.fixedText 3 x

def counter (n : Nat) : List Char := Nat.toDigits 10 n

/-- A mean and its standard deviation. -/
def meanText (p : MeanSpread Float) : List Char :=
  "[ mean= ".toList ++ figure p.mean ++ " std= ".toList ++ figure p.spread ++ " ]".toList

/-- The five lines of the report of a run. -/
def runLines (s : RunScalars Float) : List (List Char) :=
  ["Link-layer PAR = ".toList ++ figure s.linkPar ++ " (total of ".toList ++ counter s.linkQueueDropped ++
      " packets dropped in queue) End-to-end PDR = ".toList ++ meanText s.pdr,
    "Total packets sent = ".toList ++ counter s.totalSent ++ " Total packets received = ".toList ++
      counter s.totalReceived,
    "No. of parent switches = ".toList ++ meanText s.parentSwitches ++ " Avg. time joined = ".toList ++
      figure s.meanTimeJoined ++ " s".toList,
    "End-to-end total delay = ".toList ++ meanText s.delay ++ " ms End-to-end total jitter = ".toList ++
      meanText s.jitter ++ " ms".toList,
    "Jain's Justice Index: PDR = ".toList ++ figure s.fairness.pdr ++ " Parent Switches = ".toList ++
      figure s.fairness.parentSwitches ++ " Delay = ".toList ++ figure s.fairness.delay ++
      " Jitter = ".toList ++ figure s.fairness.jitter]

/-- The report of a run, without a final line feed. -/
def runText (s : RunScalars Float) : List Char := joinLines (runLines s)

end MeshTrace.Report
