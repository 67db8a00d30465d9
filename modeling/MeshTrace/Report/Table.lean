import MeshTrace.Report.Writing

namespace MeshTrace.Report

/-- Fills a column from the left. -/
def column (width : Nat) (cs : List Char) : List Char :=
  List.replicate (width - cs.length) ' ' ++ cs

/-- The columns of one row, between single blanks. -/
def row (cells : List (List Char)) : List Char := [' '].intercalate cells

def headerRow : List Char :=
  row [column 5 "Node".toList, column 8 "PDR".toList, column 8 "PAR".toList, column 6 "Sent".toList,
    column 6 "Sw.".toList, column 8 "RDC".toList, column 10 "Charge".toList,
    column 10 "Joined".toList, column 10 "Delay".toList, column 10 "Jitter".toList]

def nodeRow (r : NodeRecord Float) : List Char :=
  row [column 5 (counter r.id), column 8 (Number.fixedText 2 r.pdr),
    column 8 (Number.fixedText 2 r.par), column 6 (counter r.packetsSent),
    column 6 (counter r.parentSwitches), column 8 (Number.fixedText 2 r.dutyCycle),
    column 10 (Number.fixedText 2 r.charge), column 10 (Number.fixedText 1 r.timeJoined),
    column 10 (Number.fixedText 2 r.meanDelay), column 10 (Number.fixedText 2 r.jitter)] ++
    if r.isValid then [] else "  (invalid)".toList

/-- The warnings worth a line for the user. -/
def warningLines (d : Diagnostics) : List (List Char) :=
  (if 0 < d.malformedLines + d.duplicateSent + d.duplicateReceived + d.unmatchedReceived then
    [("Warnings: ".toList ++ counter d.malformedLines ++ " malformed, ".toList ++
      counter d.duplicateSent ++ " duplicate sent, ".toList ++ counter d.duplicateReceived ++
      " duplicate received, ".toList ++ counter d.unmatchedReceived ++ " unmatched".toList)]
  else []) ++
  (if 0 < d.zeroEnergestNodes + d.zeroTickRateNodes then
    [("Energest: ".toList ++ counter d.zeroEnergestNodes ++ " node(s) without results, ".toList ++
      counter d.zeroTickRateNodes ++ " with a zero tick rate".toList)]
  else [])

/-- The table of the nodes and the report of a run, for the user. -/
def overview (s : RunSummary Float) : List (List Char) :=
  [[], "=== RPL TRACE ANALYSIS SUMMARY ===".toList, [], headerRow] ++ s.nodes.map nodeRow ++
    [[], "Nodes seen: ".toList ++ counter s.nodeCount,
      "Simulation time: ".toList ++ figure (Float.ofInt s.endTime / 1000.0) ++ " s".toList,
      "Network PDR: ".toList ++ figure s.endToEndPdr] ++
    (if 0 < s.fairnessExcluded then
      [("Left out of fairness: ".toList ++ counter s.fairnessExcluded ++ " node(s)".toList)]
    else []) ++
    warningLines s.diagnostics ++ [[]] ++ runLines s.scalars

end MeshTrace.Report
