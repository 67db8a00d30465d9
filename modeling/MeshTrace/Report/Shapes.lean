import MeshTrace.Text.Shape

namespace MeshTrace.Report

open Text

/-- A mean and a spread: the spread is written as a standard deviation and read under either name. -/
def pairShape : Shape :=
  [.text "[ mean= ", .word, .text " ", .oneOf ["std=", "moe="] false, .text " ", .word, .text " ]"]

/-- The line about frames and the packets of each node. -/
def linkShape : Shape :=
  [.text "Link-layer PAR = ", .word, .text " (total of ", .digits,
    .text " packets dropped in queue) End-to-end PDR = "] ++ pairShape

/-- The line about the packets of all nodes. -/
def totalsShape : Shape :=
  [.text "Total packets sent = ", .digits, .text " Total packets received = ", .digits]

/-- The line about joining. -/
def joiningShape : Shape :=
  [.text "No. of parent switches = "] ++ pairShape ++ [.text " Avg. time joined = ", .word,
    .text " s"]

/-- The line about delays. -/
def delayShape : Shape :=
  [.text "End-to-end total delay = "] ++ pairShape ++ [.text " ms End-to-end total jitter = "] ++
    pairShape ++ [.text " ms"]

/-- The line about fairness. -/
def fairnessShape : Shape :=
  [.text "Jain's Justice Index: PDR = ", .word, .text " Parent Switches = ", .word,
    .text " Delay = ", .word, .text " Jitter = ", .word]

/-- The line about fairness in older reports, which know the index of the delay only. -/
def olderFairnessShape : Shape := [.text "Jain's Justice Index = ", .word]

/-- The lines of a report, without a final line feed. -/
def joinLines : List (List Char) → List Char
  | [] => []
  | [line] => line
  | line :: rest => line ++ '\n' :: joinLines rest

end MeshTrace.Report
