import MeshTrace.Number.Integer

namespace MeshTrace

/-- The number that the name of a run is, if it is one. -/
def runNumber? (name : String) : Option Nat := Number.counter? name.toList

/-- Whether the run with one name may stand before the run with another: numbers stand in numeric
order, and before all other names, which stand in alphabetical order. -/
def runBefore (a b : String) : Bool :=
  match runNumber? a, runNumber? b with
  | some x, some y => x ≤ y
  | some _, none => true
  | none, some _ => false
  | none, none => a ≤ b

/-- The runs of a campaign in order. Names of the same number keep the order in which they are
given. -/
def sortRuns (names : List String) : List String := names.mergeSort runBefore

end MeshTrace
