import MeshTrace.Table
import MeshTrace.Trace.Framing
import MeshTrace.Trace.Message

namespace MeshTrace

/-- A line that has a marker but lacks what its family needs. -/
structure Malformed where
  family : Family
  defect : Defect
  line : String
  deriving DecidableEq, Repr

/-- The report about a malformed line. -/
def Malformed.message (m : Malformed) : String :=
  "malformed " ++ m.family.name ++ " line (" ++ m.defect.reason ++ "): " ++ m.line

/-- Turns the lines of one trace into events, each into at most one. -/
structure Classifier where
  framing : Framing
  mapping : LpmMapping
  /-- The first time of a testbed trace, in seconds. -/
  origin : Option Float
  /-- The testbed nodes by the numbers that their applications give them. -/
  devices : Table NodeId
  /-- The time of the last line with columns. -/
  lastTime : Option Millis
  /-- The node of the line classified last, if it had columns. -/
  node : Option NodeId

namespace Classifier

/-- Before the first line. -/
def start (framing : Framing) (mapping : LpmMapping) : Classifier :=
  ⟨framing, mapping, none, ∅, none, none⟩

/-- Reads the columns of a line. The first testbed line whose time can be read sets the origin of
all times, whether its other columns can be read or not. -/
def columns (c : Classifier) (line : List Char) : Classifier × Option Columns :=
  match c.framing with
  | .simulator => (c, Framing.simulatorColumns? line)
  | .testbed =>
    match Framing.testbedSeconds? line with
    | none => (c, none)
    | some seconds =>
      let origin := c.origin.getD seconds
      ({ c with origin := some origin }, Framing.testbedColumns? origin seconds line)

/-- The sixth word of a line. -/
def sixthWord? (line : List Char) : Option (List Char) := (Text.words line)[5]?

/-- The time in a line about the end of the test, in microseconds. -/
def endMicros? (line : List Char) : Option Int :=
  let digits := Text.search (fun cs =>
    match Text.Shape.read [.text "Test ended at simulation time", .oneOf [":", ""] false, .blanks,
        .digits] cs with
    | some ([digits], _) => some digits
    | _ => none) line
  match digits.bind Number.time? with
  | some micros => some micros
  | none => (sixthWord? line).bind Number.time?

/-- The end of the simulation, which a line without columns may report. -/
def simulationEnd? (line : List Char) : Option Event :=
  if Text.occurs "Test ended".toList line then
    (endMicros? line).map fun micros =>
      let time := micros.tdiv 1000
      ⟨time, 0, .simulationEnded time, String.ofList line⟩
  else none

/-- What a message means in this trace. A testbed numbers its nodes otherwise than the applications
do: a packet sent shows both numbers of its sender, and a packet received shows one of them. -/
def resolve (c : Classifier) (node : NodeId) :
    Message → Except Defect (Classifier × Option EventKind)
  | .ignored => .ok (c, none)
  | .event kind => .ok (c, some kind)
  | .sent seqnum label =>
    match c.framing, label with
    | .simulator, _ => .ok (c, some (.packetSent seqnum))
    | .testbed, none => .error .nodeId
    | .testbed, some label =>
      .ok ({ c with devices := c.devices.insert label node }, some (.packetSent seqnum))
  | .received seqnum label =>
    match c.framing with
    | .simulator => .ok (c, some (.packetReceived seqnum label))
    | .testbed => .ok (c, some (.packetReceived seqnum ((c.devices.get? label).getD 0)))

/-- Classifies one line. -/
def classify (c : Classifier) (line : List Char) :
    Classifier × Except Malformed (Option Event) :=
  let line := Text.trim line
  let (c, columns) := { c with node := none }.columns line
  match columns with
  | none => (c, .ok (simulationEnd? line))
  | some ⟨time, node, message⟩ =>
    let c := { c with lastTime := some time, node := some node }
    match Family.ofMessage? message with
    | none => (c, .ok none)
    | some family =>
      match (Message.read c.mapping message family).bind (c.resolve node) with
      | .error defect => (c, .error ⟨family, defect, String.ofList line⟩)
      | .ok (c, kind) => (c, .ok (kind.map (⟨time, node, ·, String.ofList message⟩)))

end Classifier

end MeshTrace
