import MeshTrace.Text.Blank
import MeshTrace.Text.Search
import MeshTrace.Number.Reading
import MeshTrace.Trace.Event

namespace MeshTrace

/-- How the columns before the message of a line are laid out. -/
inductive Framing
  /-- Microseconds, node and message, between blanks. -/
  | simulator
  /-- Seconds since some epoch, node tag and message, between semicolons. -/
  | testbed
  deriving DecidableEq, Repr

/-- A line taken apart. -/
structure Columns where
  time : Millis
  node : NodeId
  message : List Char
  deriving DecidableEq, Repr

namespace Framing

def name : Framing → String
  | simulator => "simulator"
  | testbed => "testbed"

/-- What the simulator writes at the start of a trace. -/
def banner : String := "Starting COOJA logger"

/-- A trace with the banner comes from the simulator, all others from a testbed. -/
def detect (content : List Char) : Framing :=
  if Text.occurs banner.toList content then simulator else testbed

/-- Reads the columns of a simulator line. -/
def simulatorColumns? (line : List Char) : Option Columns :=
  match Text.nextWord? line with
  | none => none
  | some (time, rest) =>
    match Text.nextWord? rest with
    | none => none
    | some (node, message) =>
      match Number.time? time, Number.short? node with
      | some micros, some id => some ⟨micros / 1000, id, message⟩
      | _, _ => none

/-- The seconds in the first column of a testbed line. -/
def testbedSeconds? (line : List Char) : Option Float :=
  match Text.columns ';' 3 line with
  | time :: _ => (Number.float? (Text.trim time)).filter Float.isFinite
  | [] => none

/-- Leaves out the first `n` bytes of a text, if a character ends there. -/
def dropBytes? : Nat → List Char → Option (List Char)
  | 0, cs => some cs
  | _ + 1, [] => none
  | n + 1, c :: cs => if c.utf8Size ≤ n + 1 then dropBytes? (n + 1 - c.utf8Size) cs else none

/-- The number of a node in its tag, which follows a name of three bytes. -/
def tagNode? (tag : List Char) : Option NodeId :=
  match dropBytes? 3 tag with
  | some digits => Number.short? digits
  | none => none

/-- Reads the columns of a testbed line whose time is `seconds`, where the trace starts at
`origin`. -/
def testbedColumns? (origin seconds : Float) (line : List Char) : Option Columns :=
  match Text.columns ';' 3 line with
  | [_, tag, message] =>
    (tagNode? (Text.trim tag)).map fun node =>
      ⟨(Binary64.ofFloat ((seconds - origin) * 1000.0)).toTime, node, Text.trim message⟩
  | _ => none

end Framing

end MeshTrace
