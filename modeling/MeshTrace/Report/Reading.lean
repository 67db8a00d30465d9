import MeshTrace.Number.Reading
import MeshTrace.Number.Shortest
import MeshTrace.Report.Shapes
import MeshTrace.Run.Summary

namespace MeshTrace

/-- Why a text is no report of a run. -/
inductive ReportError
  /-- There are fewer than five lines that are not blank. -/
  | tooShort (found : Nat)
  /-- One of the last five lines, counted from one, looks different. -/
  | lineMismatch (line : Nat) (content : String)
  /-- A number cannot be read. -/
  | invalidNumber (field value : String)
  deriving DecidableEq, Repr

/-- The fault in words. -/
def ReportError.message : ReportError → String
  | tooShort found =>
    "report has " ++ String.ofList (Nat.toDigits 10 found) ++ " non-empty lines, expected at least 5"
  | lineMismatch line content =>
    "report line " ++ String.ofList (Nat.toDigits 10 line) ++
      " does not match the expected shape: " ++ content
  | invalidNumber field value => "invalid " ++ field ++ " value: " ++ value

namespace Report

open Text

/-- The texts in the slots of a line, which must have the shape. -/
def slots (number : Nat) (shape : Shape) (line : List Char) : Except ReportError (List (List Char)) :=
  match shape.readAll line with
  | some slots => .ok slots
  | none => .error (.lineMismatch number (String.ofList line))

/-- The float in a slot. -/
def float (field : String) (slot : List Char) : Except ReportError Float :=
  match Number.float? slot with
  | some x => .ok x
  | none => .error (.invalidNumber field (String.ofList slot))

/-- The counter in a slot. -/
def counterIn (field : String) (slot : List Char) : Except ReportError Nat :=
  match Number.counter? slot with
  | some n => .ok n
  | none => .error (.invalidNumber field (String.ofList slot))

/-- What the line about frames says: the acknowledged share, the dropped packets and the delivered
share. -/
def readLink (line : List Char) : Except ReportError (Float × Nat × MeanSpread Float) := do
  match ← slots 1 linkShape line with
  | [par, drops, mean, spread] =>
    let par ← float "link PAR" par
    let drops ← counterIn "queue drops" drops
    let mean ← float "PDR mean" mean
    let spread ← float "PDR spread" spread
    return (par, drops, ⟨mean, spread⟩)
  | _ => throw (.lineMismatch 1 (String.ofList line))

/-- What the line about packets says. -/
def readTotals (line : List Char) : Except ReportError (Nat × Nat) := do
  match ← slots 2 totalsShape line with
  | [sent, received] =>
    let sent ← counterIn "packets sent" sent
    let received ← counterIn "packets received" received
    return (sent, received)
  | _ => throw (.lineMismatch 2 (String.ofList line))

/-- What the line about joining says: the parent switches and the time joined. -/
def readJoining (line : List Char) : Except ReportError (MeanSpread Float × Float) := do
  match ← slots 3 joiningShape line with
  | [mean, spread, time] =>
    let mean ← float "parent switches mean" mean
    let spread ← float "parent switches spread" spread
    let time ← float "time joined" time
    return (⟨mean, spread⟩, time)
  | _ => throw (.lineMismatch 3 (String.ofList line))

/-- What the line about delays says: the delay and the jitter. -/
def readDelay (line : List Char) : Except ReportError (MeanSpread Float × MeanSpread Float) := do
  match ← slots 4 delayShape line with
  | [mean, spread, jitterMean, jitterSpread] =>
    let mean ← float "delay mean" mean
    let spread ← float "delay spread" spread
    let jitterMean ← float "jitter mean" jitterMean
    let jitterSpread ← float "jitter spread" jitterSpread
    return (⟨mean, spread⟩, ⟨jitterMean, jitterSpread⟩)
  | _ => throw (.lineMismatch 4 (String.ofList line))

/-- What the line about fairness says. The older line leaves all but the index of the delay
undefined. -/
def readFairness (line : List Char) : Except ReportError (Fairness Float) := do
  match olderFairnessShape.readAll line with
  | some [delay] =>
    let delay ← float "justice index" delay
    return ⟨Scalar.undefined, Scalar.undefined, delay, Scalar.undefined⟩
  | _ =>
    match ← slots 5 fairnessShape line with
    | [pdr, switches, delay, jitter] =>
      let pdr ← float "PDR index" pdr
      let switches ← float "parent switches index" switches
      let delay ← float "delay index" delay
      let jitter ← float "jitter index" jitter
      return ⟨pdr, switches, delay, jitter⟩
    | _ => throw (.lineMismatch 5 (String.ofList line))

/-- The lines of a text that are not blank, trimmed. -/
def contentLines (text : List Char) : List (List Char) :=
  ((lines text).map trim).filter (!·.isEmpty)

/-- Reads the figures of a run from the last five lines that are not blank; anything may stand before
them. -/
def readRun (text : List Char) : Except ReportError (RunScalars Float) := do
  let content := contentLines text
  match content.drop (content.length - 5) with
  | [link, totals, joining, delays, fair] =>
    let (linkPar, linkQueueDropped, pdr) ← readLink link
    let (totalSent, totalReceived) ← readTotals totals
    let (parentSwitches, meanTimeJoined) ← readJoining joining
    let (delay, jitter) ← readDelay delays
    let fairness ← readFairness fair
    return ⟨linkPar, linkQueueDropped, pdr, totalSent, totalReceived, parentSwitches,
      meanTimeJoined, delay, jitter, fairness⟩
  | _ => throw (.tooShort content.length)

end Report

end MeshTrace
