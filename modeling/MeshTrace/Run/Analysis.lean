import MeshTrace.Run.Summary
import MeshTrace.Trace.Classifier

namespace MeshTrace

/-- A trace that has been read up to some line. -/
structure Analysis (α : Type) where
  classifier : Classifier
  tracker : Tracker α
  linesRead : Nat
  malformedLines : Nat

namespace Analysis

variable {α : Type} [Scalar α]

/-- Before the first line. -/
def start (framing : Framing) (mapping : LpmMapping) : Analysis α :=
  ⟨.start framing mapping, .start, 0, 0⟩

/-- Reads one line. A line with columns makes its node known, whatever its message says. -/
def readLine (a : Analysis α) (line : List Char) : Analysis α :=
  let (classifier, result) := a.classifier.classify line
  let tracker :=
    match result with
    | .ok (some event) => a.tracker.apply event
    | _ => a.tracker
  { classifier
    tracker :=
      match classifier.node with
      | some id => tracker.observe id
      | none => tracker
    linesRead := a.linesRead + 1
    malformedLines :=
      match result with
      | .error _ => a.malformedLines + 1
      | .ok _ => a.malformedLines }

/-- The trace as it stands after the lines read so far. -/
def trace (a : Analysis α) : TrackedTrace α :=
  let trace := a.tracker.finish a.classifier.lastTime
  { trace with
    diagnostics :=
      { trace.diagnostics with linesRead := a.linesRead, malformedLines := a.malformedLines } }

end Analysis

namespace RunSummary

variable {α : Type} [Scalar α]

/-- Analyzes the lines of a trace. -/
def ofLines (lines : List (List Char)) (framing : Framing) (s : Settings α) : RunSummary α :=
  .ofTrace (lines.foldl Analysis.readLine (.start framing s.mapping)).trace s

/-- Analyzes the text of a trace; also the framing that it has. -/
def ofText (text : List Char) (s : Settings α) : Framing × RunSummary α :=
  let framing := s.framing.resolve text
  (framing, ofLines (Text.lines text) framing s)

end RunSummary

end MeshTrace
