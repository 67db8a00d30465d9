import MeshTrace.Campaign.Order
import MeshTrace.Files.Failure
import MeshTrace.Run.Analysis
import MeshTrace.Settings.Reading

namespace MeshTrace

variable {m : Type → Type} [Monad m] [FileStore m]

namespace FileStore

/-- Carries out a step that can fail, and says what its failure means. -/
def attempt {β : Type} (step : m (Except FileError β)) (failure : FileError → Failure) :
    ExceptT Failure m β :=
  ExceptT.mk do return (← step).mapError failure

/-- Reads the text of a source. -/
def loadText (source : Source) (path : String) : ExceptT Failure m (List Char) :=
  attempt (readText path) (.unread source path)

/-- Carries out what may fail: nothing comes of a failure. -/
def ifPossible {β : Type} (work : ExceptT Failure m β) : ExceptT Failure m (Option β) :=
  ExceptT.mk do return .ok (← work.run).toOption

end FileStore

open FileStore

/-- Reads settings from a file; without a file all are at their standard. -/
def Settings.load (path : Option String) : ExceptT Failure m (Settings Float) := do
  match path with
  | none => return .standard
  | some path =>
    match Settings.ofText (← loadText .settings path) with
    | .ok s => return s
    | .error .malformed => throw (.malformedSettings path)
    | .error (.invalid fault) => throw (.invalidSettings fault)

/-- Analyzes the trace in a file; also the framing that it has. -/
def RunSummary.load (path : String) (s : Settings Float) :
    ExceptT Failure m (Framing × RunSummary Float) :=
  return RunSummary.ofText (← loadText .trace path) s

/-- Reads the figures of a run back from the report in a file. -/
def Report.loadRun (path : String) : ExceptT Failure m (RunScalars Float) := do
  match Report.readRun (← loadText .report path) with
  | .ok scalars => return scalars
  | .error cause => throw (.malformedReport path cause)

/-- The runs of a campaign: each has a directory of its own. -/
def loadRunNames (directory : String) : ExceptT Failure m (List String) :=
  return sortRuns (← attempt (subdirectories directory) (.unread .runs directory))

/-- What can be loaded of the runs with some names, each with the name of its run. The others are
left out. -/
def loadEach {β : Type} (load : String → ExceptT Failure m β) (names : List String) :
    ExceptT Failure m (List (String × β)) := do
  let found ← names.mapM fun name => do
    return (← ifPossible (load name)).map fun x => (name, x)
  return found.filterMap id

end MeshTrace
