import MeshTrace.Command.Outcome
import MeshTrace.Files.Saving
import MeshTrace.Report.Table

namespace MeshTrace.Command

/-- The analysis of one trace. -/
structure RunCommand where
  trace : String
  /-- The directory for the results. -/
  output : String
  settings : Option String
  /-- Whether the table of the nodes is left out. -/
  quiet : Bool

namespace RunCommand

def name : String := "rplsim"

def spec : Spec where
  options := [⟨"trace", some 't', some isPath⟩, ⟨"output", some 'o', some isPath⟩,
    ⟨"config", some 'c', some isPath⟩, ⟨"log-level", none, some isText⟩,
    ⟨"quiet", some 'q', none⟩, helpOption, versionOption]
  positionals := []
  subcommands := []

def ofArguments (a : Arguments) : RunCommand where
  trace := (a.value? "trace").getD "COOJA.testlog"
  output := (a.value? "output").getD "."
  settings := a.value? "config"
  quiet := a.hasFlag "quiet"

variable {m : Type → Type} [Monad m] [FileStore m]

/-- Analyzes the trace and saves the results; what is printed. -/
def work (c : RunCommand) (timestamp : String) : ExceptT Failure m (List Char) := do
  let settings ← Settings.load c.settings
  let (framing, summary) ← RunSummary.load c.trace settings
  Report.makeOutput c.output
  Report.saveRun c.output summary.scalars
  Report.saveRunDocument c.output (Report.runDocument timestamp c.trace framing summary)
  let lines := if c.quiet then Report.runLines summary.scalars else Report.overview summary
  return lines.flatMap (· ++ ['\n'])

/-- Carries out a command line. -/
def perform (timestamp : String) (args : List String) : m Outcome := do
  match Arguments.read spec args with
  | .error halt => return .ofHalt name spec halt
  | .ok a => return .ofWork (← ((ofArguments a).work timestamp).run)

end RunCommand

end MeshTrace.Command
