import MeshTrace.Command.Outcome
import MeshTrace.Files.Saving

namespace MeshTrace.Command

/-- Where the figures of the runs come from. -/
inductive Material
  /-- From the trace of each run; its report is written beside it if `saved` holds. -/
  | traces (file : String) (saved : Bool)
  /-- From the report of each run. -/
  | reports (file : String)
  deriving DecidableEq, Repr

/-- The analysis of several runs. -/
structure CampaignCommand where
  material : Material
  /-- The directory that holds a directory for each run. -/
  runs : String
  /-- The directory for the results, if it is another. -/
  output : Option String
  settings : Option String
  /-- Whether the standard deviation is reported, whatever the settings say. -/
  deviation : Bool

namespace CampaignCommand

def name : String := "msa-analyzer"

/-- Values of options for counts. -/
def isCount (s : String) : Bool := (Number.counter? s.toList).isSome

def spec : Spec where
  options := [⟨"config", some 'c', some isPath⟩, ⟨"output", some 'o', some isPath⟩,
    ⟨"log-level", none, some isText⟩, ⟨"threads", some 'j', some isCount⟩,
    ⟨"std-dev", none, none⟩, helpOption, versionOption]
  positionals := []
  subcommands := ["traces", "reports", "help"]

def tracesSpec : Spec where
  options := [⟨"trace-name", none, some isText⟩, ⟨"save-runs", none, none⟩, helpOption]
  positionals := [isPath]
  subcommands := []

def reportsSpec : Spec where
  options := [⟨"report-name", none, some isText⟩, helpOption]
  positionals := [isPath]
  subcommands := []

/-- What stands behind the name of a subcommand: where the figures come from, and the directory of
the runs. -/
def readSubcommand : Option (String × List String) → Except Halt (Material × String)
  | some ("traces", args) => do
    let a ← Arguments.read tracesSpec args
    let file := (a.value? "trace-name").getD "COOJA.testlog"
    a.single fun runs => (.traces file (a.hasFlag "save-runs"), runs)
  | some ("reports", args) => do
    let a ← Arguments.read reportsSpec args
    let file := (a.value? "report-name").getD Report.runTextName
    a.single fun runs => (.reports file, runs)
  | some ("help", args) =>
    if args.length ≤ 1 && args.all spec.subcommands.contains then throw .help else throw .usage
  | _ => throw .usage

/-- Reads a command line. -/
def read (args : List String) : Except Halt CampaignCommand := do
  let a ← Arguments.read spec args
  let (material, runs) ← readSubcommand a.subcommand
  return ⟨material, runs, a.value? "output", a.value? "config", a.hasFlag "std-dev"⟩

variable {m : Type → Type} [Monad m] [FileStore m]

/-- The figures of the runs that can be used, with their names. -/
def figures (c : CampaignCommand) (settings : Settings Float) :
    ExceptT Failure m (List (String × RunScalars Float)) := do
  let names ← loadRunNames c.runs
  let place (name file : String) : String := FileStore.join (FileStore.join c.runs name) file
  match c.material with
  | .traces file saved =>
    let runs ← loadEach (fun name => RunSummary.load (place name file) settings) names
    let runs := runs.map fun (name, _, summary) => (name, summary.scalars)
    if saved then
      for (name, scalars) in runs do
        Report.saveRun (FileStore.join c.runs name) scalars
    return runs
  | .reports file => loadEach (fun name => Report.loadRun (place name file)) names

/-- The settings, with the choices of the command line. -/
def choose (c : CampaignCommand) (s : Settings Float) : Settings Float :=
  if c.deviation then { s with campaign := { s.campaign with spread := .deviation } } else s

/-- Puts the runs together and saves the results; what is printed. -/
def work (c : CampaignCommand) (timestamp : String) : ExceptT Failure m (List Char) := do
  let settings := c.choose (← Settings.load c.settings)
  let runs ← c.figures settings
  if runs.isEmpty then throw (.noRuns c.runs)
  let summary := CampaignSummary.ofFloatRuns settings.campaign (runs.map (·.2))
  let output := c.output.getD c.runs
  Report.makeOutput output
  Report.saveCampaign output summary
  Report.saveCampaignDocument output
    (Report.campaignReportDocument timestamp c.runs (runs.map (·.1)) summary)
  return Report.campaignText summary ++ ['\n']

/-- Carries out a command line. -/
def perform (timestamp : String) (args : List String) : m Outcome := do
  match read args with
  | .error halt => return .ofHalt name spec halt
  | .ok c => return .ofWork (← (c.work timestamp).run)

end CampaignCommand

end MeshTrace.Command
