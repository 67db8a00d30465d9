import MeshTrace.Files.Store
import MeshTrace.Report.Reading
import MeshTrace.Settings.Basic

namespace MeshTrace

/-- What is read from a file or directory. -/
inductive Source
  | settings
  | trace
  | report
  | runs
  deriving DecidableEq, Repr

/-- What is written to a file. -/
inductive Product
  | runReport
  | campaignReport
  | document
  deriving DecidableEq, Repr

/-- Why a piece of work with files fails. -/
inductive Failure
  | unread (source : Source) (path : String) (cause : FileError)
  /-- The settings are not a document of the expected form. -/
  | malformedSettings (path : String)
  /-- The settings make no sense. -/
  | invalidSettings (fault : SettingsError)
  /-- A report does not have the expected form. -/
  | malformedReport (path : String) (cause : ReportError)
  /-- No run of a campaign can be used. -/
  | noRuns (directory : String)
  /-- A directory cannot be made. -/
  | unmade (directory : String) (cause : FileError)
  | unwritten (product : Product) (path : String) (cause : FileError)

namespace Source

def name : Source → String
  | settings => "configuration file"
  | trace => "trace file"
  | report => "report"
  | runs => "runs directory"

end Source

namespace Product

def name : Product → String
  | runReport => "text report"
  | campaignReport => "multi-run report"
  | document => "JSON report"

end Product

namespace Failure

/-- The failure in words. -/
def message : Failure → String
  | unread source path _ => "Failed to read " ++ source.name ++ ": " ++ path
  | malformedSettings path => "Failed to parse " ++ Source.settings.name ++ ": " ++ path
  | invalidSettings fault => fault.message
  | malformedReport path _ => "Failed to parse " ++ Source.report.name ++ ": " ++ path
  | noRuns directory => "No run could be analyzed in " ++ directory
  | unmade directory _ => "Failed to create output directory: " ++ directory
  | unwritten product path _ => "Failed to write " ++ product.name ++ " to " ++ path

end Failure

end MeshTrace
