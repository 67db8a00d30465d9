import MeshTrace.Files.Failure
import MeshTrace.Files.Loading
import MeshTrace.Report.Campaign
import MeshTrace.Report.Json
import MeshTrace.Report.Writing

namespace MeshTrace.Report

open FileStore

variable {m : Type → Type} [Monad m] [FileStore m]

/-- The file of the report of a run. -/
def runTextName : String := "analysis_results.txt"

/-- The file of the document about a run. -/
def runDocumentName : String := "analysis_results.json"

/-- The file of the report of several runs. -/
def campaignTextName : String := "multisim-analysis_results.txt"

/-- The file of the document about several runs. -/
def campaignDocumentName : String := "multisim-analysis_results.json"

/-- Makes the directory that results go to. -/
def makeOutput (directory : String) : ExceptT Failure m Unit :=
  attempt (makeDirectory directory) (.unmade directory)

def save (product : Product) (path : String) (text : List Char) : ExceptT Failure m Unit :=
  attempt (write path text) (.unwritten product path)

/-- Saves the report of a run in a directory. -/
def saveRun (directory : String) (s : RunScalars Float) : ExceptT Failure m Unit :=
  save .runReport (join directory runTextName) (runText s ++ ['\n'])

/-- Saves the document about a run in a directory. -/
def saveRunDocument (directory : String) (d : Document) : ExceptT Failure m Unit :=
  save .document (join directory runDocumentName) d.toText

/-- Saves the report of several runs in a directory. -/
def saveCampaign (directory : String) (s : CampaignSummary Float) : ExceptT Failure m Unit :=
  save .campaignReport (join directory campaignTextName) (campaignText s ++ ['\n'])

/-- Saves the document about several runs in a directory. -/
def saveCampaignDocument (directory : String) (d : Document) : ExceptT Failure m Unit :=
  save .document (join directory campaignDocumentName) d.toText

end MeshTrace.Report
