import MeshTrace.Command.Campaign
import MeshTrace.Command.Run

namespace MeshTrace.Command

variable {m : Type → Type} [Monad m] [FileStore m]

/-- Carries out the command with the name that comes first. -/
def perform (timestamp : String) : List String → m Outcome
  | name :: args =>
    if name = RunCommand.name then RunCommand.perform timestamp args
    else if name = CampaignCommand.name then CampaignCommand.perform timestamp args
    else return .unknown
  | [] => return .unknown

end MeshTrace.Command
