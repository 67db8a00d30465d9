import MeshTrace.Command.Arguments
import MeshTrace.Files.Failure

namespace MeshTrace.Command

/-- How a command ends. -/
structure Outcome where
  /-- Zero if all went well. -/
  code : UInt32
  output : List Char
  /-- What went wrong, in words. -/
  complaint : String

namespace Outcome

/-- The version of the commands. -/
def version : String := "0.1.0"

/-- The end of a command that is not carried out. -/
def ofHalt (name : String) (spec : Spec) : Halt → Outcome
  | .usage => ⟨2, [], "error: the arguments are not understood\n\n" ++ spec.usage name⟩
  | .version => ⟨0, (name ++ " " ++ version ++ "\n").toList, ""⟩
  | .help => ⟨0, (spec.usage name ++ "\n").toList, ""⟩

/-- The end of a command that does not exist. -/
def unknown : Outcome := ⟨2, [], "error: there is no such command"⟩

/-- The end of a command that is carried out: what it prints, or why it fails. -/
def ofWork : Except Failure (List Char) → Outcome
  | .ok output => ⟨0, output, ""⟩
  | .error failure => ⟨1, [], "Error: " ++ failure.message⟩

end Outcome

end MeshTrace.Command
