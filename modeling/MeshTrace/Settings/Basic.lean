import MeshTrace.Scalar
import MeshTrace.Trace.Framing
import MeshTrace.Trace.Message
import MeshTrace.Number.Shortest

namespace MeshTrace

/-- How the framing of a trace is chosen. -/
inductive FramingMode
  | auto
  | fixed (framing : Framing)
  deriving DecidableEq, Repr

/-- The framing of a trace with this content. -/
def FramingMode.resolve (mode : FramingMode) (content : List Char) : Framing :=
  match mode with
  | auto => .detect content
  | fixed framing => framing

/-- The current that each state of the hardware draws, in milliampere. -/
structure CurrentProfile (α : Type) where
  radioTx : α
  radioRx : α
  cpuOn : α
  cpuSleep : α
  cpuDeepSleep : α

/-- How the spread of a metric over several runs is reported. -/
inductive SpreadKind
  /-- The margin of error of the mean. -/
  | confidence
  /-- The standard deviation. -/
  | deviation
  deriving DecidableEq, Repr

/-- How several runs are put together. -/
structure CampaignSettings (α : Type) where
  spread : SpreadKind
  confidenceLevel : α

/-- What a user can choose. -/
structure Settings (α : Type) where
  /-- The root of the network, which has no record. -/
  coordinator : NodeId
  /-- Whether nodes without meaningful traffic have records. -/
  includeInvalid : Bool
  /-- Whether the traffic of a node that never joined is meaningless. -/
  requireJoin : Bool
  framing : FramingMode
  mapping : LpmMapping
  currents : CurrentProfile α
  campaign : CampaignSettings α

namespace CurrentProfile

/-- A common radio chip with its processor at 48 MHz. -/
def standard : CurrentProfile Float := ⟨9.1, 5.9, 0.061 * 48.0, 1.335, 0.01⟩

end CurrentProfile

namespace CampaignSettings

def standard : CampaignSettings Float := ⟨.confidence, 0.95⟩

end CampaignSettings

/-- What the user chose badly. -/
inductive SettingsError
  /-- A current is negative or not finite. -/
  | current (name : String) (value : Float)
  /-- The confidence level is no probability between zero and one. -/
  | confidenceLevel (value : Float)

namespace SettingsError

/-- The fault in words. -/
def message : SettingsError → String
  | current name value =>
    "Invalid current profile: " ++ name ++ " must be a finite, non-negative value in mA (got " ++
      String.ofList (Number.plainText value) ++ ")"
  | confidenceLevel value =>
    "Invalid multi-run configuration: confidence_level must be strictly between 0 and 1 (got " ++
      String.ofList (Number.plainText value) ++ ")"

end SettingsError

namespace Settings

def standard : Settings Float where
  coordinator := 1
  includeInvalid := true
  requireJoin := false
  framing := .auto
  mapping := .lpmIsDeepSleep
  currents := .standard
  campaign := .standard

/-- The names of the currents, with their values, in the order in which they are checked. -/
def namedCurrents (c : CurrentProfile Float) : List (String × Float) :=
  [("radio_tx", c.radioTx), ("radio_rx", c.radioRx), ("cpu_on", c.cpuOn),
    ("cpu_sleep", c.cpuSleep), ("cpu_deep_sleep", c.cpuDeepSleep)]

/-- The first fault of the settings. -/
def fault? (s : Settings Float) : Option SettingsError :=
  match (namedCurrents s.currents).find? fun (_, value) => !value.isFinite || value < 0.0 with
  | some (name, value) => some (.current name value)
  | none =>
    let level := s.campaign.confidenceLevel
    if level > 0.0 && level < 1.0 then none else some (.confidenceLevel level)

end Settings

end MeshTrace
