import MeshTrace.Number.Reading
import MeshTrace.Settings.Basic
import MeshTrace.Text.Blank
import MeshTrace.Yaml.Node

namespace MeshTrace

/-- Why a text gives no settings. -/
inductive SettingsTextError
  /-- It is not a document of the expected form. -/
  | malformed
  /-- It says something that makes no sense. -/
  | invalid (fault : SettingsError)

namespace Yaml

/-- What a value stands for: a reference stands for the value with its anchor. -/
def Document.resolve (d : Document) : Node → Node
  | .reference k => (d.anchored.get? k).getD (.reference k)
  | n => n

/-- The tags of the kinds of scalars. -/
def standardTag (kind : String) : String := "tag:yaml.org,2002:" ++ kind

/-- The text of a scalar that may stand for a value of this kind: a plain one, or a literal one that
is tagged with the kind. -/
def Document.atom? (d : Document) (kind : String) (n : Node) : Option (List Char) :=
  match d.resolve n with
  | .scalar tag style text =>
    if style = .plain || (style = .literal && tag = some (standardTag kind)) then some text.toList
    else none
  | _ => none

/-- Leaves out a plus sign, which no second sign may follow. -/
def dropPlus? (cs : List Char) : Option (List Char) :=
  match cs with
  | '+' :: '+' :: _ => none
  | '+' :: '-' :: _ => none
  | '+' :: rest => some rest
  | _ => some cs

/-- Reads digits without a sign after a sign of their base. -/
def based? (mark : String) (base : Nat) (cs : List Char) : Option Nat :=
  match mark.toList.isPrefixOf? cs with
  | some digits => Number.natural? base digits
  | none => none

/-- Whether a decimal number has a zero in front, which makes it a text. -/
def zeroPadded (cs : List Char) : Bool := 1 < cs.length && cs.head? = some '0' && cs.all Char.isDigit

/-- Reads a number that is not negative: hexadecimal, octal, binary or decimal. -/
def number? (cs : List Char) : Option Nat := do
  let cs ← dropPlus? cs
  match based? "0x" 16 cs with
  | some n => some n
  | none =>
    match based? "0o" 8 cs with
    | some n => some n
    | none =>
      match based? "0b" 2 cs with
      | some n => some n
      | none => if zeroPadded cs then none else Number.natural? 10 cs

/-- Reads a node number. -/
def Document.nodeId? (d : Document) (n : Node) : Option NodeId :=
  (d.atom? "int" n).bind fun cs => (number? cs).filter (· < 0x100000000)

/-- Reads a truth value. -/
def Document.truth? (d : Document) (n : Node) : Option Bool :=
  match (d.atom? "bool" n).map String.ofList with
  | some "true" => some true
  | some "True" => some true
  | some "TRUE" => some true
  | some "false" => some false
  | some "False" => some false
  | some "FALSE" => some false
  | _ => none

/-- Reads a float: a finite numeral, or one of the names with a point for the other floats. -/
def floatText? (cs : List Char) : Option Float :=
  let text := String.ofList cs
  if [".nan", ".NaN", ".NAN"].contains text then some (0.0 / 0.0)
  else if ["-.inf", "-.Inf", "-.INF"].contains text then some (-1.0 / 0.0)
  else
    match dropPlus? cs with
    | none => none
    | some cs =>
      if [".inf", ".Inf", ".INF"].contains (String.ofList cs) then some (1.0 / 0.0)
      else (Number.float? cs).filter Float.isFinite

def Document.float? (d : Document) (n : Node) : Option Float := (d.atom? "float" n).bind floatText?

/-- The name in a tag of one's own, which starts with a sign. -/
def ownTag? (tag : Option String) : Option String :=
  match tag.map String.toList with
  | some ['!'] => some "!"
  | some ('!' :: name) => some (String.ofList name)
  | _ => none

/-- Reads a choice: the text of a scalar, or the tag of one that holds nothing. -/
def Document.choice? (d : Document) (n : Node) : Option String :=
  match d.resolve n with
  | .scalar tag style text =>
    match ownTag? tag with
    | none => some text
    | some name =>
      if (style = .plain || style = .literal) &&
          ["", "~", "null", "Null", "NULL"].contains text then some name
      else none
  | _ => none

/-- The name of an entry. -/
def Document.name? (d : Document) (n : Node) : Option String :=
  match d.resolve n with
  | .scalar _ _ text => some text
  | _ => none

/-- The named values of a mapping. An empty plain scalar is an empty mapping. -/
def Document.fields? (d : Document) (n : Node) : Option (List (String × Node)) :=
  match d.resolve n with
  | .mapping entries => entries.mapM fun (key, value) => (d.name? key).map fun name => (name, value)
  | .scalar _ .plain "" => some []
  | _ => none

/-- Reads the value with a name, which must not stand there twice; it is `default` if it does not
stand there. -/
def field? {β : Type} (fields : List (String × Node)) (name : String) (default : β)
    (read : Node → Option β) : Option β :=
  match fields.filter (·.1 = name) with
  | [] => some default
  | [(_, n)] => read n
  | _ => none

/-- Reads the currents of the hardware. -/
def Document.currents? (d : Document) (n : Node) : Option (CurrentProfile Float) := do
  let fields ← d.fields? n
  let standard := CurrentProfile.standard
  let radioTx ← field? fields "radio_tx" standard.radioTx d.float?
  let radioRx ← field? fields "radio_rx" standard.radioRx d.float?
  let cpuOn ← field? fields "cpu_on" standard.cpuOn d.float?
  let cpuSleep ← field? fields "cpu_sleep" standard.cpuSleep d.float?
  let cpuDeepSleep ← field? fields "cpu_deep_sleep" standard.cpuDeepSleep d.float?
  return ⟨radioTx, radioRx, cpuOn, cpuSleep, cpuDeepSleep⟩

def Document.spread? (d : Document) (n : Node) : Option SpreadKind :=
  match d.choice? n with
  | some "confidence" => some .confidence
  | some "std_dev" => some .deviation
  | _ => none

/-- Reads how several runs are put together. -/
def Document.campaign? (d : Document) (n : Node) : Option (CampaignSettings Float) := do
  let fields ← d.fields? n
  let standard := CampaignSettings.standard
  let spread ← field? fields "spread" standard.spread d.spread?
  let confidenceLevel ← field? fields "confidence_level" standard.confidenceLevel d.float?
  return ⟨spread, confidenceLevel⟩

def Document.framing? (d : Document) (n : Node) : Option FramingMode :=
  match d.choice? n with
  | some "auto" => some .auto
  | some "simulator" => some (.fixed .simulator)
  | some "testbed" => some (.fixed .testbed)
  | _ => none

def Document.mapping? (d : Document) (n : Node) : Option LpmMapping :=
  match d.choice? n with
  | some "lpm_is_deep_sleep" => some .lpmIsDeepSleep
  | some "lpm_is_sleep" => some .lpmIsSleep
  | _ => none

/-- Reads settings. What a document does not mention keeps its standard, and names of no setting are
passed over. -/
def Document.settings? (d : Document) : Option (Settings Float) := do
  let fields ← (d.root.map d.fields?).getD (some [])
  let standard := Settings.standard
  let coordinator ← field? fields "coordinator_id" standard.coordinator d.nodeId?
  let includeInvalid ← field? fields "include_invalid_nodes" standard.includeInvalid d.truth?
  let requireJoin ← field? fields "require_dag_join" standard.requireJoin d.truth?
  let framing ← field? fields "framing" standard.framing d.framing?
  let mapping ← field? fields "lpm_mapping" standard.mapping d.mapping?
  let currents ← field? fields "currents" standard.currents d.currents?
  let campaign ← field? fields "multi_run" standard.campaign d.campaign?
  return ⟨coordinator, includeInvalid, requireJoin, framing, mapping, currents, campaign⟩

end Yaml

namespace Settings

/-- Reads settings from a text; a blank text leaves all at their standard. -/
def ofText (text : List Char) : Except SettingsTextError (Settings Float) :=
  let settings :=
    if (Text.trim text).isEmpty then some standard
    else (Yaml.Document.ofText? text).bind (·.settings?)
  match settings with
  | none => .error .malformed
  | some s =>
    match s.fault? with
    | some fault => .error (.invalid fault)
    | none => .ok s

end Settings

end MeshTrace
