import MeshTrace.Node.State

namespace MeshTrace

/-- How often something in a trace deserved a warning. -/
structure Diagnostics where
  linesRead : Nat
  events : Nat
  malformedLines : Nat
  duplicateSent : Nat
  duplicateReceived : Nat
  unmatchedReceived : Nat
  /-- Nodes other than the coordinator that reported no ticks. -/
  zeroEnergestNodes : Nat
  /-- Nodes other than the coordinator that reported ticks, but none the last time. -/
  zeroTickRateNodes : Nat
  missingEndMarker : Bool
  deriving DecidableEq, Repr

/-- No warnings. -/
def Diagnostics.none : Diagnostics := ⟨0, 0, 0, 0, 0, 0, 0, 0, false⟩

/-- All nodes of a trace at some point of it. -/
structure Tracker (α : Type) where
  nodes : Table (Node α)
  /-- The reported end of the simulation. -/
  endTime : Option Millis
  diagnostics : Diagnostics

/-- All nodes at the end of a trace, with every joined episode closed. -/
structure TrackedTrace (α : Type) where
  nodes : Table (Node α)
  endTime : Millis
  diagnostics : Diagnostics

namespace Tracker

variable {α : Type} [Scalar α]

/-- Before the first event. -/
def start : Tracker α := ⟨∅, none, .none⟩

def node? (t : Tracker α) (id : NodeId) : Option (Node α) := t.nodes.get? id

/-- Changes a node, which is fresh if it was not known. -/
def modify (t : Tracker α) (id : NodeId) (f : Node α → Node α) : Tracker α :=
  { t with nodes := t.nodes.update id fun known => f (known.getD (.fresh id)) }

/-- Makes a node known. -/
def observe (t : Tracker α) (id : NodeId) : Tracker α := t.modify id fun n => n

/-- The ledger of a node, empty if it is not known. -/
def ledger (t : Tracker α) (id : NodeId) : Ledger :=
  match t.node? id with
  | some n => n.ledger
  | none => .empty

/-- Keeps the ledger of a node. -/
def setLedger (t : Tracker α) (id : NodeId) (ledger : Ledger) : Tracker α :=
  t.modify id fun n => { n with ledger }

/-- Adds to the warnings. -/
def warn (t : Tracker α) (f : Diagnostics → Diagnostics) : Tracker α :=
  { t with diagnostics := f t.diagnostics }

/-- Accounts a packet that a node sends. -/
def send (t : Tracker α) (id : NodeId) (seqnum : Seqnum) (time : Millis) : Tracker α :=
  let (ledger, outcome) := (t.ledger id).recordSent seqnum time
  let t := t.setLedger id ledger
  match outcome with
  | .recorded => t
  | .duplicate => t.warn fun d => { d with duplicateSent := d.duplicateSent + 1 }

/-- Accounts the arrival of a packet in the ledger of its sender. -/
def receive (t : Tracker α) (sender : NodeId) (seqnum : Seqnum) (time : Millis) : Tracker α :=
  let (ledger, outcome) := (t.ledger sender).recordReceived seqnum time
  let t := t.setLedger sender ledger
  match outcome with
  | .delivered _ => t
  | .duplicate => t.warn fun d => { d with duplicateReceived := d.duplicateReceived + 1 }
  | .unmatched => t.warn fun d => { d with unmatchedReceived := d.unmatchedReceived + 1 }

/-- Accounts one event. -/
def apply (t : Tracker α) (e : Event) : Tracker α :=
  let t := t.warn fun d => { d with events := d.events + 1 }
  match e.kind with
  | .simulationEnded time => { t with endTime := some time }
  | .packetReceived seqnum sender => (t.observe e.node).receive sender seqnum e.time
  | .packetSent seqnum => t.send e.node seqnum e.time
  | kind => t.modify e.node (·.apply e.time kind)

/-- Closes all joined episodes at the end of the simulation. If none was reported, the trace ends with
the last time it mentions. -/
def finish (t : Tracker α) (lastTime : Option Millis) : TrackedTrace α :=
  let endTime := t.endTime.getD (lastTime.getD 0)
  { nodes := t.nodes.map (·.closeEpisode endTime)
    endTime
    diagnostics := { t.diagnostics with missingEndMarker := t.endTime.isNone } }

end Tracker

end MeshTrace
