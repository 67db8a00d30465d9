import MeshTrace.Scalar
import MeshTrace.Node.Ledger
import MeshTrace.Node.Ticks

namespace MeshTrace

/-- What is known of one node at some point of a trace. -/
structure Node (α : Type) where
  id : NodeId
  joined : Bool
  /-- The first association with the time-slotted network. -/
  associatedAt : Option Millis
  /-- The start of the joined episode that is open. -/
  joinedSince : Option Millis
  /-- The length of all closed episodes together. -/
  timeJoined : Int
  parentSwitches : Nat
  parent : Option Address
  /-- The link-layer address that the link counters are accounted for. -/
  parentLladdr : Option Address
  ledger : Ledger
  linkTx : Nat
  linkAck : Nat
  linkQueueDropped : Nat
  ticks : Ticks
  /-- Whether the node was joined at its last report of reception ticks, and has not left since. -/
  ticksJoined : Bool
  /-- The length of the accounting period, in seconds. -/
  periodSeconds : Nat
  ticksPerSecond : α

namespace Node

variable {α : Type} [Scalar α]

/-- The accounting period until a node reports one, in seconds. -/
def defaultPeriod : Nat := 60

/-- A node of which nothing is known but its number. -/
def fresh (id : NodeId) : Node α where
  id
  joined := false
  associatedAt := none
  joinedSince := none
  timeJoined := 0
  parentSwitches := 0
  parent := none
  parentLladdr := none
  ledger := .empty
  linkTx := 0
  linkAck := 0
  linkQueueDropped := 0
  ticks := .none
  ticksJoined := false
  periodSeconds := defaultPeriod
  ticksPerSecond := Arith.ofNat 1

/-- Opens a joined episode unless one is open. -/
def join (n : Node α) (time : Millis) : Node α :=
  { n with joined := true, joinedSince := some (n.joinedSince.getD time) }

/-- Closes the open episode. An episode that ends before it starts has no length. -/
def closeEpisode (n : Node α) (time : Millis) : Node α :=
  match n.joinedSince with
  | none => n
  | some since =>
    { n with
      joinedSince := none
      timeJoined := clampTime (n.timeJoined + max (clampTime (time - since)) 0) }

/-- Ends being joined. -/
def leave (n : Node α) (time : Millis) : Node α :=
  { n with joined := false, ticksJoined := false }.closeEpisode time

/-- Whether the closed episodes have any length. -/
def hasJoined (n : Node α) : Bool := 0 < n.timeJoined

/-- Accounts link counters if they are about the parent. -/
def countLink (n : Node α) (counters : LinkCounters) (neighbour : Address) : Node α :=
  if n.parentLladdr = some neighbour then
    { n with
      linkTx := addCounter n.linkTx counters.tx
      linkAck := addCounter n.linkAck counters.ack
      linkQueueDropped := addCounter n.linkQueueDropped counters.queueDrops }
  else n

/-- Accounts one line of the energy report. Whether the next period counts as joined is decided when
the reception ticks of this one are reported. -/
def countEnergest (n : Node α) : EnergestReport → Node α
  | .period seconds => if seconds = 0 then n else { n with periodSeconds := seconds }
  | .total ticks =>
    { n with
      ticks :=
        { n.ticks with
          total := addCounter n.ticks.total ticks
          totalJoined :=
            if n.ticksJoined then addCounter n.ticks.totalJoined ticks else n.ticks.totalJoined }
      ticksPerSecond := Arith.ofNat ticks / Arith.ofNat n.periodSeconds }
  | .spent .radioRx ticks =>
    let spent := n.ticks.spend ticks .radioRx
    { n with
      ticks :=
        { spent with
          radioRxJoined :=
            if n.ticksJoined then addCounter spent.radioRxJoined ticks else spent.radioRxJoined }
      ticksJoined := n.joined }
  | .spent component ticks => { n with ticks := n.ticks.spend ticks component }

/-- What an event of the node itself changes. Packets and the end of the simulation are not accounted
here. -/
def apply (n : Node α) (time : Millis) : EventKind → Node α
  | .associated => { n with associatedAt := some (n.associatedAt.getD time) }.join time
  | .left => n.leave time
  | .leftNetwork => n.leave time
  | .timeSourceUpdated lladdr => { n with parentLladdr := lladdr }
  | .parentLladdrUpdated lladdr => { n with parentLladdr := lladdr }
  | .parentChanged _ new =>
    let n := { n with parentSwitches := n.parentSwitches + 1, parent := new }
    if new.isSome then n.join time else n.leave time
  | .linkStats counters neighbour => n.countLink counters neighbour
  | .energest report => n.countEnergest report
  | .packetSent _ => n
  | .packetReceived _ _ => n
  | .simulationEnded _ => n

end Node

end MeshTrace
