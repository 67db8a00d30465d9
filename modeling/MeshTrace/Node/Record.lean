import MeshTrace.Node.Delay
import MeshTrace.Node.Radio
import MeshTrace.Node.State
import MeshTrace.Run.Tracker

namespace MeshTrace

/-- What is reported about a node at the end of a trace. -/
structure NodeRecord (α : Type) where
  id : NodeId
  /-- Whether its traffic means anything. -/
  isValid : Bool
  /-- How many percent of its packets arrived. -/
  pdr : α
  /-- How many percent of its frames to the parent were acknowledged. -/
  par : α
  packetsSent : Nat
  packetsReceived : Nat
  parentSwitches : Nat
  dutyCycle : α
  dutyCycleJoined : α
  charge : α
  /-- In seconds. -/
  timeJoined : α
  /-- In milliseconds, undefined without arrivals. -/
  meanDelay : α
  /-- In milliseconds, undefined with fewer than two arrivals. -/
  jitter : α
  linkTx : Nat
  linkAck : Nat
  linkQueueDropped : Nat
  /-- In milliseconds, in the order of arrival. -/
  delays : List Int

namespace Node

open Arith Scalar

variable {α : Type} [Scalar α]

/-- Whether the traffic of a node means anything: it sent a packet and, if that is required, it was
joined for some time. -/
def isValid (n : Node α) (s : Settings α) : Bool :=
  !(s.requireJoin && !n.hasJoined) && n.ledger.sentCount != 0

/-- The record of a node. The ratios and delays of a node whose traffic means nothing are left out. -/
def record (n : Node α) (s : Settings α) : NodeRecord α :=
  let delays := if n.isValid s then n.ledger.delays.toList else []
  { id := n.id
    isValid := n.isValid s
    pdr := if n.isValid s then percentage n.ledger.receivedCount n.ledger.sentCount else ofNat 0
    par := if n.isValid s then percentage n.linkAck n.linkTx else ofNat 0
    packetsSent := n.ledger.sentCount
    packetsReceived := n.ledger.receivedCount
    parentSwitches := n.parentSwitches
    dutyCycle := n.ticks.dutyCycle?.getD (ofNat 0)
    dutyCycleJoined := n.ticks.dutyCycleJoined
    charge := if n.ticks.total = 0 then ofNat 0 else n.ticks.charge n.ticksPerSecond s.currents
    timeJoined := ofInt n.timeJoined / ofNat 1000
    meanDelay := (Delay.mean? delays).getD undefined
    jitter := (Delay.jitter? delays).getD undefined
    linkTx := n.linkTx
    linkAck := n.linkAck
    linkQueueDropped := n.linkQueueDropped
    delays }

/-- Whether a node reported no ticks at all. -/
def lacksEnergest (n : Node α) : Bool := n.ticks.total = 0

/-- Whether a node reported ticks, but none the last time. -/
def lacksTickRate (n : Node α) : Bool :=
  n.ticks.total ≠ 0 && le n.ticksPerSecond (ofNat 0)

/-- Adds the warnings about the energy accounting of a node. -/
def warnings (n : Node α) (d : Diagnostics) : Diagnostics :=
  { d with
    zeroEnergestNodes := d.zeroEnergestNodes + if n.lacksEnergest then 1 else 0
    zeroTickRateNodes := d.zeroTickRateNodes + if n.lacksTickRate then 1 else 0 }

end Node

end MeshTrace
