import MeshTrace.Number.Integer

namespace MeshTrace

/-- A node, as the firmware or the testbed numbers it. -/
abbrev NodeId := Nat

/-- The number that an application gives to a packet; it counts up at every sender. -/
abbrev Seqnum := Nat

/-- Milliseconds since the start of a trace. -/
abbrev Millis := Int

/-- An address as the firmware prints it. -/
abbrev Address := String

/-- What a node reports about one neighbour: transmissions, acknowledgements, receptions and frames
dropped from the full queue. -/
structure LinkCounters where
  tx : Nat
  ack : Nat
  rx : Nat
  queueDrops : Nat
  deriving DecidableEq, Repr

/-- The states of the hardware whose time is accounted. -/
inductive Component
  | cpuOn
  | cpuSleep
  | cpuDeepSleep
  | radioTx
  | radioRx
  deriving DecidableEq, Repr

/-- One line of the energy accounting that a node prints once per period. -/
inductive EnergestReport
  /-- The length of a period. -/
  | period (seconds : Nat)
  /-- All ticks of the period. -/
  | total (ticks : Nat)
  /-- The ticks spent in one state. -/
  | spent (component : Component) (ticks : Nat)
  deriving DecidableEq, Repr

inductive EventKind
  /-- The node is associated with the time-slotted network. -/
  | associated
  /-- The node leaves the time-slotted network. -/
  | left
  /-- The routing layer has left the network. -/
  | leftNetwork
  /-- Another neighbour gives the time, or none does. -/
  | timeSourceUpdated (lladdr : Option Address)
  /-- The link-layer address of the preferred parent, if there is one. -/
  | parentLladdrUpdated (lladdr : Option Address)
  /-- Another preferred parent, or none. -/
  | parentChanged (old new : Option Address)
  /-- The application of the node sends a packet. -/
  | packetSent (seqnum : Seqnum)
  /-- A packet of `sender` arrives at the node. -/
  | packetReceived (seqnum : Seqnum) (sender : NodeId)
  | linkStats (counters : LinkCounters) (neighbour : Address)
  | energest (report : EnergestReport)
  /-- The simulator ends the test at this time. -/
  | simulationEnded (time : Millis)
  deriving DecidableEq, Repr

/-- What one line of a trace reports. The end of the simulation belongs to node zero, and its time is
the reported one. -/
structure Event where
  time : Millis
  node : NodeId
  kind : EventKind
  /-- The text of the line after its columns. -/
  raw : String
  deriving DecidableEq, Repr

end MeshTrace
