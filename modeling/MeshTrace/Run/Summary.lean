import MeshTrace.Node.Record
import MeshTrace.Run.Fairness
import MeshTrace.Run.Tracker
import MeshTrace.Stats.Moments

namespace MeshTrace

/-- The mean of a metric, and how far its values spread. -/
structure MeanSpread (α : Type) where
  mean : α
  spread : α

/-- The figures of a run that its text report carries. -/
structure RunScalars (α : Type) where
  /-- How many percent of the frames were acknowledged. -/
  linkPar : α
  linkQueueDropped : Nat
  pdr : MeanSpread α
  totalSent : Nat
  totalReceived : Nat
  parentSwitches : MeanSpread α
  /-- In seconds. -/
  meanTimeJoined : α
  /-- In milliseconds. -/
  delay : MeanSpread α
  /-- In milliseconds. -/
  jitter : MeanSpread α
  fairness : Fairness α

/-- How many percent of all packets arrived. -/
def RunScalars.endToEndPdr {α : Type} [Scalar α] (s : RunScalars α) : α :=
  Arith.percentage s.totalReceived s.totalSent

/-- The result of a whole trace. -/
structure RunSummary (α : Type) where
  /-- By increasing id, without the coordinator. -/
  nodes : List (NodeRecord α)
  /-- How many nodes the trace mentions, the coordinator included. -/
  nodeCount : Nat
  endTime : Millis
  linkTx : Nat
  linkAck : Nat
  linkQueueDropped : Nat
  linkPar : α
  totalSent : Nat
  totalReceived : Nat
  endToEndPdr : α
  parentSwitchTotal : Nat
  meanTimeJoined : α
  fairness : Fairness α
  /-- How many listed nodes the fairness leaves out because nothing of theirs arrived. -/
  fairnessExcluded : Nat
  pdr : MeanSpread α
  parentSwitches : MeanSpread α
  delay : MeanSpread α
  jitter : MeanSpread α
  /-- The jitter over the arrivals of all nodes, in milliseconds. -/
  packetJitter : α
  diagnostics : Diagnostics

namespace RunSummary

open Arith Scalar

variable {α : Type} [Scalar α]

/-- The figures of the text report. -/
def scalars (s : RunSummary α) : RunScalars α where
  linkPar := s.linkPar
  linkQueueDropped := s.linkQueueDropped
  pdr := s.pdr
  totalSent := s.totalSent
  totalReceived := s.totalReceived
  parentSwitches := s.parentSwitches
  meanTimeJoined := s.meanTimeJoined
  delay := s.delay
  jitter := s.jitter
  fairness := s.fairness

/-- The sum of a counter over records, or the largest counter if the sum is larger. -/
def counterTotal (f : NodeRecord α → Nat) (records : List (NodeRecord α)) : Nat :=
  records.foldl (fun sum r => addCounter (f r) sum) 0

/-- The mean and the deviation of a metric over records. -/
def meanSpread (f : NodeRecord α → α) (records : List (NodeRecord α)) : MeanSpread α :=
  ⟨Stats.mean (records.map f), Stats.deviation (records.map f)⟩

/-- The fairness index of a metric over the records in which it is defined. -/
def fairnessOf (f : NodeRecord α → α) (records : List (NodeRecord α)) : α :=
  Fairness.index (Stats.defined (records.map f))

/-- The records of a trace that are listed. -/
def listed (nodes : List (Node α)) (s : Settings α) : List (NodeRecord α) :=
  ((nodes.filter (·.id != s.coordinator)).map (·.record s)).filter
    fun r => r.isValid || s.includeInvalid

/-- Puts the nodes of a trace together. Totals of traffic are over the valid records; the coordinator
counts as a node, but has no time to be joined. -/
def ofTrace (trace : TrackedTrace α) (s : Settings α) : RunSummary α :=
  let all := trace.nodes.values
  let nodes := listed all s
  let valid := nodes.filter (·.isValid)
  let linkTx := counterTotal (·.linkTx) valid
  let linkAck := counterTotal (·.linkAck) valid
  let totalSent := counterTotal (·.packetsSent) valid
  let totalReceived := counterTotal (·.packetsReceived) valid
  let delivering := nodes.filter (0 < ·.packetsReceived)
  { nodes
    nodeCount := all.length
    endTime := trace.endTime
    linkTx
    linkAck
    linkQueueDropped := counterTotal (·.linkQueueDropped) valid
    linkPar := percentage linkAck linkTx
    totalSent
    totalReceived
    endToEndPdr := percentage totalReceived totalSent
    parentSwitchTotal := counterTotal (·.parentSwitches) nodes
    meanTimeJoined :=
      if 1 < all.length then total (nodes.map (·.timeJoined)) / ofNat (all.length - 1)
      else ofNat 0
    fairness :=
      { pdr := fairnessOf (·.pdr) delivering
        parentSwitches := fairnessOf (fun r => ofNat r.parentSwitches) delivering
        delay := fairnessOf (·.meanDelay) delivering
        jitter := fairnessOf (·.jitter) delivering }
    fairnessExcluded := nodes.length - delivering.length
    pdr := meanSpread (·.pdr) nodes
    parentSwitches := meanSpread (fun r => ofNat r.parentSwitches) nodes
    delay := meanSpread (·.meanDelay) nodes
    jitter := meanSpread (·.jitter) nodes
    packetJitter := (Delay.jitter? (nodes.flatMap (·.delays))).getD undefined
    diagnostics :=
      (all.filter (·.id != s.coordinator)).foldl (fun d n => n.warnings d) trace.diagnostics }

end RunSummary

end MeshTrace
