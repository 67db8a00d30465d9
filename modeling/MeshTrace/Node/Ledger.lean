import MeshTrace.Table
import MeshTrace.Trace.Event

namespace MeshTrace

/-- The packets of one sender: when each was sent, when it arrived at the root, and the delays of
the arrivals in their order. -/
structure Ledger where
  sent : Table Millis
  received : Table Millis
  delays : Array Int

namespace Ledger

/-- What becomes of a packet sent. A number that was sent before keeps its first time. -/
inductive SendOutcome
  | recorded
  | duplicate
  deriving DecidableEq, Repr

/-- What becomes of an arrival. A number that arrived before keeps its first arrival, and one that
was never sent is not recorded. -/
inductive ReceiveOutcome
  | delivered (delay : Int)
  | duplicate
  | unmatched
  deriving DecidableEq, Repr

/-- No packets. -/
def empty : Ledger := ⟨∅, ∅, #[]⟩

instance : Inhabited Ledger := ⟨empty⟩

/-- Records a packet sent. -/
def recordSent (l : Ledger) (seqnum : Seqnum) (time : Millis) : Ledger × SendOutcome :=
  if l.sent.contains seqnum then (l, .duplicate)
  else ({ l with sent := l.sent.insert seqnum time }, .recorded)

/-- Records an arrival. -/
def recordReceived (l : Ledger) (seqnum : Seqnum) (time : Millis) : Ledger × ReceiveOutcome :=
  if l.received.contains seqnum then (l, .duplicate)
  else
    match l.sent.get? seqnum with
    | none => (l, .unmatched)
    | some sentAt =>
      let delay := clampTime (time - sentAt)
      ({ l with
          received := l.received.insert seqnum time
          delays := l.delays.push delay }, .delivered delay)

def sentCount (l : Ledger) : Nat := l.sent.size

def receivedCount (l : Ledger) : Nat := l.received.size

end Ledger

end MeshTrace
