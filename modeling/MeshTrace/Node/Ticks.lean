import MeshTrace.Trace.Event

namespace MeshTrace

/-- The ticks that a node has reported for the states of its hardware, and for all of them. -/
structure Ticks where
  cpuOn : Nat
  cpuSleep : Nat
  cpuDeepSleep : Nat
  radioTx : Nat
  radioRx : Nat
  /-- Reception in periods that began while the node was joined. -/
  radioRxJoined : Nat
  total : Nat
  /-- All ticks of periods that began while the node was joined. -/
  totalJoined : Nat
  deriving DecidableEq, Repr

namespace Ticks

/-- Nothing reported. -/
def none : Ticks := ⟨0, 0, 0, 0, 0, 0, 0, 0⟩

instance : Inhabited Ticks := ⟨none⟩

/-- Adds ticks spent in one state. -/
def spend (t : Ticks) (ticks : Nat) : Component → Ticks
  | .cpuOn => { t with cpuOn := addCounter t.cpuOn ticks }
  | .cpuSleep => { t with cpuSleep := addCounter t.cpuSleep ticks }
  | .cpuDeepSleep => { t with cpuDeepSleep := addCounter t.cpuDeepSleep ticks }
  | .radioTx => { t with radioTx := addCounter t.radioTx ticks }
  | .radioRx => { t with radioRx := addCounter t.radioRx ticks }

end Ticks

end MeshTrace
