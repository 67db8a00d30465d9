import MeshTrace.Node.Ticks
import MeshTrace.Settings.Basic

namespace MeshTrace.Ticks

open Arith

variable {α : Type} [Scalar α]

/-- How many percent of the time the radio was on. The ticks of the radio are a counter again. -/
def dutyCycle? (t : Ticks) : Option α :=
  if t.total = 0 then Option.none
  else some (ofNat 100 * ofNat (addWrapping t.radioTx t.radioRx) / ofNat t.total)

/-- All transmission and the reception while the node was joined, in percent of the time joined. -/
def dutyCycleJoined (t : Ticks) : α :=
  if t.totalJoined = 0 then ofNat 0
  else ofNat 100 * ofNat (addWrapping t.radioTx t.radioRxJoined) / ofNat t.totalJoined

/-- The charge in millicoulomb: the current of every state times the time in it. It is zero without a
tick rate. -/
def charge (t : Ticks) (ticksPerSecond : α) (currents : CurrentProfile α) : α :=
  if le ticksPerSecond (ofNat 0) then ofNat 0
  else
    let seconds (ticks : Nat) : α := ofNat ticks / ticksPerSecond
    currents.radioTx * seconds t.radioTx + currents.radioRx * seconds t.radioRx +
      currents.cpuOn * seconds t.cpuOn + currents.cpuSleep * seconds t.cpuSleep +
      currents.cpuDeepSleep * seconds t.cpuDeepSleep

end MeshTrace.Ticks
