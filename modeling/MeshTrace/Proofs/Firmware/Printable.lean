import MeshTrace.Proofs.Firmware.Entry
import MeshTrace.Proofs.Number.Digits

namespace MeshTrace

/-- Every node has an address. -/
theorem isAddressOf_append (node : NodeId) : IsAddressOf node ("fd00::".toList ++ Nat.toDigits 16 node) := by
  have digit : ∀ d < 16, isAddressChar (Nat.digitChar d) = true ∧ ':' ≠ Nat.digitChar d ∧
      (Nat.digitChar d).toLower = Nat.digitChar d := by decide
  have digits : ∀ c ∈ Nat.toDigits 16 node, isAddressChar c = true ∧ ':' ≠ c ∧ c.toLower = c := by
    intro c member
    obtain ⟨d, small, rfl⟩ := Number.exists_of_mem_toDigits (by decide) member
    exact digit d small
  constructor
  · intro c member
    rcases List.mem_append.mp member with network | group
    · exact List.all_eq_true.mp (by decide : "fd00::".toList.all isAddressChar = true) c network
    · exact (digits c group).1
  · refine ⟨_, _, 0, rfl, Or.inr rfl, fun member => (digits ':' member).2.1 rfl, ?_⟩
    exact (List.map_congr_left (g := id) fun c member => (digits c member).2.2).trans (List.map_id _)

/-- The events of nodes, with values that the firmware can print. -/
def EventKind.Printable : EventKind → Prop
  | associated | left | leftNetwork => True
  | timeSourceUpdated lladdr | parentLladdrUpdated lladdr => ∀ address ∈ lladdr, IsAddress address.toList
  | parentChanged old new =>
    (∀ address ∈ old, IsAddress address.toList) ∧ ∀ address ∈ new, IsAddress address.toList
  | packetSent seqnum => seqnum < 0x100000000
  | packetReceived seqnum sender => seqnum < 0x100000000 ∧ sender < 0x100000000
  | linkStats counters neighbour =>
    counters.tx < 0x10000000000000000 ∧ counters.ack < 0x10000000000000000 ∧
      counters.rx < 0x10000000000000000 ∧ counters.queueDrops < 0x10000000000000000 ∧
      IsAddress neighbour.toList
  | energest (.period n) | energest (.total n) | energest (.spent _ n) => n < 0x10000000000000000
  | simulationEnded _ => False

/-- Every state has a label. -/
theorem EnergyLabel.exists_component (mapping : LpmMapping) (component : Component) :
    ∃ label : EnergyLabel, label.component mapping = component := by
  cases mapping <;> cases component <;>
    first
    | exact ⟨.cpu, rfl⟩
    | exact ⟨.lpm, rfl⟩
    | exact ⟨.deepLpm, rfl⟩
    | exact ⟨.radioTx, rfl⟩
    | exact ⟨.radioRx, rfl⟩

/-- Every such event is reported by some message. -/
theorem Entry.exists_of_printable (mapping : LpmMapping) {kind : EventKind} (printable : kind.Printable) :
    ∃ e : Entry, e.Fits ∧ e.kind mapping = kind := by
  cases kind with
  | associated => exact ⟨.associated 0, trivial, rfl⟩
  | left => exact ⟨.left 0 0 0, trivial, rfl⟩
  | leftNetwork => exact ⟨.leftNetwork, trivial, rfl⟩
  | timeSourceUpdated lladdr => exact ⟨.timeSource none lladdr, ⟨by simp, printable⟩, rfl⟩
  | parentLladdrUpdated lladdr => exact ⟨.parentLladdr true lladdr, printable, rfl⟩
  | parentChanged old new => exact ⟨.parentSwitch old new, printable, rfl⟩
  | packetSent seqnum => exact ⟨.packetSent seqnum none, printable, rfl⟩
  | packetReceived seqnum sender =>
    refine ⟨.packetReceived seqnum sender (String.ofList ("fd00::".toList ++ Nat.toDigits 16 sender)), ?_, rfl⟩
    exact ⟨printable.1, printable.2, by rw [String.toList_ofList]; exact isAddressOf_append sender⟩
  | linkStats counters neighbour => exact ⟨.linkStats counters neighbour, printable, rfl⟩
  | energest report =>
    cases report with
    | period seconds => exact ⟨.period 0 seconds, printable, rfl⟩
    | total ticks => exact ⟨.total 0 0 ticks, printable, rfl⟩
    | spent component ticks =>
      obtain ⟨label, rfl⟩ := EnergyLabel.exists_component mapping component
      exact ⟨.spent label 0 0 ticks 0 0 0, printable, rfl⟩
  | simulationEnded time => exact printable.elim

end MeshTrace
