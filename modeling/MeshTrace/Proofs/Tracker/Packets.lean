import Mathlib.Data.Finset.Filter
import MeshTrace.Proofs.Ledger.Record
import MeshTrace.Proofs.Tracker.Reach

namespace MeshTrace

/-- A packet, named by its sender and its number. -/
abbrev Packet := NodeId × Seqnum

namespace Event

/-- The packet that an event reports as sent. -/
def sent? (e : Event) : Option Packet :=
  match e.kind with
  | .packetSent seqnum => some (e.node, seqnum)
  | _ => none

/-- The packet that an event reports as received. -/
def received? (e : Event) : Option Packet :=
  match e.kind with
  | .packetReceived seqnum sender => some (sender, seqnum)
  | _ => none

theorem owner_of_sent? {e : Event} {p : Packet} (sending : e.sent? = some p) : e.owner = .node p.1 := by
  obtain ⟨time, node, kind, raw⟩ := e
  cases kind with
  | packetSent seqnum => cases sending; rfl
  | _ => cases sending

theorem owner_of_received? {e : Event} {p : Packet} (arrival : e.received? = some p) :
    e.owner = .node p.1 := by
  obtain ⟨time, node, kind, raw⟩ := e
  cases kind with
  | packetReceived seqnum sender => cases arrival; rfl
  | _ => cases arrival

/-- An event makes known the node that reports it, unless that is the end of the simulation, and the sender of an
arrival. -/
theorem mem_nodes_iff_received? {e : Event} {id : NodeId} :
    id ∈ e.nodes ↔ (e.endTime? = none ∧ id = e.node) ∨ ∃ seqnum, e.received? = some (id, seqnum) := by
  obtain ⟨time, node, kind, raw⟩ := e
  cases kind with
  | packetReceived seqnum sender => simp [nodes, endTime?, received?, eq_comm (a := id) (b := sender)]
  | _ => simp [nodes, endTime?, received?]

end Event

/-- All packets that are sent in a sequence of events. -/
def sentPackets (events : List Event) : Finset Packet := (events.filterMap Event.sent?).toFinset

/-- All packets that arrive in a sequence of events. -/
def receivedPackets (events : List Event) : Finset Packet := (events.filterMap Event.received?).toFinset

/-- All packets that are sent at some point of a sequence of events and arrive after it. -/
def deliveredPackets (events : List Event) : Finset Packet :=
  (receivedPackets events).filter fun p =>
    ∃ k < events.length, p ∈ sentPackets (events.take k) ∧ p ∈ receivedPackets (events.drop k)

theorem mem_sentPackets {events : List Event} {p : Packet} :
    p ∈ sentPackets events ↔ ∃ e ∈ events, e.sent? = some p := by
  simp [sentPackets]

theorem mem_receivedPackets {events : List Event} {p : Packet} :
    p ∈ receivedPackets events ↔ ∃ e ∈ events, e.received? = some p := by
  simp [receivedPackets]

/-- A packet is delivered if it is received after it was sent. -/
theorem mem_deliveredPackets {events : List Event} {p : Packet} :
    p ∈ deliveredPackets events ↔
      ∃ before after, events = before ++ after ∧ p ∈ sentPackets before ∧ p ∈ receivedPackets after := by
  rw [deliveredPackets, Finset.mem_filter]
  constructor
  · rintro ⟨-, k, -, sent, received⟩
    exact ⟨events.take k, events.drop k, (List.take_append_drop k events).symm, sent, received⟩
  · rintro ⟨before, after, rfl, sent, received⟩
    obtain ⟨e, member, arrival⟩ := mem_receivedPackets.mp received
    refine ⟨mem_receivedPackets.mpr ⟨e, List.mem_append_right before member, arrival⟩, before.length, ?_, ?_⟩
    · rw [List.length_append]
      exact Nat.lt_add_of_pos_right (List.length_pos_of_mem member)
    · simpa using ⟨sent, received⟩

/-- Only packets that were sent are delivered. -/
theorem deliveredPackets_subset (events : List Event) : deliveredPackets events ⊆ sentPackets events := by
  intro p delivered
  obtain ⟨before, after, rfl, sent, -⟩ := mem_deliveredPackets.mp delivered
  obtain ⟨e, member, sending⟩ := mem_sentPackets.mp sent
  exact mem_sentPackets.mpr ⟨e, List.mem_append_left after member, sending⟩

theorem mem_sentPackets_snoc {events : List Event} {e : Event} {p : Packet} :
    p ∈ sentPackets (events ++ [e]) ↔ p ∈ sentPackets events ∨ e.sent? = some p := by
  simp only [mem_sentPackets, List.mem_append, List.mem_singleton, or_and_right, exists_or, exists_eq_left]

/-- The last event delivers a packet if it reports the arrival and the packet was sent before. -/
theorem mem_deliveredPackets_snoc {events : List Event} {e : Event} {p : Packet} :
    p ∈ deliveredPackets (events ++ [e]) ↔
      p ∈ deliveredPackets events ∨ (e.received? = some p ∧ p ∈ sentPackets events) := by
  simp only [mem_deliveredPackets]
  constructor
  · rintro ⟨before, after, whole, sent, received⟩
    rcases List.eq_nil_or_concat after with rfl | ⟨rest, last, rfl⟩
    · simp [mem_receivedPackets] at received
    · rw [List.concat_eq_append, ← List.append_assoc] at whole
      obtain ⟨rfl, last⟩ := List.append_inj' whole rfl
      obtain rfl := List.singleton_inj.mp last
      rw [List.concat_eq_append] at received
      obtain ⟨d, member, arrival⟩ := mem_receivedPackets.mp received
      rcases List.mem_append.mp member with early | late
      · exact Or.inl ⟨before, rest, rfl, sent, mem_receivedPackets.mpr ⟨d, early, arrival⟩⟩
      · obtain rfl := List.mem_singleton.mp late
        obtain ⟨d, member, sending⟩ := mem_sentPackets.mp sent
        exact Or.inr ⟨arrival, mem_sentPackets.mpr ⟨d, List.mem_append_left rest member, sending⟩⟩
  · rintro (⟨before, after, rfl, sent, received⟩ | ⟨arrival, sent⟩)
    · obtain ⟨d, member, arrival⟩ := mem_receivedPackets.mp received
      exact ⟨before, after ++ [e], List.append_assoc .., sent,
        mem_receivedPackets.mpr ⟨d, List.mem_append_left [e] member, arrival⟩⟩
    · exact ⟨events, [e], rfl, sent, mem_receivedPackets.mpr ⟨e, List.mem_singleton_self e, arrival⟩⟩

variable {α : Type} [Scalar α]

namespace Node

theorem contains_sent_account (n : Node α) {e : Event} {id : NodeId} (own : e.owner = .node id)
    (seqnum : Seqnum) :
    (n.account e).ledger.sent.contains seqnum = true ↔
      n.ledger.sent.contains seqnum = true ∨ e.sent? = some (id, seqnum) := by
  obtain ⟨time, node, kind, raw⟩ := e
  cases kind with
  | packetSent sent =>
    obtain rfl := Owner.node.inj own
    simp only [account, Ledger.contains_sent_recordSent, Event.sent?, Option.some.injEq, Prod.mk.injEq,
      true_and]
    rw [eq_comm (a := seqnum)]
  | packetReceived received sender =>
    simp only [account, Ledger.sent_recordReceived, Event.sent?, reduceCtorEq, or_false]
  | _ => simp only [account, (frame_apply _ _ _).2, Event.sent?, reduceCtorEq, or_false]

theorem contains_received_account (n : Node α) {e : Event} {id : NodeId} (own : e.owner = .node id)
    (seqnum : Seqnum) :
    (n.account e).ledger.received.contains seqnum = true ↔
      n.ledger.received.contains seqnum = true ∨
        (e.received? = some (id, seqnum) ∧ n.ledger.sent.contains seqnum = true) := by
  obtain ⟨time, node, kind, raw⟩ := e
  cases kind with
  | packetSent sent =>
    simp only [account, Ledger.received_recordSent, Event.received?, reduceCtorEq, false_and, or_false]
  | packetReceived received sender =>
    obtain rfl := Owner.node.inj own
    simp only [account, Ledger.contains_received_recordReceived, Event.received?, Option.some.injEq,
      Prod.mk.injEq, true_and]
    rw [eq_comm (a := seqnum)]
  | _ => simp only [account, (frame_apply _ _ _).2, Event.received?, reduceCtorEq, false_and, or_false]

theorem balanced_account {n : Node α} (balanced : n.ledger.Balanced) (e : Event) : (n.account e).ledger.Balanced := by
  obtain ⟨time, node, kind, raw⟩ := e
  cases kind with
  | packetSent seqnum => exact balanced.recordSent seqnum time
  | packetReceived seqnum sender => exact balanced.recordReceived seqnum time
  | _ => simpa only [account, (frame_apply _ _ _).2] using balanced

end Node

namespace Tracker

theorem contains_sent_apply (t : Tracker α) (e : Event) (id : NodeId) (seqnum : Seqnum) :
    ((t.apply e).state id).ledger.sent.contains seqnum = true ↔
      (t.state id).ledger.sent.contains seqnum = true ∨ e.sent? = some (id, seqnum) := by
  rw [state_apply]
  split
  · rename_i own
    exact Node.contains_sent_account _ own seqnum
  · rename_i other
    exact (or_iff_left fun sending => other (Event.owner_of_sent? sending)).symm

/-- A ledger learns of the packet that arrives, if it was sent. -/
theorem contains_received_apply (t : Tracker α) (e : Event) (id : NodeId) (seqnum : Seqnum) :
    ((t.apply e).state id).ledger.received.contains seqnum = true ↔
      (t.state id).ledger.received.contains seqnum = true ∨
        (e.received? = some (id, seqnum) ∧ (t.state id).ledger.sent.contains seqnum = true) := by
  rw [state_apply]
  split
  · rename_i own
    exact Node.contains_received_account _ own seqnum
  · rename_i other
    exact (or_iff_left fun arrival => other (Event.owner_of_received? arrival.1)).symm

/-- The ledgers hold exactly the packets sent. -/
theorem Reach.contains_sent {events : List Event} {t : Tracker α} (reach : Reach events t)
    (id : NodeId) (seqnum : Seqnum) :
    (t.state id).ledger.sent.contains seqnum = true ↔ (id, seqnum) ∈ sentPackets events := by
  induction reach with
  | start => simp [state_start, Node.fresh, Ledger.empty, sentPackets]
  | event e previous ih => rw [contains_sent_apply, ih, mem_sentPackets_snoc]
  | known other previous ih => rw [state_observe, ih]

/-- The ledgers hold as arrivals exactly the packets that arrived after they were sent. -/
theorem Reach.contains_received {events : List Event} {t : Tracker α} (reach : Reach events t)
    (id : NodeId) (seqnum : Seqnum) :
    (t.state id).ledger.received.contains seqnum = true ↔ (id, seqnum) ∈ deliveredPackets events := by
  induction reach with
  | start => simp [state_start, Node.fresh, Ledger.empty, deliveredPackets, receivedPackets]
  | event e previous ih =>
    rw [contains_received_apply, ih, previous.contains_sent, mem_deliveredPackets_snoc]
  | known other previous ih => rw [state_observe, ih]

/-- Every ledger is balanced. -/
theorem Reach.balanced_state {events : List Event} {t : Tracker α} (reach : Reach events t) (id : NodeId) :
    (t.state id).ledger.Balanced := by
  induction reach with
  | start => exact Ledger.balanced_empty
  | event e previous ih =>
    rw [state_apply]
    split
    · exact Node.balanced_account ih e
    · exact ih
  | known other previous ih =>
    rw [state_observe]
    exact ih

end Tracker

end MeshTrace
