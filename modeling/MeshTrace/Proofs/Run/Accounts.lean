import MeshTrace.Proofs.Tracker.Packets

namespace MeshTrace

variable {α : Type}

/-- The packets of these events are in the ledgers of a trace. -/
structure TrackedTrace.Accounts (trace : TrackedTrace α) (events : List Event) : Prop where
  distinct : (trace.nodes.values.map (·.id)).Nodup
  sent : ∀ id seqnum, (id, seqnum) ∈ sentPackets events ↔
    ∃ n ∈ trace.nodes.values, n.id = id ∧ n.ledger.sent.contains seqnum = true
  delivered : ∀ id seqnum, (id, seqnum) ∈ deliveredPackets events ↔
    ∃ n ∈ trace.nodes.values, n.id = id ∧ n.ledger.received.contains seqnum = true

namespace TrackedTrace.Accounts

variable {trace : TrackedTrace α} {events : List Event} (accounts : trace.Accounts events)

include accounts

/-- No node has more packets delivered than sent. -/
theorem receivedCount_le {n : Node α} (member : n ∈ trace.nodes.values) :
    n.ledger.receivedCount ≤ n.ledger.sentCount := by
  refine Table.size_le_of_contains fun seqnum arrived => ?_
  have sent := deliveredPackets_subset events ((accounts.delivered _ _).mpr ⟨n, member, rfl, arrived⟩)
  obtain ⟨m, known, own, kept⟩ := (accounts.sent _ _).mp sent
  obtain rfl := List.inj_on_of_nodup_map accounts.distinct known member own
  exact kept

/-- The packets that the nodes other than the coordinator keep in one of their tables, counted
together. -/
theorem sum_size (coordinator : NodeId) {β : Type} (table : Node α → Table β) {packets : Finset Packet}
    (kept : ∀ id seqnum, (id, seqnum) ∈ packets ↔
      ∃ n ∈ trace.nodes.values, n.id = id ∧ (table n).contains seqnum = true) :
    ((trace.nodes.values.filter (·.id != coordinator)).map fun n => (table n).size).sum =
      (packets.filter (·.1 ≠ coordinator)).card := by
  have distinct : ((trace.nodes.values.filter (·.id != coordinator)).map (·.id)).Nodup :=
    accounts.distinct.sublist (List.filter_sublist.map _)
  refine Table.sum_size_eq_card _ _ table distinct fun id seqnum => ?_
  simp only [Finset.mem_filter, kept, List.mem_filter, bne_iff_ne]
  constructor
  · rintro ⟨⟨n, member, own, inTable⟩, other⟩
    exact ⟨n, ⟨member, own ▸ other⟩, own, inTable⟩
  · rintro ⟨n, ⟨member, other⟩, own, inTable⟩
    exact ⟨⟨n, member, own, inTable⟩, own ▸ other⟩

/-- All nodes but one have sent the packets that are not its own. -/
theorem sum_sentCount (coordinator : NodeId) :
    ((trace.nodes.values.filter (·.id != coordinator)).map (·.ledger.sentCount)).sum =
      ((sentPackets events).filter (·.1 ≠ coordinator)).card :=
  accounts.sum_size coordinator (·.ledger.sent) accounts.sent

theorem sum_receivedCount (coordinator : NodeId) :
    ((trace.nodes.values.filter (·.id != coordinator)).map (·.ledger.receivedCount)).sum =
      ((deliveredPackets events).filter (·.1 ≠ coordinator)).card :=
  accounts.sum_size coordinator (·.ledger.received) accounts.delivered

end TrackedTrace.Accounts

theorem Tracker.values_finish (t : Tracker α) (lastTime : Option Millis) :
    (t.finish lastTime).nodes.values = t.nodes.values.map (·.closeEpisode (t.finish lastTime).endTime) :=
  Table.values_map ..

theorem Tracker.get?_finish (t : Tracker α) (lastTime : Option Millis) (id : NodeId) :
    (t.finish lastTime).nodes.get? id =
      (t.node? id).map (·.closeEpisode (t.finish lastTime).endTime) :=
  Table.get?_map ..

theorem Tracker.contains_finish (t : Tracker α) (lastTime : Option Millis) (id : NodeId) :
    (t.finish lastTime).nodes.contains id = t.nodes.contains id := by
  rw [Table.contains, get?_finish, Option.isSome_map]
  rfl

variable [Scalar α]

namespace Tracker

theorem closeEpisode_of_kept {t : Tracker α} {lastTime : Option Millis} {id : NodeId} {n : Node α}
    (kept : (t.finish lastTime).nodes.get? id = some n) :
    (t.state id).closeEpisode (t.finish lastTime).endTime = n := by
  rw [get?_finish] at kept
  obtain ⟨m, known, rfl⟩ := Option.map_eq_some_iff.mp kept
  rw [state_of_node? known]

theorem Reach.id_of_finish {events : List Event} {t : Tracker α} (reach : Reach events t) (lastTime : Option Millis)
    {id : NodeId} {n : Node α} (kept : (t.finish lastTime).nodes.get? id = some n) : n.id = id := by
  rw [← closeEpisode_of_kept kept, Node.id_closeEpisode, reach.id_state]

theorem Reach.balanced_finish {events : List Event} {t : Tracker α} (reach : Reach events t) (lastTime : Option Millis)
    {id : NodeId} {n : Node α} (kept : (t.finish lastTime).nodes.get? id = some n) : n.ledger.Balanced := by
  rw [← closeEpisode_of_kept kept, Node.ledger_closeEpisode]
  exact reach.balanced_state id

/-- What holds of the ledger of a node, but not of an empty one, holds of a node at the end. -/
theorem Reach.ledger_iff {events : List Event} {t : Tracker α} (reach : Reach events t)
    (lastTime : Option Millis) (id : NodeId) (holds : Ledger → Prop) (empty : ¬holds .empty) :
    holds (t.state id).ledger ↔
      ∃ n ∈ (t.finish lastTime).nodes.values, n.id = id ∧ holds n.ledger := by
  simp only [values_finish, List.mem_map, Table.mem_values_iff]
  constructor
  · intro held
    cases known : t.node? id with
    | none =>
      rw [state, known] at held
      exact absurd held empty
    | some n =>
      rw [state_of_node? known] at held
      refine ⟨_, ⟨n, ⟨id, known⟩, rfl⟩, ?_, ?_⟩
      · rw [Node.id_closeEpisode, reach.id_of_node? known]
      · rwa [Node.ledger_closeEpisode]
  · rintro ⟨_, ⟨n, ⟨k, known⟩, rfl⟩, own, held⟩
    rw [Node.id_closeEpisode, reach.id_of_node? known] at own
    rw [Node.ledger_closeEpisode] at held
    rwa [← own, state_of_node? known]

/-- A finished trace accounts for its events. -/
theorem Reach.accounts {events : List Event} {t : Tracker α} (reach : Reach events t)
    (lastTime : Option Millis) : (t.finish lastTime).Accounts events := by
  refine ⟨?_, fun id seqnum => ?_, fun id seqnum => ?_⟩
  · rw [Table.map_values_eq_keys fun id n => reach.id_of_finish lastTime]
    exact Table.keys_nodup _
  · rw [← reach.contains_sent]
    exact reach.ledger_iff lastTime id (·.sent.contains seqnum = true) (by simp [Ledger.empty])
  · rw [← reach.contains_received]
    exact reach.ledger_iff lastTime id (·.received.contains seqnum = true) (by simp [Ledger.empty])

end Tracker

end MeshTrace
