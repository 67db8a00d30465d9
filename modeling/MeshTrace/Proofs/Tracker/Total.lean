import MeshTrace.Proofs.Tracker.Packets

namespace MeshTrace

namespace Diagnostics

variable (d : Diagnostics) (rejection : Option Rejection)

theorem duplicateSent_count :
    (d.count rejection).duplicateSent =
      d.duplicateSent + if rejection = some .duplicateSent then 1 else 0 := by
  rcases rejection with _ | _ | _ | _ <;> rfl

theorem duplicateReceived_count :
    (d.count rejection).duplicateReceived =
      d.duplicateReceived + if rejection = some .duplicateReceived then 1 else 0 := by
  rcases rejection with _ | _ | _ | _ <;> rfl

theorem unmatchedReceived_count :
    (d.count rejection).unmatchedReceived =
      d.unmatchedReceived + if rejection = some .unmatchedReceived then 1 else 0 := by
  rcases rejection with _ | _ | _ | _ <;> rfl

end Diagnostics

namespace Event

variable {e : Event} (own : e.owner = .trace)

include own

theorem sent?_of_owner : e.sent? = none := by
  cases sending : e.sent? with
  | none => rfl
  | some p => cases own.symm.trans (owner_of_sent? sending)

theorem received?_of_owner : e.received? = none := by
  cases arrival : e.received? with
  | none => rfl
  | some p => cases own.symm.trans (owner_of_received? arrival)

theorem rejection?_of_owner (l : Ledger) : e.rejection? l = none := by
  obtain ⟨time, node, kind, raw⟩ := e
  cases kind with
  | packetSent seqnum => cases own
  | packetReceived seqnum sender => cases own
  | _ => rfl

end Event

variable {α : Type} [Scalar α]

namespace Node

/-- A packet sent counts, or is rejected as a duplicate. -/
theorem sentCount_account (n : Node α) (e : Event) :
    (n.account e).ledger.sentCount + (if e.rejection? n.ledger = some .duplicateSent then 1 else 0) =
      n.ledger.sentCount + if e.sent?.isSome then 1 else 0 := by
  obtain ⟨time, node, kind, raw⟩ := e
  cases kind with
  | packetSent seqnum =>
    cases outcome : (n.ledger.recordSent seqnum time).2 <;>
      simp [account, Ledger.sentCount_recordSent, Event.rejection?, Event.sent?, outcome]
  | packetReceived seqnum sender =>
    cases outcome : (n.ledger.recordReceived seqnum time).2 <;>
      simp [account, Ledger.sentCount_recordReceived, Event.rejection?, Event.sent?, outcome]
  | _ => simp [account, (frame_apply _ _ _).2, Event.rejection?, Event.sent?]

theorem receivedCount_account (n : Node α) (e : Event) :
    (n.account e).ledger.receivedCount +
        (if e.rejection? n.ledger = some .duplicateReceived then 1 else 0) +
        (if e.rejection? n.ledger = some .unmatchedReceived then 1 else 0) =
      n.ledger.receivedCount + if e.received?.isSome then 1 else 0 := by
  obtain ⟨time, node, kind, raw⟩ := e
  cases kind with
  | packetSent seqnum =>
    cases outcome : (n.ledger.recordSent seqnum time).2 <;>
      simp [account, Ledger.receivedCount_recordSent, Event.rejection?, Event.received?, outcome]
  | packetReceived seqnum sender =>
    cases outcome : (n.ledger.recordReceived seqnum time).2 <;>
      simp [account, Ledger.receivedCount_recordReceived, Event.rejection?, Event.received?, outcome]
  | _ => simp [account, (frame_apply _ _ _).2, Event.rejection?, Event.received?]

end Node

namespace Tracker

/-- The sum of a figure over all nodes. -/
def total (t : Tracker α) (f : Node α → Nat) : Nat := (t.nodes.values.map f).sum

/-- A total over the nodes changes by what one node changes. -/
theorem total_modify {f : Node α → Nat} (zero : ∀ id, f (.fresh id) = 0) (t : Tracker α) (id : NodeId)
    (g : Node α → Node α) :
    (t.modify id g).total f + f (t.state id) = t.total f + f (g (t.state id)) := by
  have step := Table.sum_update f t.nodes id fun known => g (known.getD (.fresh id))
  have old : (t.nodes.get? id).elim 0 f = f (t.state id) := by
    unfold state node?
    cases t.nodes.get? id with
    | none => exact (zero id).symm
    | some n => rfl
  rw [old] at step
  exact step

theorem total_observe {f : Node α → Nat} (zero : ∀ id, f (.fresh id) = 0) (t : Tracker α) (id : NodeId) :
    (t.observe id).total f = t.total f := by
  have step := total_modify zero t id fun n => n
  exact Nat.add_right_cancel step

/-- An event of a node changes a sum over all nodes by what it changes at that node. -/
theorem total_apply {f : Node α → Nat} (zero : ∀ id, f (.fresh id) = 0) (t : Tracker α) {e : Event}
    {id : NodeId} (own : e.owner = .node id) :
    (t.apply e).total f + f (t.state id) = t.total f + f ((t.state id).account e) := by
  have nodes : (t.apply e).nodes = ((t.observe e.node).modify id (·.account e)).nodes := by
    refine Table.ext_get? fun other => ?_
    have applied := t.node?_apply e other
    have modified := (t.observe e.node).node?_modify id other (·.account e)
    rw [node?_observe, state_observe] at modified
    refine applied.trans (Eq.trans ?_ modified.symm)
    by_cases same : other = id
    · simp [own, same]
    · have elsewhere : ¬id = other := fun same' => same same'.symm
      simp only [own, Owner.node.injEq, elsewhere, same, if_false, e.mem_nodes_iff own, or_false]
      split
      · rename_i here
        rw [here]
      · rfl
  have step := total_modify zero (t.observe e.node) id (·.account e)
  rw [total_observe zero, state_observe] at step
  rw [← step, total, nodes, total]

theorem total_apply_of_owner {e : Event} (own : e.owner = .trace) (t : Tracker α) (f : Node α → Nat) :
    (t.apply e).total f = t.total f := by
  have nodes : (t.apply e).nodes = t.nodes := by
    refine Table.ext_get? fun id => ?_
    refine (t.node?_apply e id).trans ?_
    simp [own, e.nodes_eq_nil own]
    rfl
  rw [total, nodes, total]

/-- Every packet sent is counted at its sender or is a duplicate. -/
theorem Reach.countP_sent {events : List Event} {t : Tracker α} (reach : Reach events t) :
    events.countP (·.sent?.isSome) = t.total (·.ledger.sentCount) + t.diagnostics.duplicateSent := by
  induction reach with
  | start => rfl
  | @event events t e previous ih =>
    rw [List.countP_append, List.countP_singleton, ih, diagnostics_apply, Diagnostics.duplicateSent_count]
    cases own : e.owner with
    | trace =>
      rw [total_apply_of_owner own, e.sent?_of_owner own, e.rejection?_of_owner own]
      rfl
    | node id =>
      have step := total_apply (f := (·.ledger.sentCount)) (fun id => rfl) t own
      have balance := (t.state id).sentCount_account e
      rw [ledgerOf_node]
      omega
  | known id previous ih => rw [total_observe fun id => rfl, ih]; rfl

/-- Every arrival is counted at the sender of its packet, or is a duplicate, or is unmatched. -/
theorem Reach.countP_received {events : List Event} {t : Tracker α} (reach : Reach events t) :
    events.countP (·.received?.isSome) =
      t.total (·.ledger.receivedCount) + t.diagnostics.duplicateReceived +
        t.diagnostics.unmatchedReceived := by
  induction reach with
  | start => rfl
  | @event events t e previous ih =>
    rw [List.countP_append, List.countP_singleton, ih, diagnostics_apply,
      Diagnostics.duplicateReceived_count, Diagnostics.unmatchedReceived_count]
    cases own : e.owner with
    | trace =>
      rw [total_apply_of_owner own, e.received?_of_owner own, e.rejection?_of_owner own]
      rfl
    | node id =>
      have step := total_apply (f := (·.ledger.receivedCount)) (fun id => rfl) t own
      have balance := (t.state id).receivedCount_account e
      rw [ledgerOf_node]
      omega
  | known id previous ih => rw [total_observe fun id => rfl, ih]; rfl

end Tracker

end MeshTrace
