import MeshTrace.Proofs.Table
import MeshTrace.Run.Tracker

namespace MeshTrace

/-- Whose account an event changes. -/
inductive Owner
  | node (id : NodeId)
  /-- No node: the end of the simulation belongs to the trace. -/
  | trace
  deriving DecidableEq, Repr

/-- Why a packet is not recorded. -/
inductive Rejection
  | duplicateSent
  | duplicateReceived
  | unmatchedReceived
  deriving DecidableEq, Repr

namespace Event

/-- A packet received belongs to its sender, wherever it arrives; every other event of a node belongs
to that node. -/
def owner (e : Event) : Owner :=
  match e.kind with
  | .simulationEnded _ => .trace
  | .packetReceived _ sender => .node sender
  | _ => .node e.node

/-- The nodes that an event makes known. -/
def nodes (e : Event) : List NodeId :=
  match e.kind with
  | .simulationEnded _ => []
  | .packetReceived _ sender => [e.node, sender]
  | _ => [e.node]

/-- The end of the simulation, if the event reports it. -/
def endTime? (e : Event) : Option Millis :=
  match e.kind with
  | .simulationEnded time => some time
  | _ => none

theorem endTime?_of_owner {e : Event} (own : e.owner ≠ .trace) : e.endTime? = none := by
  obtain ⟨time, node, kind, raw⟩ := e
  cases kind with
  | simulationEnded endTime => exact absurd rfl own
  | _ => rfl

theorem nodes_eq_nil {e : Event} (own : e.owner = .trace) : e.nodes = [] := by
  obtain ⟨time, node, kind, raw⟩ := e
  cases kind with
  | simulationEnded endTime => rfl
  | _ => cases own

/-- An event of a node makes known that node and the node that reports it. -/
theorem mem_nodes_iff {e : Event} {id other : NodeId} (own : e.owner = .node id) :
    other ∈ e.nodes ↔ other = e.node ∨ other = id := by
  obtain ⟨time, node, kind, raw⟩ := e
  cases kind with
  | simulationEnded endTime => cases own
  | packetReceived seqnum sender =>
    obtain rfl := Owner.node.inj own
    simp [nodes]
  | _ =>
    obtain rfl := Owner.node.inj own
    simp [nodes]

/-- Why the ledger of its owner rejects an event. -/
def rejection? (e : Event) (l : Ledger) : Option Rejection :=
  match e.kind with
  | .packetSent seqnum =>
    match (l.recordSent seqnum e.time).2 with
    | .recorded => none
    | .duplicate => some .duplicateSent
  | .packetReceived seqnum _ =>
    match (l.recordReceived seqnum e.time).2 with
    | .delivered _ => none
    | .duplicate => some .duplicateReceived
    | .unmatched => some .unmatchedReceived
  | _ => none

end Event

/-- Counts one event, and its rejection. -/
def Diagnostics.count (d : Diagnostics) (rejection : Option Rejection) : Diagnostics :=
  let d := { d with events := d.events + 1 }
  match rejection with
  | .none => d
  | some .duplicateSent => { d with duplicateSent := d.duplicateSent + 1 }
  | some .duplicateReceived => { d with duplicateReceived := d.duplicateReceived + 1 }
  | some .unmatchedReceived => { d with unmatchedReceived := d.unmatchedReceived + 1 }

/-- Rejections may be counted in either order. -/
theorem Diagnostics.count_comm (d : Diagnostics) (a b : Option Rejection) :
    (d.count a).count b = (d.count b).count a := by
  rcases a with _ | _ | _ | _ <;> rcases b with _ | _ | _ | _ <;> rfl

variable {α : Type}

/-- Trackers with the same nodes, end time and diagnostics are the same. -/
theorem Tracker.ext_node? {t u : Tracker α} (nodes : ∀ id, t.node? id = u.node? id)
    (endTime : t.endTime = u.endTime) (diagnostics : t.diagnostics = u.diagnostics) : t = u := by
  have tables : t.nodes = u.nodes := Table.ext_get? nodes
  cases t
  cases u
  simp_all

@[simp] theorem Tracker.node?_warn (t : Tracker α) (f : Diagnostics → Diagnostics) (id : NodeId) :
    (t.warn f).node? id = t.node? id := rfl

variable [Scalar α]

/-- What an event changes at its owner, packets included. -/
def Node.account (n : Node α) (e : Event) : Node α :=
  match e.kind with
  | .packetSent seqnum => { n with ledger := (n.ledger.recordSent seqnum e.time).1 }
  | .packetReceived seqnum _ => { n with ledger := (n.ledger.recordReceived seqnum e.time).1 }
  | kind => n.apply e.time kind

namespace Tracker

/-- What is known of a node, which is fresh if it was not mentioned. -/
def state (t : Tracker α) (id : NodeId) : Node α := (t.node? id).getD (.fresh id)

/-- The ledger that an event is accounted in. -/
def ledgerOf (t : Tracker α) : Owner → Ledger
  | .node id => (t.state id).ledger
  | .trace => .empty

theorem ledgerOf_node (t : Tracker α) (id : NodeId) : t.ledgerOf (.node id) = (t.state id).ledger := rfl

theorem state_start (id : NodeId) : (start : Tracker α).state id = .fresh id := rfl

theorem state_of_node? {t : Tracker α} {id : NodeId} {n : Node α} (known : t.node? id = some n) :
    t.state id = n := by
  rw [state, known, Option.getD_some]

@[simp] theorem state_warn (t : Tracker α) (f : Diagnostics → Diagnostics) (id : NodeId) :
    (t.warn f).state id = t.state id := rfl

theorem ledger_eq (t : Tracker α) (id : NodeId) : t.ledger id = (t.state id).ledger := by
  unfold ledger state
  cases t.node? id <;> rfl

theorem node?_modify (t : Tracker α) (id l : NodeId) (f : Node α → Node α) :
    (t.modify id f).node? l = if l = id then some (f (t.state id)) else t.node? l :=
  Table.get?_update t.nodes id l _

theorem node?_observe (t : Tracker α) (id l : NodeId) :
    (t.observe id).node? l = if l = id then some (t.state id) else t.node? l :=
  node?_modify t id l _

theorem state_modify (t : Tracker α) (id l : NodeId) (f : Node α → Node α) :
    (t.modify id f).state l = if l = id then f (t.state id) else t.state l := by
  unfold state
  rw [node?_modify]
  split <;> rfl

@[simp] theorem state_observe (t : Tracker α) (id l : NodeId) : (t.observe id).state l = t.state l := by
  rw [observe, state_modify]
  split
  · rename_i same
    rw [same]
  · rfl

theorem node?_send (t : Tracker α) (id l : NodeId) (seqnum : Seqnum) (time : Millis) :
    (t.send id seqnum time).node? l =
      if l = id then some { t.state id with ledger := ((t.state id).ledger.recordSent seqnum time).1 }
      else t.node? l := by
  rw [← node?_modify t id l fun n => { n with ledger := ((t.state id).ledger.recordSent seqnum time).1 }]
  simp only [send, ledger_eq]
  split <;> rfl

theorem node?_receive (t : Tracker α) (id l : NodeId) (seqnum : Seqnum) (time : Millis) :
    (t.receive id seqnum time).node? l =
      if l = id then
        some { t.state id with ledger := ((t.state id).ledger.recordReceived seqnum time).1 }
      else t.node? l := by
  rw [← node?_modify t id l fun n =>
    { n with ledger := ((t.state id).ledger.recordReceived seqnum time).1 }]
  simp only [receive, ledger_eq]
  split <;> rfl

/-- Everything that an event does to the nodes: it changes its owner, and makes others known at most. -/
theorem node?_apply (t : Tracker α) (e : Event) (id : NodeId) :
    (t.apply e).node? id =
      if e.owner = .node id then some ((t.state id).account e)
      else if id ∈ e.nodes then some (t.state id)
      else t.node? id := by
  obtain ⟨time, node, kind, raw⟩ := e
  cases kind with
  | simulationEnded endTime => simp [apply, Event.owner, Event.nodes, node?, warn]
  | packetSent seqnum =>
    simp only [apply, node?_send, state_warn, node?_warn, Event.owner, Event.nodes, Node.account,
      Owner.node.injEq, List.mem_singleton]
    by_cases own : id = node
    · simp [own]
    · simp [own, Ne.symm own]
  | packetReceived seqnum sender =>
    simp only [apply, node?_receive, node?_observe, state_observe, state_warn, node?_warn, Event.owner,
      Event.nodes, Node.account, Owner.node.injEq, List.mem_cons, List.not_mem_nil, or_false]
    by_cases own : id = sender
    · simp [own]
    · by_cases arrival : id = node
      · simp [own, Ne.symm own, ← arrival]
      · simp [own, Ne.symm own, arrival]
  | _ =>
    simp only [apply, node?_modify, state_warn, node?_warn, Event.owner, Event.nodes, Node.account,
      Owner.node.injEq, List.mem_singleton]
    by_cases own : id = node
    · simp [own]
    · simp [own, Ne.symm own]

theorem contains_observe (t : Tracker α) (id l : NodeId) :
    (t.observe id).nodes.contains l = true ↔ t.nodes.contains l = true ∨ l = id := by
  show ((t.observe id).node? l).isSome = true ↔ (t.node? l).isSome = true ∨ l = id
  rw [node?_observe]
  split
  · rename_i same
    simp [same]
  · rename_i other
    simp [other]

/-- An event makes its nodes known. -/
theorem contains_apply (t : Tracker α) (e : Event) (id : NodeId) :
    (t.apply e).nodes.contains id = true ↔ t.nodes.contains id = true ∨ id ∈ e.nodes := by
  show ((t.apply e).node? id).isSome = true ↔ (t.node? id).isSome = true ∨ id ∈ e.nodes
  rw [node?_apply]
  split
  · rename_i own
    simp [e.mem_nodes_iff own]
  · split
    · rename_i member
      simp [member]
    · rename_i unmentioned
      simp [unmentioned]

/-- An event is accounted by the node that owns it. -/
theorem state_apply (t : Tracker α) (e : Event) (id : NodeId) :
    (t.apply e).state id = if e.owner = .node id then (t.state id).account e else t.state id := by
  rw [state, node?_apply]
  split
  · rfl
  · split <;> rfl

/-- The last end time counts. -/
theorem endTime_apply (t : Tracker α) (e : Event) : (t.apply e).endTime = e.endTime?.or t.endTime := by
  obtain ⟨time, node, kind, raw⟩ := e
  cases kind with
  | packetSent seqnum => simp only [apply, send]; split <;> rfl
  | packetReceived seqnum sender => simp only [apply, receive]; split <;> rfl
  | _ => rfl

/-- Everything that an event does to the warnings. -/
theorem diagnostics_apply (t : Tracker α) (e : Event) :
    (t.apply e).diagnostics = t.diagnostics.count (e.rejection? (t.ledgerOf e.owner)) := by
  obtain ⟨time, node, kind, raw⟩ := e
  cases kind with
  | packetSent seqnum =>
    simp only [apply, send, ledger_eq, state_warn, Event.rejection?, Event.owner, ledgerOf]
    cases ((t.state node).ledger.recordSent seqnum time).2 <;> rfl
  | packetReceived seqnum sender =>
    simp only [apply, receive, ledger_eq, state_observe, state_warn, Event.rejection?, Event.owner,
      ledgerOf]
    cases ((t.state sender).ledger.recordReceived seqnum time).2 <;> rfl
  | _ => rfl

end Tracker

end MeshTrace
