import MeshTrace.Proofs.Tracker.Reach

namespace MeshTrace

namespace Event

/-- The link-layer address of its parent that an event gives to a node, if it gives one or takes it away. -/
def lladdr? (id : NodeId) (e : Event) : Option (Option Address) :=
  match e.kind with
  | .timeSourceUpdated lladdr => if e.node = id then some lladdr else none
  | .parentLladdrUpdated lladdr => if e.node = id then some lladdr else none
  | _ => none

/-- The counters that a node reports about its parent, if that has this address. -/
def parentReport? (id : NodeId) (parent : Option Address) (e : Event) : Option LinkCounters :=
  match e.kind with
  | .linkStats counters neighbour => if e.node = id ∧ parent = some neighbour then some counters else none
  | _ => none

variable {e : Event} {id : NodeId} (other : e.owner ≠ .node id)

include other

theorem lladdr?_of_owner_ne : e.lladdr? id = none := by
  obtain ⟨time, node, kind, raw⟩ := e
  cases kind with
  | timeSourceUpdated lladdr | parentLladdrUpdated lladdr => exact if_neg fun same => other (congrArg Owner.node same)
  | _ => rfl

theorem parentReport?_of_owner_ne (parent : Option Address) : e.parentReport? id parent = none := by
  obtain ⟨time, node, kind, raw⟩ := e
  cases kind with
  | linkStats counters neighbour => exact if_neg fun same => other (congrArg Owner.node same.1)
  | _ => rfl

end Event

/-- The link-layer address that the events gave last to the parent of a node; none if the last of them took it
away, or none gave any. -/
def parentLladdr (id : NodeId) (events : List Event) : Option Address :=
  (events.filterMap (Event.lladdr? id)).getLast?.join

/-- What a node reports, in a trace, about the neighbour that is its parent when it reports. -/
def parentReports (id : NodeId) (events : List Event) : List LinkCounters :=
  (List.range events.length).filterMap fun k =>
    events[k]?.bind (Event.parentReport? id (parentLladdr id (events.take k)))

theorem parentLladdr_snoc (id : NodeId) (events : List Event) (e : Event) :
    parentLladdr id (events ++ [e]) = (e.lladdr? id).getD (parentLladdr id events) := by
  unfold parentLladdr
  rw [List.filterMap_append, List.getLast?_append]
  cases given : e.lladdr? id <;> simp [given]

theorem parentReports_snoc (id : NodeId) (events : List Event) (e : Event) :
    parentReports id (events ++ [e]) =
      parentReports id events ++ (e.parentReport? id (parentLladdr id events)).toList :=
  readAlong_snoc (fun before => Event.parentReport? id (parentLladdr id before)) events e

/-- The link counters that are accounted. -/
inductive LinkFigure
  | tx
  | ack
  | queueDropped

variable {α : Type}

namespace LinkFigure

def reported : LinkFigure → LinkCounters → Nat
  | tx, counters => counters.tx
  | ack, counters => counters.ack
  | queueDropped, counters => counters.queueDrops

def accounted : LinkFigure → Node α → Nat
  | tx, n => n.linkTx
  | ack, n => n.linkAck
  | queueDropped, n => n.linkQueueDropped

variable (figure : LinkFigure) (n : Node α)

@[simp] theorem accounted_closeEpisode (time : Millis) : figure.accounted (n.closeEpisode time) = figure.accounted n := by
  rw [Node.closeEpisode_eq]
  cases figure <;> rfl

@[simp] theorem accounted_leave (time : Millis) : figure.accounted (n.leave time) = figure.accounted n := by
  rw [Node.leave_eq]
  cases figure <;> rfl

@[simp] theorem accounted_join (time : Millis) : figure.accounted (n.join time) = figure.accounted n := by
  cases figure <;> rfl

/-- Only reports about the parent are added. -/
theorem accounted_countLink (counters : LinkCounters) (neighbour : Address) :
    figure.accounted (n.countLink counters neighbour) =
      if n.parentLladdr = some neighbour then addCounter (figure.accounted n) (figure.reported counters)
      else figure.accounted n := by
  unfold Node.countLink
  split <;> cases figure <;> rfl

end LinkFigure

variable [Scalar α]

namespace Node

variable (n : Node α) {e : Event} {id : NodeId} (own : e.owner = .node id)

include own

theorem parentLladdr_account : (n.account e).parentLladdr = (e.lladdr? id).getD n.parentLladdr := by
  obtain ⟨time, node, kind, raw⟩ := e
  cases kind with
  | timeSourceUpdated lladdr | parentLladdrUpdated lladdr =>
    obtain rfl := Owner.node.inj own
    simp [account, apply, Event.lladdr?]
  | associated => rfl
  | left | leftNetwork => simp [account, apply, leave_eq, Event.lladdr?]
  | parentChanged old new =>
    simp only [account, apply, Event.lladdr?]
    split <;> simp [join, leave_eq]
  | linkStats counters neighbour =>
    simp only [account, apply]
    rw [countLink_eq]
    rfl
  | energest report =>
    simp only [account, apply]
    rw [countEnergest_eq]
    rfl
  | packetSent | packetReceived | simulationEnded => rfl

/-- Only what a node reports about its parent adds to its link counters. -/
theorem accounted_account (figure : LinkFigure) :
    figure.accounted (n.account e) =
      (e.parentReport? id n.parentLladdr).elim (figure.accounted n)
        fun counters => addCounter (figure.accounted n) (figure.reported counters) := by
  obtain ⟨time, node, kind, raw⟩ := e
  cases kind with
  | linkStats counters neighbour =>
    obtain rfl := Owner.node.inj own
    simp only [account, apply, LinkFigure.accounted_countLink, Event.parentReport?, true_and]
    split <;> rfl
  | associated | timeSourceUpdated | parentLladdrUpdated | packetSent | packetReceived | simulationEnded =>
    cases figure <;> rfl
  | left | leftNetwork => exact LinkFigure.accounted_leave ..
  | parentChanged old new =>
    simp only [account, apply, Event.parentReport?, Option.elim_none]
    split
    · rw [LinkFigure.accounted_join]
      cases figure <;> rfl
    · rw [LinkFigure.accounted_leave]
      cases figure <;> rfl
  | energest report =>
    simp only [account, apply]
    rw [countEnergest_eq]
    cases figure <;> rfl

end Node

namespace Tracker

/-- The link address of the parent is the last that was given. -/
theorem Reach.parentLladdr_state {events : List Event} {t : Tracker α} (reach : Reach events t) (id : NodeId) :
    (t.state id).parentLladdr = parentLladdr id events := by
  induction reach with
  | start => rfl
  | event e previous ih =>
    rw [state_apply, parentLladdr_snoc, ← ih]
    split
    · rename_i own
      exact Node.parentLladdr_account _ own
    · rename_i other
      rw [Event.lladdr?_of_owner_ne other, Option.getD_none]
  | known other previous ih => rw [state_observe, ih]

/-- The link counters of a node are the sums over its reports about its parent of that time, as far as counters
go. -/
theorem Reach.accounted_state {events : List Event} {t : Tracker α} (reach : Reach events t) (id : NodeId)
    (figure : LinkFigure) :
    figure.accounted (t.state id) = min ((parentReports id events).map figure.reported).sum counterMax := by
  induction reach with
  | start => cases figure <;> rfl
  | @event events t e previous ih =>
    -- A report is judged by the parent that the events before it gave, which the node keeps.
    have parent := previous.parentLladdr_state id
    rw [state_apply, parentReports_snoc, List.map_append, List.sum_append]
    split
    · rename_i own
      rw [Node.accounted_account _ own, parent, ih]
      cases e.parentReport? id (parentLladdr id events) with
      | none => simp
      | some counters =>
        simp only [Option.elim_some, Option.toList_some, List.map_singleton, List.sum_singleton, addCounter]
        omega
    · rename_i other
      rw [Event.parentReport?_of_owner_ne other, ih]
      simp
  | known other previous ih => rw [state_observe, ih]

end Tracker

end MeshTrace
