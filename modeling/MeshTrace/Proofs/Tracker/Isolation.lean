import MeshTrace.Proofs.Tracker.Reach

namespace MeshTrace

/-- What a tracker is told: an event, or only that a node is there. -/
inductive Notice
  | event (e : Event)
  | known (id : NodeId)

def Notice.event? : Notice → Option Event
  | event e => some e
  | known _ => none

/-- Two sequences of notices, the second of which leaves out some events that belong to one node; it only tells that
their nodes are there. -/
inductive Muted (id : NodeId) : List Notice → List Notice → Prop
  | nil : Muted id [] []
  | kept (x : Notice) {xs ys : List Notice} : Muted id xs ys → Muted id (x :: xs) (x :: ys)
  | dropped {e : Event} {xs ys : List Notice} :
      e.owner = .node id → Muted id xs ys → Muted id (.event e :: xs) (e.nodes.map .known ++ ys)

/-- All warnings but the counts of events and of packets that are not recorded. -/
def Diagnostics.quiet (d : Diagnostics) : Diagnostics :=
  { d with events := 0, duplicateSent := 0, duplicateReceived := 0, unmatchedReceived := 0 }

/-- A rejection changes only the counters about packets. -/
theorem Diagnostics.quiet_count (d : Diagnostics) (rejection : Option Rejection) : (d.count rejection).quiet = d.quiet := by
  rcases rejection with _ | _ | _ | _ <;> rfl

variable {α : Type}

namespace Tracker

/-- Two trackers that differ in what they know of one node, and in the counts of events and of packets that are not
recorded. -/
structure Apart (id : NodeId) (t u : Tracker α) : Prop where
  node : ∀ other, other ≠ id → u.node? other = t.node? other
  known : (u.node? id).isSome = (t.node? id).isSome
  endTime : u.endTime = t.endTime
  quiet : u.diagnostics.quiet = t.diagnostics.quiet

theorem Apart.refl (id : NodeId) (t : Tracker α) : Apart id t t := ⟨fun _ _ => rfl, rfl, rfl, rfl⟩

variable [Scalar α]

def hear (t : Tracker α) : Notice → Tracker α
  | .event e => t.apply e
  | .known id => t.observe id

theorem Reach.hear {events : List Event} {t : Tracker α} (reach : Reach events t) (notices : List Notice) :
    Reach (events ++ notices.filterMap Notice.event?) (notices.foldl Tracker.hear t) := by
  induction notices generalizing events t with
  | nil => simpa using reach
  | cons x notices ih =>
    cases x with
    | event e =>
      rw [List.filterMap_cons_some (f := Notice.event?) rfl, List.append_cons]
      exact ih (reach.event e)
    | known id =>
      rw [List.filterMap_cons_none (f := Notice.event?) rfl]
      exact ih (reach.known id)

theorem foldl_hear_known (t : Tracker α) (ids : List NodeId) :
    (ids.map .known).foldl hear t = ids.foldl observe t := by
  rw [List.foldl_map]
  rfl

/-- Nodes that are observed are known, in the state that they are in. -/
theorem node?_foldl_observe (t : Tracker α) (ids : List NodeId) (id : NodeId) :
    (ids.foldl observe t).node? id = if id ∈ ids then some (t.state id) else t.node? id := by
  induction ids generalizing t with
  | nil => simp
  | cons first ids ih =>
    rw [List.foldl_cons, ih, state_observe, node?_observe]
    by_cases here : id = first
    · simp [here]
    · simp [here]

theorem frame_foldl_observe (t : Tracker α) (ids : List NodeId) :
    (ids.foldl observe t).endTime = t.endTime ∧ (ids.foldl observe t).diagnostics = t.diagnostics := by
  induction ids generalizing t with
  | nil => exact ⟨rfl, rfl⟩
  | cons first ids ih => exact ih (t.observe first)

namespace Apart

variable {id : NodeId} {t u : Tracker α} (apart : Apart id t u)

include apart

theorem state {other : NodeId} (different : other ≠ id) : u.state other = t.state other := by
  rw [Tracker.state, apart.node other different, Tracker.state]

theorem observe (seen : NodeId) : Apart id (t.observe seen) (u.observe seen) := by
  refine ⟨fun other different => ?_, ?_, apart.endTime, apart.quiet⟩
  · rw [node?_observe, node?_observe, apart.node other different]
    split
    · rename_i same
      rw [apart.state (same ▸ different)]
    · rfl
  · rw [node?_observe, node?_observe]
    split
    · rfl
    · exact apart.known

theorem apply (e : Event) : Apart id (t.apply e) (u.apply e) := by
  refine ⟨fun other different => ?_, ?_, ?_, ?_⟩
  · rw [node?_apply, node?_apply, apart.state different, apart.node other different]
  · rw [node?_apply, node?_apply]
    split
    · rfl
    · split
      · rfl
      · exact apart.known
  · rw [endTime_apply, endTime_apply, apart.endTime]
  · rw [diagnostics_apply, diagnostics_apply, Diagnostics.quiet_count, Diagnostics.quiet_count, apart.quiet]

theorem hear (x : Notice) : Apart id (t.hear x) (u.hear x) := by
  cases x with
  | event e => exact apart.apply e
  | known seen => exact apart.observe seen

/-- An event of the one node does nothing to the others but tell that they are there. -/
theorem drop {e : Event} (own : e.owner = .node id) : Apart id (t.apply e) (e.nodes.foldl Tracker.observe u) := by
  obtain ⟨endTime, diagnostics⟩ := u.frame_foldl_observe e.nodes
  refine ⟨fun other different => ?_, ?_, ?_, ?_⟩
  · -- An arrival belongs to its sender: if the sender is the one node, the node that reports it is only made known.
    have elsewhere : e.owner ≠ .node other := fun same => different (Owner.node.inj (same.symm.trans own))
    rw [node?_foldl_observe, node?_apply, if_neg elsewhere, apart.state different, apart.node other different]
  · have inside : id ∈ e.nodes := (e.mem_nodes_iff own).mpr (Or.inr rfl)
    rw [node?_foldl_observe, node?_apply, if_pos inside, if_pos own]
    rfl
  · have inside : e.owner ≠ .trace := fun same => Owner.noConfusion (same.symm.trans own)
    rw [endTime, endTime_apply, Event.endTime?_of_owner inside, Option.none_or, apart.endTime]
  · rw [diagnostics, diagnostics_apply, Diagnostics.quiet_count, apart.quiet]

/-- What one node reports is not noticed in any other. -/
theorem of_muted {xs ys : List Notice} (muted : Muted id xs ys) :
    Apart id (xs.foldl Tracker.hear t) (ys.foldl Tracker.hear u) := by
  induction muted generalizing t u with
  | nil => exact apart
  | kept x _ ih => exact ih (apart.hear x)
  | dropped own _ ih =>
    rw [List.foldl_append, foldl_hear_known]
    exact ih (apart.drop own)

end Apart

end Tracker

end MeshTrace
