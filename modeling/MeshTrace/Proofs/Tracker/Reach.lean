import MeshTrace.Proofs.Node.Frame
import MeshTrace.Proofs.Tracker.Account

namespace MeshTrace

/-- What is read off a trace where each event is read with the events before it. -/
def readAlong {β : Type} (read : List Event → Event → Option β) (events : List Event) : List β :=
  (List.range events.length).filterMap fun k => events[k]?.bind (read (events.take k))

theorem readAlong_snoc {β : Type} (read : List Event → Event → Option β) (events : List Event) (e : Event) :
    readAlong read (events ++ [e]) = readAlong read events ++ (read events e).toList := by
  have early : (List.range events.length).filterMap (fun k =>
      (events ++ [e])[k]?.bind (read ((events ++ [e]).take k))) = readAlong read events := by
    refine List.filterMap_congr fun k inside => ?_
    have below := List.mem_range.mp inside
    rw [List.getElem?_append_left below, List.take_append_of_le_length (Nat.le_of_lt below)]
  rw [readAlong, List.length_append, List.length_singleton, List.range_succ, List.filterMap_append, early]
  cases last : read events e <;> simp [last]

variable {α : Type} [Scalar α]

theorem Node.id_account (n : Node α) (e : Event) : (n.account e).id = n.id := by
  unfold account
  split
  · rfl
  · rfl
  · exact (n.frame_apply e.time _).1

namespace Tracker

/-- The trackers that have accounted these events, in this order; nodes may have been made known at
any time. -/
inductive Reach : List Event → Tracker α → Prop
  | start : Reach [] .start
  | event {events : List Event} {t : Tracker α} (e : Event) :
      Reach events t → Reach (events ++ [e]) (t.apply e)
  | known {events : List Event} {t : Tracker α} (id : NodeId) :
      Reach events t → Reach events (t.observe id)

theorem Reach.foldl {events : List Event} {t : Tracker α} (reach : Reach events t) (later : List Event) :
    Reach (events ++ later) (later.foldl apply t) := by
  induction later generalizing events t with
  | nil => simpa using reach
  | cons e later ih => simpa using ih (reach.event e)

/-- A node that has accounted an event is known. -/
theorem Reach.contains_of_owner {events : List Event} {t : Tracker α} (reach : Reach events t) {id : NodeId}
    {e : Event} (member : e ∈ events) (own : e.owner = .node id) : t.nodes.contains id = true := by
  show (t.node? id).isSome = true
  induction reach with
  | start => cases member
  | @event events t last previous ih =>
    rw [node?_apply]
    rcases List.mem_append.mp member with early | late
    · have known := ih early
      split
      · rfl
      · split
        · rfl
        · exact known
    · obtain rfl := List.mem_singleton.mp late
      rw [if_pos own]
      rfl
  | known other previous ih =>
    rw [node?_observe]
    split
    · rfl
    · exact ih member

/-- The state of a node comes from the events that belong to it, whatever else happened. -/
theorem Reach.state_eq {events : List Event} {t : Tracker α} (reach : Reach events t) (id : NodeId) :
    t.state id = (events.filter (·.owner = .node id)).foldl Node.account (.fresh id) := by
  induction reach with
  | start => exact state_start id
  | @event events t e previous ih =>
    rw [state_apply, ih, List.filter_append, List.foldl_append]
    by_cases own : e.owner = .node id
    · simp [own]
    · simp [own]
  | known other previous ih => rw [state_observe, ih]

/-- The state of a node has its identifier. -/
theorem Reach.id_state {events : List Event} {t : Tracker α} (reach : Reach events t) (id : NodeId) :
    (t.state id).id = id := by
  induction reach with
  | start => rfl
  | event e previous ih =>
    rw [state_apply]
    split
    · rw [Node.id_account, ih]
    · exact ih
  | known other previous ih => rw [state_observe, ih]

theorem Reach.id_of_node? {events : List Event} {t : Tracker α} (reach : Reach events t) {id : NodeId}
    {n : Node α} (known : t.node? id = some n) : n.id = id := by
  rw [← state_of_node? known, reach.id_state]

end Tracker

end MeshTrace
