import MeshTrace.Proofs.Node.Episodes
import MeshTrace.Proofs.Tracker.Lifecycle

namespace MeshTrace

/-- That a node joins or leaves, if an event says so. -/
def Event.change? (id : NodeId) (e : Event) : Option Change :=
  if e.node = id then e.joins?.map fun joins => ⟨e.time, joins⟩ else none

/-- The changes of a node in a trace. -/
def Change.ofEvents (id : NodeId) (events : List Event) : List Change := events.filterMap (Event.change? id)

theorem Event.joins?_of_change? {e : Event} {id : NodeId} {c : Change} (change : e.change? id = some c) :
    e.node = id ∧ e.joins? = some c.joins := by
  unfold change? at change
  split at change
  · rename_i own
    obtain ⟨joins, changes, rfl⟩ := Option.map_eq_some_iff.mp change
    exact ⟨own, changes⟩
  · cases change

theorem Event.owner_of_change? {e : Event} {id : NodeId} {c : Change} (change : e.change? id = some c) :
    e.owner = .node id := by
  obtain ⟨own, joins⟩ := joins?_of_change? change
  rw [e.owner_of_joins? joins, own]

/-- Only the events of a node change it. -/
theorem Change.ofEvents_filter (id : NodeId) (events : List Event) :
    ofEvents id (events.filter (·.owner = .node id)) = ofEvents id events := by
  rw [ofEvents, List.filterMap_filter]
  refine List.filterMap_congr fun e _ => ?_
  cases change : e.change? id with
  | none => simp
  | some c => simp [Event.owner_of_change? change]

variable {α : Type}

namespace Node

open Change

/-- How long a node will be joined from now on, the open episode included. -/
def outlook (n : Node α) (finish : Millis) (changes : List Change) : Int :=
  match n.joinedSince with
  | none => joinedTime finish false changes
  | some since => max 0 (leavingTime finish changes - since) + joinedTime finish true changes

variable [Scalar α]

/-- What a node has been joined when all episodes are closed is what it was joined so far and what it will be
joined from now on, unless there is no time that long. -/
theorem timeJoined_foldl {n : Node α} (sound : n.Sound) (finish : Millis) {id : NodeId} {events : List Event}
    (own : ∀ e ∈ events, e.owner = .node id) :
    ((events.foldl account n).closeEpisode finish).timeJoined =
      min timeMax (n.timeJoined + n.outlook finish (ofEvents id events)) := by
  induction events generalizing n with
  | nil =>
    have low := sound.timeJoined_nonneg
    have high := sound.timeJoined_le
    rw [List.foldl_nil, timeJoined_closeEpisode, outlook]
    cases n.joinedSince with
    | none => simp [ofEvents, high]
    | some since =>
      simp only [ofEvents, List.filterMap_nil, leavingTime_nil, joinedTime_nil, clampTime, timeMin, timeMax] at high ⊢
      omega
  | cons e later ih =>
    have ownLater : ∀ d ∈ later, d.owner = .node id := fun d member => own d (List.mem_cons_of_mem e member)
    have step := ih (sound.account e).1 ownLater
    rw [List.foldl_cons, step]
    cases change : e.joins? with
    | none =>
      have stays := account_of_staying (n := n) change
      have same : ofEvents id (e :: later) = ofEvents id later := by simp [ofEvents, Event.change?, change]
      rw [same, stays.timeJoined, outlook, outlook, stays.joinedSince]
    | some joins =>
      have here : e.node = id := by
        have owned := own e List.mem_cons_self
        rw [e.owner_of_joins? change] at owned
        exact Owner.node.inj owned
      have next : ofEvents id (e :: later) = ⟨e.time, joins⟩ :: ofEvents id later := by
        simp [ofEvents, Event.change?, change, here]
      rw [next]
      cases joins with
      | true =>
        obtain ⟨since, time⟩ := account_of_joining (n := n) change
        rw [time, outlook, outlook, since]
        cases n.joinedSince <;> simp
      | false =>
        obtain ⟨since, time⟩ := account_of_leaving (n := n) change
        have low := sound.timeJoined_nonneg
        have rest := joinedTime_nonneg finish false (ofEvents id later)
        rw [time, outlook, outlook, since, timeJoined_closeEpisode]
        cases n.joinedSince with
        | none => simp
        | some start =>
          simp only [leavingTime_leave, joinedTime_leave, clampTime, timeMin, timeMax]
          omega

end Node

variable [Scalar α]

namespace Tracker

open Change

/-- The end time is the last one that was given. -/
theorem Reach.endTime_eq {events : List Event} {t : Tracker α} (reach : Reach events t) :
    t.endTime = (events.filterMap Event.endTime?).getLast? := by
  induction reach with
  | start => rfl
  | event e previous ih =>
    rw [endTime_apply, ih, List.filterMap_append, List.getLast?_append]
    cases ended : e.endTime? <;> simp [ended]
  | known other previous ih => exact ih

/-- The time joined is that of the changes of the node, as far as times go. -/
theorem Reach.timeJoined_closeEpisode {events : List Event} {t : Tracker α} (reach : Reach events t) (id : NodeId)
    (finish : Millis) :
    ((t.state id).closeEpisode finish).timeJoined =
      min timeMax (joinedTime finish false (ofEvents id events)) := by
  have own : ∀ e ∈ events.filter (·.owner = .node id), e.owner = .node id := fun e member => by
    simpa using (List.mem_filter.mp member).2
  have exact := Node.timeJoined_foldl (α := α) (Node.sound_fresh id) finish own
  rw [← reach.state_eq, ofEvents_filter] at exact
  rw [exact]
  exact congrArg (min timeMax) (Int.zero_add _)

/-- The time that a node was joined is exactly the length of its episodes, the last of which ends with the trace;
in a trace in order these are the milliseconds at which the latest thing that happened to the node was to join. -/
theorem Reach.timeJoined_finish {events : List Event} {t : Tracker α} (reach : Reach events t)
    (lastTime : Option Millis) :
    let finish := (t.finish lastTime).endTime
    finish = (events.filterMap Event.endTime?).getLast?.getD (lastTime.getD 0) ∧
      ∀ id,
        let changes := ofEvents id events
        (changes ≠ [] → (t.finish lastTime).nodes.contains id = true) ∧
          ∀ n, (t.finish lastTime).nodes.get? id = some n →
            n.timeJoined = min timeMax ((episodes finish false changes).map Episode.length).sum ∧
              (Ordered finish changes →
                n.timeJoined = min timeMax (joinedMillis finish changes) ∧
                  ∀ first, changes.find? (·.joins) = some first → n.timeJoined ≤ finish - first.time) := by
  intro finish
  refine ⟨?_, fun id => ⟨fun changed => ?_, fun n found => ?_⟩⟩
  · show t.endTime.getD _ = _
    rw [reach.endTime_eq]
  · obtain ⟨c, member⟩ := List.exists_mem_of_ne_nil _ changed
    obtain ⟨e, inTrace, change⟩ := List.mem_filterMap.mp member
    have known := reach.contains_of_owner inTrace (Event.owner_of_change? change)
    rw [Table.contains, get?_finish, Option.isSome_map]
    exact known
  · rw [get?_finish] at found
    obtain ⟨m, known, rfl⟩ := Option.map_eq_some_iff.mp found
    have exact := reach.timeJoined_closeEpisode id finish
    rw [state_of_node? known] at exact
    refine ⟨exact, fun ordered => ⟨?_, fun first joining => ?_⟩⟩
    · rw [← ordered.joinedTime_eq]
      exact exact
    · have bound := ordered.joinedTime_le joining
      exact exact.trans_le ((min_le_right _ _).trans bound)

/-- A node that leaves before it joins, joins twice in its first episode, leaves twice, and is still joined when
the trace ends. -/
def twoStays : List Event :=
  [⟨5, 3, .left, ""⟩, ⟨10, 3, .associated, ""⟩, ⟨20, 3, .parentChanged none (some "fe80::1"), ""⟩,
    ⟨35, 3, .parentChanged (some "fe80::1") none, ""⟩, ⟨36, 3, .leftNetwork, ""⟩,
    ⟨40, 3, .parentChanged none (some "fe80::2"), ""⟩, ⟨60, 0, .simulationEnded 60, ""⟩]

/-- A node stays for two spans. -/
theorem timeJoined_finish_twoStays :
    Reach twoStays (twoStays.foldl apply .start : Tracker Float) ∧ ofEvents 3 twoStays ≠ [] ∧
      Ordered 60 (ofEvents 3 twoStays) ∧ (ofEvents 3 twoStays).find? (·.joins) = some ⟨10, true⟩ ∧
      ∃ n, ((twoStays.foldl apply .start : Tracker Float).finish none).nodes.get? 3 = some n ∧
        n.timeJoined = 45 ∧ n.timeJoined = min timeMax (joinedMillis 60 (ofEvents 3 twoStays)) ∧
        n.timeJoined ≤ 60 - 10 := by
  have reach : Reach twoStays (twoStays.foldl apply .start : Tracker Float) := Reach.start.foldl twoStays
  have changed : ofEvents 3 twoStays ≠ [] := by decide
  have ordered : Ordered 60 (ofEvents 3 twoStays) := ⟨by decide, by decide⟩
  have joining : (ofEvents 3 twoStays).find? (·.joins) = some ⟨10, true⟩ := by decide
  obtain ⟨listed, exact⟩ := (reach.timeJoined_finish none).2 3
  obtain ⟨n, found⟩ := Option.isSome_iff_exists.mp (listed changed)
  obtain ⟨episodes, inOrder⟩ := exact n found
  obtain ⟨millis, bound⟩ := inOrder ordered
  exact ⟨reach, changed, ordered, joining, n, found, episodes.trans (by decide), millis, bound _ joining⟩

end Tracker

end MeshTrace
