import MeshTrace.Proofs.Node.Growth
import MeshTrace.Proofs.Run.Accounts

namespace MeshTrace

/-- Later warnings: none is taken back. -/
structure Diagnostics.Grows (d c : Diagnostics) : Prop where
  events : d.events ≤ c.events
  malformedLines : d.malformedLines ≤ c.malformedLines
  duplicateSent : d.duplicateSent ≤ c.duplicateSent
  duplicateReceived : d.duplicateReceived ≤ c.duplicateReceived
  unmatchedReceived : d.unmatchedReceived ≤ c.unmatchedReceived

namespace Diagnostics

theorem Grows.refl (d : Diagnostics) : d.Grows d := by constructor <;> exact le_refl _

theorem Grows.trans {d c b : Diagnostics} (first : d.Grows c) (second : c.Grows b) : d.Grows b where
  events := first.events.trans second.events
  malformedLines := first.malformedLines.trans second.malformedLines
  duplicateSent := first.duplicateSent.trans second.duplicateSent
  duplicateReceived := first.duplicateReceived.trans second.duplicateReceived
  unmatchedReceived := first.unmatchedReceived.trans second.unmatchedReceived

theorem grows_count (d : Diagnostics) (rejection : Option Rejection) : d.Grows (d.count rejection) := by
  have more := Nat.le_succ
  have same (k : Nat) := le_refl k
  rcases rejection with _ | _ | _ | _
  · exact ⟨more _, same _, same _, same _, same _⟩
  · exact ⟨more _, same _, more _, same _, same _⟩
  · exact ⟨more _, same _, same _, more _, same _⟩
  · exact ⟨more _, same _, same _, same _, more _⟩

end Diagnostics

namespace Event

/-- The parent that an event gives to a node, if it changes the parent of that node. -/
def newParent? (id : NodeId) (e : Event) : Option (Option Address) :=
  match e.kind with
  | .parentChanged _ new => if e.node = id then some new else none
  | _ => none

/-- The time at which a node is associated by an event. -/
def association? (id : NodeId) (e : Event) : Option Millis :=
  match e.kind with
  | .associated => if e.node = id then some e.time else none
  | _ => none

variable {e : Event} {id : NodeId} (other : e.owner ≠ .node id)

include other

theorem newParent?_of_owner_ne : e.newParent? id = none := by
  obtain ⟨time, node, kind, raw⟩ := e
  cases kind with
  | parentChanged old new => exact if_neg fun same => other (congrArg Owner.node same)
  | _ => rfl

theorem association?_of_owner_ne : e.association? id = none := by
  obtain ⟨time, node, kind, raw⟩ := e
  cases kind with
  | associated => exact if_neg fun same => other (congrArg Owner.node same)
  | _ => rfl

end Event

variable {α : Type}

namespace Tracker

/-- A tracker at a later point of a trace: no node is forgotten, and no figure gets less. -/
structure Grows (t u : Tracker α) : Prop where
  node : ∀ id n, t.node? id = some n → ∃ m, u.node? id = some m ∧ n.Grows m
  diagnostics : t.diagnostics.Grows u.diagnostics

theorem Grows.refl (t : Tracker α) : t.Grows t :=
  ⟨fun _ n known => ⟨n, known, .refl n⟩, .refl _⟩

theorem Grows.trans {t u v : Tracker α} (first : t.Grows u) (second : u.Grows v) : t.Grows v := by
  refine ⟨fun id n known => ?_, first.diagnostics.trans second.diagnostics⟩
  obtain ⟨m, later, more⟩ := first.node id n known
  obtain ⟨k, last, most⟩ := second.node id m later
  exact ⟨k, last, more.trans most⟩

end Tracker

/-- What is known of a node after these events. -/
structure Node.Lifecycle (n : Node α) (id : NodeId) (events : List Event) : Prop extends n.Sound where
  id_eq : n.id = id
  parentSwitches_eq : n.parentSwitches = (events.filterMap (Event.newParent? id)).length
  parent_eq : n.parent = (events.filterMap (Event.newParent? id)).getLast?.join
  associatedAt_eq : n.associatedAt = (events.filterMap (Event.association? id)).head?

variable [Scalar α]

namespace Node

variable (n : Node α) {e : Event} {id : NodeId} (own : e.owner = .node id)

include own

/-- A switch is counted, and its parent is the present one. -/
theorem parent_account :
    (n.account e).parentSwitches = n.parentSwitches + (e.newParent? id).toList.length ∧
      (n.account e).parent = (e.newParent? id).getD n.parent := by
  obtain ⟨time, node, kind, raw⟩ := e
  cases kind with
  | associated => exact ⟨rfl, rfl⟩
  | left | leftNetwork => simp [account, apply, leave_eq, Event.newParent?]
  | parentChanged old new =>
    obtain rfl := Owner.node.inj own
    simp only [account, apply, Event.newParent?, if_true]
    split <;> simp [join, leave_eq]
  | _ => exact ⟨(account_of_staying rfl).parentSwitches, (account_of_staying rfl).parent⟩

theorem associatedAt_account : (n.account e).associatedAt = n.associatedAt.or (e.association? id) := by
  obtain ⟨time, node, kind, raw⟩ := e
  cases kind with
  | associated =>
    obtain rfl := Owner.node.inj own
    cases known : n.associatedAt <;> simp [account, apply, join, known, Event.association?]
  | left | leftNetwork => simp [account, apply, leave_eq, Event.association?]
  | parentChanged old new =>
    simp only [account, apply, Event.association?, Option.or_none]
    split <;> simp [join, leave_eq]
  | _ =>
    rw [Event.association?, Option.or_none]
    exact (account_of_staying rfl).associatedAt

end Node

namespace Tracker

theorem grows_observe (t : Tracker α) (id : NodeId) : t.Grows (t.observe id) := by
  refine ⟨fun other n known => ⟨n, ?_, .refl n⟩, .refl _⟩
  rw [node?_observe]
  split
  · rename_i same
    rw [← same, state_of_node? known]
  · exact known

/-- Every node is sound. -/
theorem Reach.sound {events : List Event} {t : Tracker α} (reach : Reach events t) (id : NodeId) :
    (t.state id).Sound := by
  induction reach with
  | start => exact Node.sound_fresh id
  | event e previous ih =>
    rw [state_apply]
    split
    · exact (ih.account e).1
    · exact ih
  | known other previous ih => rwa [state_observe]

/-- No event takes anything from a tracker. -/
theorem Reach.grows_apply {events : List Event} {t : Tracker α} (reach : Reach events t) (e : Event) :
    t.Grows (t.apply e) := by
  refine ⟨fun id n known => ?_, ?_⟩
  · have state := state_of_node? known
    rw [node?_apply, state]
    split
    · exact ⟨_, rfl, ((state ▸ reach.sound id).account e).2⟩
    · split
      · exact ⟨n, rfl, .refl n⟩
      · exact ⟨n, known, .refl n⟩
  · rw [diagnostics_apply]
    exact t.diagnostics.grows_count _

/-- The switches are counted, and the last of them gives the parent. -/
theorem Reach.parent_state {events : List Event} {t : Tracker α} (reach : Reach events t) (id : NodeId) :
    (t.state id).parentSwitches = (events.filterMap (Event.newParent? id)).length ∧
      (t.state id).parent = (events.filterMap (Event.newParent? id)).getLast?.join := by
  induction reach with
  | start => exact ⟨rfl, rfl⟩
  | @event events t e previous ih =>
    obtain ⟨switches, parent⟩ := ih
    have last : (events ++ [e]).filterMap (Event.newParent? id) =
        events.filterMap (Event.newParent? id) ++ (e.newParent? id).toList := by
      rw [List.filterMap_append]
      cases given : e.newParent? id <;> simp [given]
    rw [state_apply, last, List.length_append]
    split
    · rename_i own
      obtain ⟨counted, kept⟩ := (t.state id).parent_account own
      rw [counted, kept, switches, parent]
      cases e.newParent? id <;> simp
    · rename_i other
      simp [Event.newParent?_of_owner_ne other, switches, parent]
  | known other previous ih => rwa [state_observe]

theorem Reach.associatedAt_state {events : List Event} {t : Tracker α} (reach : Reach events t) (id : NodeId) :
    (t.state id).associatedAt = (events.filterMap (Event.association? id)).head? := by
  induction reach with
  | start => rfl
  | @event events t e previous ih =>
    have last : ([e].filterMap (Event.association? id)).head? = e.association? id := by
      cases given : e.association? id <;> simp [given]
    rw [state_apply, List.filterMap_append, List.head?_append, last, ← ih]
    split
    · rename_i own
      exact (t.state id).associatedAt_account own
    · rename_i other
      rw [Event.association?_of_owner_ne other, Option.or_none]
  | known other previous ih => rwa [state_observe]

/-- A trace tells of the lives of its nodes: their flags and energy figures fit together, their parents and
first associations are those reported, nothing is ever taken back, and no episode is open at the end. -/
theorem Reach.lifecycle {events : List Event} {t : Tracker α} (reach : Reach events t) :
    (∀ id n, t.node? id = some n → n.Lifecycle id events) ∧
      (∀ e, t.Grows (t.apply e)) ∧ (∀ id, t.Grows (t.observe id)) ∧
      ∀ lastTime,
        (∀ id n, t.node? id = some n → ∃ m, (t.finish lastTime).nodes.get? id = some m ∧ n.Grows m) ∧
          ∀ m ∈ (t.finish lastTime).nodes.values, m.joinedSince = none := by
  refine ⟨fun id n known => ?_, reach.grows_apply, t.grows_observe, fun lastTime => ⟨fun id n known => ?_, ?_⟩⟩
  · obtain ⟨switches, parent⟩ := reach.parent_state id
    have sound := reach.sound id
    have association := reach.associatedAt_state id
    rw [state_of_node? known] at sound switches parent association
    exact ⟨sound, reach.id_of_node? known, switches, parent, association⟩
  · have sound := state_of_node? known ▸ reach.sound id
    exact ⟨_, by rw [get?_finish, known]; rfl, sound.grows_closeEpisode _⟩
  · intro m member
    rw [values_finish] at member
    obtain ⟨n, -, rfl⟩ := List.mem_map.mp member
    rw [Node.closeEpisode_eq]

/-- Node two is associated twice, reports reception before and after it has a parent, and loses the parent. -/
def briefStay : List Event :=
  [⟨100, 2, .associated, ""⟩, ⟨150, 2, .energest (.spent .radioRx 40), ""⟩,
    ⟨200, 2, .parentChanged none (some "fe80::1"), ""⟩, ⟨250, 2, .associated, ""⟩,
    ⟨300, 2, .energest (.spent .radioRx 30), ""⟩, ⟨400, 2, .parentChanged (some "fe80::1") none, ""⟩]

/-- A node joins, switches its parent and leaves. -/
theorem lifecycle_briefStay :
    Reach briefStay (briefStay.foldl apply .start : Tracker Float) ∧
      ∃ n, (briefStay.foldl apply .start : Tracker Float).node? 2 = some n ∧ n.Lifecycle 2 briefStay ∧
        n.parentSwitches = 2 ∧ n.parent = none ∧ n.associatedAt = some 100 ∧ n.ticks.radioRxJoined = 30 := by
  have reach : Reach briefStay (briefStay.foldl apply .start : Tracker Float) := Reach.start.foldl briefStay
  have known : (briefStay.foldl apply .start : Tracker Float).node? 2 = some _ := rfl
  have lifecycle := reach.lifecycle.1 2 _ known
  exact ⟨reach, _, known, lifecycle, lifecycle.parentSwitches_eq, lifecycle.parent_eq, lifecycle.associatedAt_eq,
    rfl⟩

end Tracker

end MeshTrace
