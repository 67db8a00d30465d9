import MeshTrace.Proofs.Run.Accounts
import MeshTrace.Run.Summary

namespace MeshTrace

variable {α : Type} [Scalar α]

/-- A change of nodes, events and times that accounting does not notice: an event that is changed does to a node that is
changed what it did before, and what comes of it is changed again. -/
structure Symmetry (α : Type) [Scalar α] where
  node : Node α → Node α
  event : Event → Event
  time : Millis → Millis
  fresh : ∀ id, node (.fresh id) = .fresh id
  id : ∀ n, (node n).id = n.id
  owner : ∀ e, (event e).owner = e.owner
  nodes : ∀ e, (event e).nodes = e.nodes
  endTime? : ∀ e, (event e).endTime? = e.endTime?.map time
  account : ∀ n e, (node n).account (event e) = node (n.account e)
  rejection? : ∀ n e, (event e).rejection? (node n).ledger = e.rejection? n.ledger
  closeEpisode : ∀ n finish, (node n).closeEpisode (time finish) = node (n.closeEpisode finish)

namespace Symmetry

variable (σ : Symmetry α)

def tracker (t : Tracker α) : Tracker α := ⟨t.nodes.map σ.node, t.endTime.map σ.time, t.diagnostics⟩

def trace (trace : TrackedTrace α) : TrackedTrace α :=
  ⟨trace.nodes.map σ.node, σ.time trace.endTime, trace.diagnostics⟩

theorem node?_tracker (t : Tracker α) (id : NodeId) : (σ.tracker t).node? id = (t.node? id).map σ.node :=
  Table.get?_map ..

theorem state_tracker (t : Tracker α) (id : NodeId) : (σ.tracker t).state id = σ.node (t.state id) := by
  rw [Tracker.state, node?_tracker, Tracker.state]
  cases t.node? id with
  | none => exact (σ.fresh id).symm
  | some n => rfl

theorem observe_tracker (t : Tracker α) (id : NodeId) : (σ.tracker t).observe id = σ.tracker (t.observe id) := by
  refine Tracker.ext_node? (fun other => ?_) rfl rfl
  rw [Tracker.node?_observe, node?_tracker, node?_tracker, state_tracker, Tracker.node?_observe]
  split <;> rfl

theorem ledgerOf_tracker (t : Tracker α) (e : Event) :
    (σ.event e).rejection? ((σ.tracker t).ledgerOf e.owner) = e.rejection? (t.ledgerOf e.owner) := by
  cases own : e.owner with
  | node id => rw [Tracker.ledgerOf_node, Tracker.ledgerOf_node, state_tracker, σ.rejection?]
  | trace =>
    have same := σ.rejection? (.fresh 0) e
    rwa [σ.fresh] at same

/-- Applying an event commutes with a symmetry. -/
theorem apply_tracker (t : Tracker α) (e : Event) :
    (σ.tracker t).apply (σ.event e) = σ.tracker (t.apply e) := by
  refine Tracker.ext_node? (fun id => ?_) ?_ ?_
  · rw [Tracker.node?_apply, node?_tracker, node?_tracker, state_tracker, σ.owner, σ.nodes, σ.account,
      Tracker.node?_apply]
    split
    · rfl
    · split <;> rfl
  · rw [Tracker.endTime_apply, σ.endTime?]
    show (e.endTime?.map σ.time).or (t.endTime.map σ.time) = (t.apply e).endTime.map σ.time
    rw [Tracker.endTime_apply]
    cases e.endTime? <;> rfl
  · rw [Tracker.diagnostics_apply, σ.owner, ledgerOf_tracker]
    exact (t.diagnostics_apply e).symm

theorem foldl_apply_tracker (t : Tracker α) (events : List Event) :
    (events.map σ.event).foldl Tracker.apply (σ.tracker t) = σ.tracker (events.foldl Tracker.apply t) := by
  induction events generalizing t with
  | nil => rfl
  | cons e events ih => rw [List.map_cons, List.foldl_cons, apply_tracker, ih, List.foldl_cons]

/-- A trace that tells no time ends at zero, which has to stay where it is. -/
theorem finish_tracker (t : Tracker α) (lastTime : Option Millis)
    (timed : t.endTime = none → lastTime = none → σ.time 0 = 0) :
    (σ.tracker t).finish (lastTime.map σ.time) = σ.trace (t.finish lastTime) := by
  have endTime : ((σ.tracker t).finish (lastTime.map σ.time)).endTime = σ.time (t.finish lastTime).endTime := by
    show (t.endTime.map σ.time).getD ((lastTime.map σ.time).getD 0) = σ.time (t.endTime.getD (lastTime.getD 0))
    cases ended : t.endTime with
    | some time => rfl
    | none =>
      cases last : lastTime with
      | some time => rfl
      | none => exact (timed ended last).symm
  have nodes : ((σ.tracker t).finish (lastTime.map σ.time)).nodes = (σ.trace (t.finish lastTime)).nodes := by
    refine Table.ext_get? fun id => ?_
    rw [Tracker.get?_finish, endTime, node?_tracker, trace, Table.get?_map, Tracker.get?_finish, Option.map_map,
      Option.map_map]
    exact congrFun (congrArg Option.map (funext fun n => σ.closeEpisode n _)) _
  have diagnostics : ((σ.tracker t).finish (lastTime.map σ.time)).diagnostics = (t.finish lastTime).diagnostics := by
    simp only [Tracker.finish, tracker, Option.isNone_map]
  rw [trace]
  cases finished : (σ.tracker t).finish (lastTime.map σ.time)
  simp_all [trace]

theorem length_values_trace (trace : TrackedTrace α) :
    (σ.trace trace).nodes.values.length = trace.nodes.values.length := by
  rw [Symmetry.trace, Table.values_map, List.length_map]

section

variable {s q : Settings α} (coordinator : q.coordinator = s.coordinator)

include coordinator

theorem others_trace (trace : TrackedTrace α) :
    (σ.trace trace).nodes.values.filter (·.id != q.coordinator) =
      (trace.nodes.values.filter (·.id != s.coordinator)).map σ.node := by
  rw [Symmetry.trace, Table.values_map, List.filter_map, coordinator]
  simp only [Function.comp_def, σ.id]

theorem map_listed_trace {β : Type} {f : NodeRecord α → β} (includeInvalid : q.includeInvalid = s.includeInvalid)
    (valid : ∀ n, (σ.node n).isValid q = n.isValid s) (record : ∀ n, f ((σ.node n).record q) = f (n.record s))
    (trace : TrackedTrace α) :
    (RunSummary.listed (σ.trace trace).nodes.values q).map f = (RunSummary.listed trace.nodes.values s).map f := by
  have shown (n : Node α) : (((σ.node n).record q).isValid || q.includeInvalid) =
      ((n.record s).isValid || s.includeInvalid) := by
    show ((σ.node n).isValid q || _) = (n.isValid s || _)
    rw [valid, includeInvalid]
  rw [RunSummary.listed, σ.others_trace coordinator, RunSummary.listed, List.map_map, List.filter_map, List.filter_map,
    List.map_map, List.map_map]
  simp only [Function.comp_def, shown, record]

/-- A symmetry that keeps the warnings keeps the diagnostics. -/
theorem diagnostics_ofTrace_trace (warnings : ∀ n d, (σ.node n).warnings d = n.warnings d) (trace : TrackedTrace α) :
    (RunSummary.ofTrace (σ.trace trace) q).diagnostics = (RunSummary.ofTrace trace s).diagnostics := by
  simp only [RunSummary.ofTrace, σ.others_trace coordinator, List.foldl_map, warnings]
  rfl

/-- Records that do not change make a summary that does not change, but for the time at which the trace ends. -/
theorem ofTrace_trace (includeInvalid : q.includeInvalid = s.includeInvalid)
    (record : ∀ n, (σ.node n).record q = n.record s) (warnings : ∀ n d, (σ.node n).warnings d = n.warnings d)
    (trace : TrackedTrace α) :
    RunSummary.ofTrace (σ.trace trace) q =
      { RunSummary.ofTrace trace s with endTime := σ.time trace.endTime } := by
  have valid (n : Node α) : (σ.node n).isValid q = n.isValid s := congrArg NodeRecord.isValid (record n)
  have records := σ.map_listed_trace (f := fun r => r) coordinator includeInvalid valid record trace
  have diagnostics := σ.diagnostics_ofTrace_trace coordinator warnings trace
  rw [List.map_id', List.map_id'] at records
  simp only [RunSummary.ofTrace, records, σ.length_values_trace] at diagnostics ⊢
  rw [diagnostics]
  rfl

end

end Symmetry

end MeshTrace
