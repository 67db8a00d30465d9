import MeshTrace.Proofs.Run.Packets
import MeshTrace.Proofs.Tracker.Isolation

namespace MeshTrace

variable {α : Type}

/-- A summary but for its counts of events and of packets that are not recorded. -/
def RunSummary.quiet (run : RunSummary α) : RunSummary α := { run with diagnostics := run.diagnostics.quiet }

namespace Tracker.Apart

variable {id : NodeId} {t u : Tracker α} (apart : Apart id t u)

include apart

theorem endTime_finish (lastTime : Option Millis) : (u.finish lastTime).endTime = (t.finish lastTime).endTime := by
  simp only [finish, apart.endTime]

/-- The events of one node change only the counters about packets. -/
theorem quiet_finish (lastTime : Option Millis) :
    (u.finish lastTime).diagnostics.quiet = (t.finish lastTime).diagnostics.quiet := by
  have quiet := apart.quiet
  simp only [Diagnostics.quiet, Diagnostics.mk.injEq, true_and] at quiet
  simp [finish, Diagnostics.quiet, quiet, apart.endTime]

/-- The events of one node leave all others as they are. -/
theorem get?_finish (lastTime : Option Millis) {other : NodeId} (different : other ≠ id) :
    (u.finish lastTime).nodes.get? other = (t.finish lastTime).nodes.get? other := by
  rw [Tracker.get?_finish, Tracker.get?_finish, apart.node other different, apart.endTime_finish]

theorem length_finish (lastTime : Option Millis) :
    (u.finish lastTime).nodes.values.length = (t.finish lastTime).nodes.values.length := by
  have size : u.nodes.size = t.nodes.size := by
    refine Table.size_eq_of_contains fun other => ?_
    by_cases own : other = id
    · subst own
      exact apart.known
    · exact congrArg Option.isSome (apart.node other own)
  rw [values_finish, values_finish, List.length_map, List.length_map, Table.length_values, Table.length_values, size]

end Tracker.Apart

variable [Scalar α]

/-- A summary does not look at the coordinator, but for counting it as a node. -/
theorem RunSummary.quiet_ofTrace {trace other : TrackedTrace α} {s : Settings α}
    (others : other.nodes.values.filter (·.id != s.coordinator) = trace.nodes.values.filter (·.id != s.coordinator))
    (count : other.nodes.values.length = trace.nodes.values.length) (endTime : other.endTime = trace.endTime)
    (quiet : other.diagnostics.quiet = trace.diagnostics.quiet) :
    (ofTrace other s).quiet = (ofTrace trace s).quiet := by
  have records : listed other.nodes.values s = listed trace.nodes.values s := by rw [listed, others, listed]
  have warnings : (ofTrace other s).diagnostics.quiet = (ofTrace trace s).diagnostics.quiet := by
    simp only [Diagnostics.quiet, Diagnostics.mk.injEq, true_and] at quiet
    simp [ofTrace, foldl_warnings, Diagnostics.quiet, others, quiet]
  rw [RunSummary.quiet, RunSummary.quiet, warnings]
  simp only [ofTrace, records, count, endTime]

namespace Tracker

/-- At the end of two such traces every other node has the same state. -/
theorem Apart.values_finish {id : NodeId} {t u : Tracker α} (apart : Apart id t u) {events others : List Event}
    (reach : Reach events t) (reach' : Reach others u) (lastTime : Option Millis) :
    (u.finish lastTime).nodes.values.filter (·.id != id) = (t.finish lastTime).nodes.values.filter (·.id != id) := by
  have nodes : u.nodes.values.filter (·.id != id) = t.nodes.values.filter (·.id != id) :=
    Table.filter_values_eq apart.node (fun n known => by simp [reach'.id_of_node? known])
      fun n known => by simp [reach.id_of_node? known]
  have close (v : Tracker α) (time : Millis) :
      (v.nodes.values.map (·.closeEpisode time)).filter (·.id != id) =
        (v.nodes.values.filter (·.id != id)).map (·.closeEpisode time) := by
    rw [List.filter_map]
    simp only [Function.comp_def, Node.id_closeEpisode]
  rw [Tracker.values_finish, Tracker.values_finish, close, close, nodes, apart.endTime_finish]

/-- Traces that differ in the coordinator alone have one summary, but for the counters about
packets. -/
theorem Apart.quiet_ofTrace {s : Settings α} {t u : Tracker α} (apart : Apart s.coordinator t u)
    {events others : List Event} (reach : Reach events t) (reach' : Reach others u) (lastTime : Option Millis) :
    (RunSummary.ofTrace (u.finish lastTime) s).quiet = (RunSummary.ofTrace (t.finish lastTime) s).quiet :=
  RunSummary.quiet_ofTrace (apart.values_finish reach reach' lastTime) (apart.length_finish lastTime)
    (apart.endTime_finish lastTime) (apart.quiet_finish lastTime)

/-- Leaving out events of the coordinator changes nothing in a summary but the counts of events and of packets that
are not recorded, as long as their nodes remain known. Every other node has the state that all its events give it, among
them the arrivals of its packets at the coordinator. -/
theorem quiet_ofTrace_of_muted (s : Settings α) {xs ys : List Notice} (muted : Muted s.coordinator xs ys)
    (lastTime : Option Millis) :
    let t : Tracker α := xs.foldl hear .start
    let u : Tracker α := ys.foldl hear .start
    (RunSummary.ofTrace (u.finish lastTime) s).quiet = (RunSummary.ofTrace (t.finish lastTime) s).quiet ∧
      ∀ id, id ≠ s.coordinator →
        (u.finish lastTime).nodes.get? id = (t.finish lastTime).nodes.get? id ∧
          u.state id =
            ((xs.filterMap Notice.event?).filter (·.owner = .node id)).foldl Node.account (.fresh id) := by
  intro t u
  have reach : Reach (xs.filterMap Notice.event?) t := Reach.start.hear xs
  have reach' : Reach (ys.filterMap Notice.event?) u := Reach.start.hear ys
  have apart : Apart s.coordinator t u := (Apart.refl _ .start).of_muted muted
  refine ⟨apart.quiet_ofTrace reach reach' lastTime, fun id other => ⟨?_, ?_⟩⟩
  · exact apart.get?_finish lastTime other
  · rw [apart.state other, reach.state_eq]

/-- The coordinator, node one, reports ticks, sends a packet that arrives at node four, and sees the packet of node two
arrive twice. -/
def rootTraffic : List Event :=
  [⟨10, 1, .energest (.total 500), ""⟩, ⟨20, 2, .packetSent 7, ""⟩, ⟨30, 1, .packetSent 7, ""⟩,
    ⟨40, 4, .packetReceived 7 1, ""⟩, ⟨50, 1, .packetReceived 7 2, ""⟩, ⟨60, 1, .packetReceived 7 2, ""⟩]

/-- The same trace without what the coordinator says of itself. -/
def silentRoot : List Notice :=
  [.known 1, .event ⟨20, 2, .packetSent 7, ""⟩, .known 1, .known 4, .known 1, .event ⟨50, 1, .packetReceived 7 2, ""⟩,
    .event ⟨60, 1, .packetReceived 7 2, ""⟩]

/-- The coordinator sends packets to itself, or is only known. -/
theorem quiet_ofTrace_of_muted_silentRoot :
    Muted Settings.standard.coordinator (rootTraffic.map .event) silentRoot ∧
      let loud := RunSummary.ofTrace
        (((rootTraffic.map .event).foldl hear .start : Tracker Float).finish (some 60)) Settings.standard
      let silent := RunSummary.ofTrace ((silentRoot.foldl hear .start : Tracker Float).finish (some 60)) Settings.standard
      silent.quiet = loud.quiet ∧ silent.totalReceived = 1 ∧ silent.nodeCount = 3 ∧
        silent.diagnostics.events = 3 ∧ loud.diagnostics.events = 6 := by
  have muted : Muted Settings.standard.coordinator (rootTraffic.map .event) silentRoot :=
    .dropped rfl (.kept _ (.dropped rfl (.dropped rfl (.kept _ (.kept _ .nil)))))
  have isolated := quiet_ofTrace_of_muted (α := Float) Settings.standard muted (some 60)
  exact ⟨muted, isolated.1, by decide +kernel, by decide +kernel, by decide +kernel, by decide +kernel⟩

end Tracker

end MeshTrace
