import MeshTrace.Proofs.Run.Packets
import MeshTrace.Proofs.Tracker.Links

namespace MeshTrace

/-- A sum that stops at a limit does not depend on whether its terms stop there as well. -/
theorem min_sum_min (limit : Nat) (xs : List Nat) : min (xs.map (min · limit)).sum limit = min xs.sum limit := by
  induction xs with
  | nil => rfl
  | cons x xs ih =>
    simp only [List.map_cons, List.sum_cons]
    omega

variable {α : Type}

namespace LinkFigure

def recorded : LinkFigure → NodeRecord α → Nat
  | tx, r => r.linkTx
  | ack, r => r.linkAck
  | queueDropped, r => r.linkQueueDropped

def total : LinkFigure → RunSummary α → Nat
  | tx, run => run.linkTx
  | ack, run => run.linkAck
  | queueDropped, run => run.linkQueueDropped

end LinkFigure

variable [Scalar α]

/-- The link totals are those of the valid records. -/
theorem LinkFigure.total_ofTrace (figure : LinkFigure) (trace : TrackedTrace α) (s : Settings α) :
    figure.total (RunSummary.ofTrace trace s) =
      RunSummary.counterTotal figure.recorded ((RunSummary.listed trace.nodes.values s).filter (·.isValid)) := by
  cases figure <;> rfl

theorem LinkFigure.recorded_record (figure : LinkFigure) (n : Node α) (s : Settings α) :
    figure.recorded (n.record s) = figure.accounted n := by
  cases figure <;> rfl

/-- The nodes whose traffic counts in the totals of a run. -/
def TrackedTrace.validNodes (trace : TrackedTrace α) (s : Settings α) : List (Node α) :=
  trace.nodes.values.filter fun n => n.id != s.coordinator && n.isValid s

theorem RunSummary.filter_isValid_listed_eq (trace : TrackedTrace α) (s : Settings α) :
    (listed trace.nodes.values s).filter (·.isValid) = (trace.validNodes s).map (·.record s) := by
  rw [filter_isValid_listed, List.filter_map, List.filter_filter, TrackedTrace.validNodes]
  refine congrArg _ (List.filter_congr fun n _ => ?_)
  exact Bool.and_comm ..

namespace Tracker

/-- The link counters of a node are what it has reported about its parents. -/
theorem Reach.accounted_finish {events : List Event} {t : Tracker α} (reach : Reach events t)
    (lastTime : Option Millis) {n : Node α} (member : n ∈ (t.finish lastTime).nodes.values) (figure : LinkFigure) :
    figure.accounted n = min ((parentReports n.id events).map figure.reported).sum counterMax := by
  rw [values_finish] at member
  obtain ⟨m, inside, rfl⟩ := List.mem_map.mp member
  obtain ⟨id, known⟩ := Table.mem_values_iff.mp inside
  have exact := reach.accounted_state id figure
  rw [state_of_node? known] at exact
  rw [LinkFigure.accounted_closeEpisode, Node.id_closeEpisode, reach.id_of_node? known, exact]

/-- A link total of a run is the sum over all reports of the nodes that count, as far as counters go: it does not
matter that it was taken node by node, and every partial sum stopped there too. -/
theorem Reach.total_ofTrace {events : List Event} {t : Tracker α} (reach : Reach events t)
    (lastTime : Option Millis) (s : Settings α) (figure : LinkFigure) :
    figure.total (RunSummary.ofTrace (t.finish lastTime) s) =
      min ((((t.finish lastTime).validNodes s).flatMap fun n => parentReports n.id events).map figure.reported).sum
        counterMax := by
  have perNode : ((t.finish lastTime).validNodes s).map (figure.accounted ·) =
      (((t.finish lastTime).validNodes s).map fun n => ((parentReports n.id events).map figure.reported).sum).map
        (min · counterMax) := by
    rw [List.map_map]
    exact List.map_congr_left fun n member => reach.accounted_finish lastTime (List.mem_of_mem_filter member) figure
  rw [LinkFigure.total_ofTrace, RunSummary.counterTotal_eq, RunSummary.filter_isValid_listed_eq, List.map_map]
  simp only [Function.comp_def, LinkFigure.recorded_record]
  rw [perNode, min_sum_min, List.map_flatMap, List.flatMap_def, List.sum_flatten, List.map_map]
  rfl

/-- The link totals of a run are sums over what its valid nodes report about their parents, in whatever order these
reports are added up, and the largest counter if a sum is larger. -/
theorem Reach.linkTotals {events : List Event} {t : Tracker α} (reach : Reach events t) (lastTime : Option Millis)
    (s : Settings α) {reports : List LinkCounters}
    (complete : reports.Perm (((t.finish lastTime).validNodes s).flatMap fun n => parentReports n.id events)) :
    let run := RunSummary.ofTrace (t.finish lastTime) s
    run.linkTx = min (reports.map (·.tx)).sum counterMax ∧ run.linkAck = min (reports.map (·.ack)).sum counterMax ∧
      run.linkQueueDropped = min (reports.map (·.queueDrops)).sum counterMax := by
  have sums (figure : LinkFigure) : figure.total (RunSummary.ofTrace (t.finish lastTime) s) =
      min (reports.map figure.reported).sum counterMax := by
    rw [reach.total_ofTrace, (complete.map figure.reported).sum_eq]
  exact ⟨sums .tx, sums .ack, sums .queueDropped⟩

/-- A node reports before it has a parent, to its parent, and twice to the next one with counters that are too large
together; another node sends nothing. -/
def twoParents : List Event :=
  [⟨10, 2, .packetSent 1, ""⟩, ⟨20, 2, .linkStats ⟨1, 1, 0, 1⟩ "0001.0001", ""⟩,
    ⟨30, 2, .timeSourceUpdated (some "0001.0001"), ""⟩, ⟨40, 2, .linkStats ⟨30, 20, 0, 2⟩ "0001.0001", ""⟩,
    ⟨50, 2, .parentLladdrUpdated (some "0003.0003"), ""⟩, ⟨60, 2, .linkStats ⟨5, 5, 0, 5⟩ "0001.0001", ""⟩,
    ⟨70, 2, .linkStats ⟨counterMax, 9, 0, 0⟩ "0003.0003", ""⟩, ⟨80, 2, .linkStats ⟨counterMax, 1, 0, 4⟩ "0003.0003", ""⟩,
    ⟨90, 2, .timeSourceUpdated none, ""⟩, ⟨95, 2, .linkStats ⟨7, 7, 0, 7⟩ "0003.0003", ""⟩,
    ⟨96, 3, .timeSourceUpdated (some "0001.0001"), ""⟩, ⟨97, 3, .linkStats ⟨8, 8, 0, 8⟩ "0001.0001", ""⟩]

/-- A node reports about two parents, one after the other. -/
theorem linkTotals_twoParents :
    let t : Tracker Float := twoParents.foldl apply .start
    let run := RunSummary.ofTrace (t.finish none) Settings.standard
    let reports : List LinkCounters := [⟨counterMax, 1, 0, 4⟩, ⟨30, 20, 0, 2⟩, ⟨counterMax, 9, 0, 0⟩]
    Reach twoParents t ∧
      reports.Perm (((t.finish none).validNodes Settings.standard).flatMap fun n => parentReports n.id twoParents) ∧
      run.linkTx = counterMax ∧ run.linkAck = 30 ∧ run.linkQueueDropped = 6 := by
  intro t run reports
  have reach : Reach twoParents t := Reach.start.foldl twoParents
  have complete : reports.Perm
      (((t.finish none).validNodes Settings.standard).flatMap fun n => parentReports n.id twoParents) := by
    decide +kernel
  obtain ⟨tx, ack, dropped⟩ := reach.linkTotals none Settings.standard complete
  exact ⟨reach, complete, tx.trans (by decide), ack.trans (by decide), dropped.trans (by decide)⟩

end Tracker

end MeshTrace
