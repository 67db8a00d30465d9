import MeshTrace.Proofs.Run.Packets

namespace MeshTrace

variable {α : Type}

/-- A summary that leaves the invalid nodes of another one out, and agrees with it in all that does not speak of them. -/
structure RunSummary.Hides (hidden whole : RunSummary α) : Prop where
  nodes : hidden.nodes = whole.nodes.filter (·.isValid)
  nodeCount : hidden.nodeCount = whole.nodeCount
  endTime : hidden.endTime = whole.endTime
  linkTx : hidden.linkTx = whole.linkTx
  linkAck : hidden.linkAck = whole.linkAck
  linkQueueDropped : hidden.linkQueueDropped = whole.linkQueueDropped
  linkPar : hidden.linkPar = whole.linkPar
  totalSent : hidden.totalSent = whole.totalSent
  totalReceived : hidden.totalReceived = whole.totalReceived
  endToEndPdr : hidden.endToEndPdr = whole.endToEndPdr
  delay : hidden.delay = whole.delay
  jitter : hidden.jitter = whole.jitter
  packetJitter : hidden.packetJitter = whole.packetJitter
  fairDelay : hidden.fairness.delay = whole.fairness.delay
  fairJitter : hidden.fairness.jitter = whole.fairness.jitter
  diagnostics : hidden.diagnostics = whole.diagnostics

theorem flatMap_filter_of_eq_nil {β γ : Type} {p : β → Bool} {f : β → List γ} {xs : List β}
    (nothing : ∀ x ∈ xs, p x = false → f x = []) : (xs.filter p).flatMap f = xs.flatMap f := by
  induction xs with
  | nil => rfl
  | cons x xs ih =>
    have rest := ih fun y member => nothing y (List.mem_cons_of_mem x member)
    by_cases kept : p x = true
    · rw [List.filter_cons_of_pos kept, List.flatMap_cons, List.flatMap_cons, rest]
    · have empty := nothing x List.mem_cons_self (Bool.eq_false_iff.mpr kept)
      rw [List.filter_cons_of_neg kept, List.flatMap_cons, empty, List.nil_append, rest]

variable [Scalar α]

open Scalar

/-- A record without delays: those of an invalid node are left out. -/
structure NodeRecord.Blank (r : NodeRecord α) : Prop where
  delays : r.delays = []
  meanDelay : r.meanDelay = undefined
  jitter : r.jitter = undefined

namespace RunSummary

/-- An invalid record is blank. -/
theorem blank_of_mem_listed {nodes : List (Node α)} {s : Settings α} {r : NodeRecord α} (member : r ∈ listed nodes s)
    (invalid : r.isValid = false) : r.Blank := by
  obtain ⟨n, -, rfl⟩ := List.mem_map.mp (List.mem_of_mem_filter member)
  have silent : n.isValid s = false := invalid
  constructor <;> simp [Node.record, silent, Delay.mean?, Delay.jitter?, Delay.changes]

/-- Where invalid nodes are hidden, the valid records are left. -/
theorem listed_hidden (nodes : List (Node α)) (s : Settings α) :
    listed nodes { s with includeInvalid := false } =
      (listed nodes { s with includeInvalid := true }).filter (·.isValid) := by
  unfold listed
  rw [List.filter_filter]
  refine List.filter_congr fun r _ => ?_
  simp

section

variable {f : NodeRecord α → α} {records : List (NodeRecord α)}
  (skipped : ∀ r ∈ records, r.isValid = false → isDefined (f r) = false)

include skipped

/-- A metric that is undefined for invalid nodes has the same samples with and without them. -/
theorem defined_filter_isValid :
    Stats.defined ((records.filter (·.isValid)).map f) = Stats.defined (records.map f) := by
  unfold Stats.defined
  rw [List.filter_map, List.filter_map, List.filter_filter]
  refine congrArg _ (List.filter_congr fun r member => ?_)
  cases valid : r.isValid with
  | true => rw [Bool.and_true]
  | false => rw [Bool.and_false, Function.comp_apply, skipped r member valid]

/-- Invalid records have no part in a mean. -/
theorem meanSpread_filter_isValid : meanSpread f (records.filter (·.isValid)) = meanSpread f records := by
  simp only [meanSpread, Stats.mean, Stats.deviation, defined_filter_isValid skipped]

theorem fairnessOf_filter_isValid : fairnessOf f (records.filter (·.isValid)) = fairnessOf f records := by
  rw [fairnessOf, defined_filter_isValid skipped, fairnessOf]

end

/-- Where undefined values are told apart, a summary that does not list invalid nodes hides them and nothing else. -/
theorem hides_ofTrace (apart : isDefined (undefined : α) = false) (trace : TrackedTrace α) (s : Settings α) :
    (ofTrace trace { s with includeInvalid := false }).Hides (ofTrace trace { s with includeInvalid := true }) := by
  let records := listed trace.nodes.values { s with includeInvalid := true }
  have hidden : listed trace.nodes.values { s with includeInvalid := false } = records.filter (·.isValid) :=
    listed_hidden trace.nodes.values s
  have blank : ∀ r ∈ records, r.isValid = false → r.Blank := fun r => blank_of_mem_listed
  have delay : ∀ r ∈ records, r.isValid = false → isDefined r.meanDelay = false := fun r member invalid => by
    rw [(blank r member invalid).meanDelay, apart]
  have jitter : ∀ r ∈ records, r.isValid = false → isDefined r.jitter = false := fun r member invalid => by
    rw [(blank r member invalid).jitter, apart]
  -- Fairness is over the records with arrivals, which may be picked before or after the valid ones.
  have delivering : (records.filter (·.isValid)).filter (0 < ·.packetsReceived) =
      (records.filter (0 < ·.packetsReceived)).filter (·.isValid) := List.filter_comm ..
  have total (f : NodeRecord α → Nat) : counterTotal f ((records.filter (·.isValid)).filter (·.isValid)) =
      counterTotal f (records.filter (·.isValid)) := by
    rw [List.filter_filter]
    simp only [Bool.and_self]
  have fair {f : NodeRecord α → α} (skipped : ∀ r ∈ records, r.isValid = false → isDefined (f r) = false) :
      fairnessOf f ((records.filter (·.isValid)).filter (0 < ·.packetsReceived)) =
        fairnessOf f (records.filter (0 < ·.packetsReceived)) := by
    rw [delivering]
    exact fairnessOf_filter_isValid fun r member => skipped r (List.mem_of_mem_filter member)
  constructor <;> simp only [ofTrace, hidden]
  case nodes => rfl
  case linkTx | linkAck | linkQueueDropped | totalSent | totalReceived => exact total _
  case linkPar | endToEndPdr => exact congrArg₂ Arith.percentage (total _) (total _)
  case delay => exact meanSpread_filter_isValid delay
  case jitter => exact meanSpread_filter_isValid jitter
  case fairDelay => exact fair delay
  case fairJitter => exact fair jitter
  case packetJitter =>
    rw [flatMap_filter_of_eq_nil fun r member invalid => (blank r member invalid).delays]

/-- If joining is not required, a node of which something arrived is valid: it must have sent that. -/
theorem isValid_of_packetsReceived {trace : TrackedTrace α} {events : List Event} (accounts : trace.Accounts events)
    {s : Settings α} (unrestricted : s.requireJoin = false) {r : NodeRecord α}
    (member : r ∈ listed trace.nodes.values s) (delivered : 0 < r.packetsReceived) : r.isValid = true := by
  obtain ⟨n, inside, rfl⟩ := List.mem_map.mp (List.mem_of_mem_filter member)
  have fewer := accounts.receivedCount_le (List.mem_of_mem_filter inside)
  have sent : n.ledger.sentCount ≠ 0 := (delivered.trans_le fewer).ne'
  show n.isValid s = true
  rwa [n.isValid_of_unrestricted unrestricted, bne_iff_ne]

/-- If joining is not required, the fairness is that of valid nodes anyway. -/
theorem fairness_hidden {trace : TrackedTrace α} {events : List Event} (accounts : trace.Accounts events)
    {s : Settings α} (unrestricted : s.requireJoin = false) :
    (ofTrace trace { s with includeInvalid := false }).fairness =
      (ofTrace trace { s with includeInvalid := true }).fairness := by
  have delivering : (listed trace.nodes.values { s with includeInvalid := false }).filter (0 < ·.packetsReceived) =
      (listed trace.nodes.values { s with includeInvalid := true }).filter (0 < ·.packetsReceived) := by
    rw [listed_hidden, List.filter_comm, List.filter_eq_self]
    intro r member
    obtain ⟨inside, delivered⟩ := List.mem_filter.mp member
    exact isValid_of_packetsReceived (s := { s with includeInvalid := true }) accounts unrestricted inside
      (of_decide_eq_true delivered)
  simp only [ofTrace, delivering]

end RunSummary

namespace Tracker

/-- Two summaries of a trace whose settings differ only in whether invalid nodes are listed agree in the counts of nodes
and packets, in the link figures, in delay and jitter, and in the warnings; the one lists the valid ones among the records
of the other. If joining is not required, all fairness figures agree as well. -/
theorem Reach.hides_finish {events : List Event} {t : Tracker Float} (reach : Reach events t) (lastTime : Option Millis)
    (s : Settings Float) :
    let hidden := RunSummary.ofTrace (t.finish lastTime) { s with includeInvalid := false }
    let whole := RunSummary.ofTrace (t.finish lastTime) { s with includeInvalid := true }
    hidden.Hides whole ∧
      (s.requireJoin = false →
        hidden.fairness.pdr = whole.fairness.pdr ∧ hidden.fairness.parentSwitches = whole.fairness.parentSwitches) := by
  intro hidden whole
  refine ⟨RunSummary.hides_ofTrace rfl (t.finish lastTime) s, fun unrestricted => ?_⟩
  have same : hidden.fairness = whole.fairness := RunSummary.fairness_hidden (reach.accounts lastTime) unrestricted
  rw [same]
  exact ⟨rfl, rfl⟩

/-- Two nodes send a packet that arrives, one of which never joins; a third one joins, but sends nothing. -/
def outsider : List Event :=
  [⟨0, 2, .packetSent 1, ""⟩, ⟨10, 3, .associated, ""⟩, ⟨20, 3, .packetSent 1, ""⟩, ⟨25, 4, .associated, ""⟩,
    ⟨30, 1, .packetReceived 1 2, ""⟩, ⟨40, 1, .packetReceived 1 3, ""⟩]

/-- Where joining is required, only the second node is valid, and the first one makes the deliveries look less fair. -/
theorem hides_finish_outsider :
    let strict : Settings Float := { Settings.standard with requireJoin := true }
    let t : Tracker Float := outsider.foldl apply .start
    let hidden := RunSummary.ofTrace (t.finish (some 50)) { strict with includeInvalid := false }
    let whole := RunSummary.ofTrace (t.finish (some 50)) { strict with includeInvalid := true }
    Reach outsider t ∧ hidden.Hides whole ∧ hidden.nodes.map (·.id) = [3] ∧ whole.nodes.map (·.id) = [2, 3, 4] ∧
      (hidden.fairness.pdr == 1.0) = true ∧ (whole.fairness.pdr == 0.5) = true := by
  intro strict t hidden whole
  have reach : Reach outsider t := Reach.start.foldl outsider
  exact ⟨reach, (reach.hides_finish (some 50) strict).1, by decide +kernel, by decide +kernel, by decide +kernel,
    by decide +kernel⟩

end Tracker

end MeshTrace
