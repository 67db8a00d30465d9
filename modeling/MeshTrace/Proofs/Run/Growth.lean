import Mathlib.Algebra.Order.BigOperators.Group.List
import Mathlib.Algebra.Order.Group.Nat
import MeshTrace.Proofs.Run.Packets
import MeshTrace.Proofs.Tracker.Lifecycle

namespace MeshTrace

section

variable {β γ : Type} {R : β → γ → Prop} {xs : List β} {ys : List γ} (among : List.SublistForall₂ R xs ys)

include among

theorem sublistForall₂_filter {p : β → Bool} {q : γ → Bool}
    (keeps : ∀ a b, R a b → p a = true → q b = true) : List.SublistForall₂ R (xs.filter p) (ys.filter q) := by
  induction among with
  | nil => exact .nil
  | @cons a b xs ys related _ ih =>
    by_cases kept : p a = true
    · rw [List.filter_cons_of_pos kept, List.filter_cons_of_pos (keeps a b related kept)]
      exact .cons related ih
    · rw [List.filter_cons_of_neg kept, List.filter_cons]
      split
      · exact .cons_right ih
      · exact ih
  | cons_right _ ih =>
    rw [List.filter_cons]
    split
    · exact .cons_right ih
    · exact ih

theorem sublistForall₂_map {δ ε : Type} {S : δ → ε → Prop} {f : β → δ} {g : γ → ε}
    (carries : ∀ a b, R a b → S (f a) (g b)) : List.SublistForall₂ S (xs.map f) (ys.map g) := by
  induction among with
  | nil => exact .nil
  | cons related _ ih => exact .cons (carries _ _ related) ih
  | cons_right _ ih => exact .cons_right ih

theorem exists_of_sublistForall₂ {a : β} (member : a ∈ xs) : ∃ b ∈ ys, R a b := by
  induction among with
  | nil => cases member
  | @cons c b xs ys related _ ih =>
    rcases List.mem_cons.mp member with rfl | later
    · exact ⟨b, List.mem_cons_self, related⟩
    · obtain ⟨d, inside, found⟩ := ih later
      exact ⟨d, List.mem_cons_of_mem b inside, found⟩
  | @cons_right b xs ys _ ih =>
    obtain ⟨d, inside, found⟩ := ih member
    exact ⟨d, List.mem_cons_of_mem b inside, found⟩

end

variable {α : Type}

/-- What is reported about a node later in a trace. -/
structure NodeRecord.Grows (r q : NodeRecord α) : Prop where
  id : q.id = r.id
  isValid : r.isValid = true → q.isValid = true
  packetsSent : r.packetsSent ≤ q.packetsSent
  packetsReceived : r.packetsReceived ≤ q.packetsReceived
  parentSwitches : r.parentSwitches ≤ q.parentSwitches
  linkTx : r.linkTx ≤ q.linkTx
  linkAck : r.linkAck ≤ q.linkAck
  linkQueueDropped : r.linkQueueDropped ≤ q.linkQueueDropped
  delays : r.delays <+: q.delays

/-- The result of a trace that goes on: every node is still there, and nothing that was counted gets less. -/
structure RunSummary.Grows (a b : RunSummary α) : Prop where
  diagnostics : a.diagnostics.Grows b.diagnostics
  nodeCount : a.nodeCount ≤ b.nodeCount
  totalSent : a.totalSent ≤ b.totalSent
  totalReceived : a.totalReceived ≤ b.totalReceived
  linkTx : a.linkTx ≤ b.linkTx
  linkAck : a.linkAck ≤ b.linkAck
  linkQueueDropped : a.linkQueueDropped ≤ b.linkQueueDropped
  parentSwitchTotal : a.parentSwitchTotal ≤ b.parentSwitchTotal
  node : ∀ r ∈ a.nodes, ∃ q ∈ b.nodes, r.Grows q

/-- More and larger records have a larger total. -/
theorem RunSummary.counterTotal_mono {f : NodeRecord α → Nat} {rs qs : List (NodeRecord α)}
    (among : List.SublistForall₂ (fun r q => f r ≤ f q) rs qs) : counterTotal f rs ≤ counterTotal f qs := by
  have sums : (rs.map f).sum ≤ (qs.map f).sum :=
    (sublistForall₂_map among fun _ _ less => less).sum_le_sum fun _ _ => Nat.zero_le _
  rw [counterTotal_eq, counterTotal_eq]
  exact min_le_min_right _ sums

variable [Scalar α]

/-- The record of a node grows with the node, whenever the episodes are closed. -/
theorem Node.Grows.record {n m : Node α} (grows : n.Grows m) {s : Settings α}
    (unrestricted : s.requireJoin = false) (early late : Millis) :
    ((n.closeEpisode early).record s).Grows ((m.closeEpisode late).record s) := by
  have sends := grows.ledger.sentCount
  have stays : (n.ledger.sentCount != 0) = true → (m.ledger.sentCount != 0) = true := by
    simp only [bne_iff_ne]
    omega
  rw [closeEpisode_eq n early, closeEpisode_eq m late]
  refine ⟨grows.id, ?_, sends, grows.ledger.receivedCount, grows.parentSwitches, grows.linkTx, grows.linkAck,
    grows.linkQueueDropped, ?_⟩
  · simpa only [Node.record, isValid_of_unrestricted unrestricted] using stays
  · simp only [Node.record, isValid_of_unrestricted unrestricted]
    split
    · rename_i valid
      rw [if_pos (stays valid)]
      exact grows.ledger.delays
    · exact List.nil_prefix

namespace Analysis

/-- A trace of which more lines have been read. -/
structure Grows (a b : Analysis α) : Prop where
  tracker : a.tracker.Grows b.tracker
  malformedLines : a.malformedLines ≤ b.malformedLines

/-- An analysis only grows by a line. -/
theorem grows_readLine {events : List Event} {a : Analysis α} (reach : Tracker.Reach events a.tracker)
    (line : List Char) : a.Grows (a.readLine line) := by
  rcases classified : a.classifier.classify line with ⟨⟨_, _, _, _, _, _ | id⟩, defect | _ | event⟩ <;>
    simp only [readLine, classified]
  · exact ⟨.refl _, Nat.le_succ _⟩
  · exact ⟨.refl _, le_refl _⟩
  · exact ⟨reach.grows_apply event, le_refl _⟩
  · exact ⟨a.tracker.grows_observe id, Nat.le_succ _⟩
  · exact ⟨a.tracker.grows_observe id, le_refl _⟩
  · exact ⟨(reach.grows_apply event).trans ((a.tracker.apply event).grows_observe id), le_refl _⟩

/-- An analysis only grows by further lines. -/
theorem grows_foldl {events : List Event} {a : Analysis α} (reach : Tracker.Reach events a.tracker)
    (lines : List (List Char)) : a.Grows (lines.foldl readLine a) := by
  induction lines generalizing events a with
  | nil => exact ⟨.refl _, le_refl _⟩
  | cons line lines ih =>
    have step := grows_readLine reach line
    have rest := ih (reach_readLine reach line)
    exact ⟨step.tracker.trans rest.tracker, step.malformedLines.trans rest.malformedLines⟩

end Analysis

namespace RunSummary

/-- The summary grows with the analysis. -/
theorem grows_ofTrace {a b : Analysis α} (grows : a.Grows b) {s : Settings α}
    (unrestricted : s.requireJoin = false) : (ofTrace a.trace s).Grows (ofTrace b.trace s) := by
  have values := Table.sublistForall₂_values grows.tracker.node
  have known : a.tracker.nodes.size ≤ b.tracker.nodes.size :=
    Table.size_le_of_contains fun id known => by
      obtain ⟨n, found⟩ := Option.isSome_iff_exists.mp known
      obtain ⟨m, later, -⟩ := grows.tracker.node id n found
      exact Option.isSome_iff_exists.mpr ⟨m, later⟩
  have finished : List.SublistForall₂ (fun n m => (n.record s).Grows (m.record s))
      a.trace.nodes.values b.trace.nodes.values := by
    show List.SublistForall₂ _ (a.tracker.finish _).nodes.values (b.tracker.finish _).nodes.values
    rw [Tracker.values_finish, Tracker.values_finish]
    exact sublistForall₂_map values fun n m more => more.record unrestricted _ _
  have records : List.SublistForall₂ NodeRecord.Grows (listed a.trace.nodes.values s)
      (listed b.trace.nodes.values s) := by
    refine sublistForall₂_filter (sublistForall₂_map (sublistForall₂_filter finished ?_) fun n m more => more) ?_
    · intro n m more other
      have same : m.id = n.id := more.id
      rwa [same]
    · intro r q more shown
      rcases Bool.or_eq_true_iff.mp shown with valid | all
      · rw [more.isValid valid, Bool.true_or]
      · rw [all, Bool.or_true]
  have valid := sublistForall₂_filter (p := (·.isValid)) (q := (·.isValid)) records fun r q more => more.isValid
  have total {f : NodeRecord α → Nat} (less : ∀ r q : NodeRecord α, r.Grows q → f r ≤ f q)
      {rs qs : List (NodeRecord α)} (among : List.SublistForall₂ NodeRecord.Grows rs qs) :
      counterTotal f rs ≤ counterTotal f qs :=
    counterTotal_mono (by simpa using sublistForall₂_map (f := id) (g := id) among less)
  exact
    { diagnostics := by
        have warned := grows.tracker.diagnostics
        have malformed := grows.malformedLines
        simp only [ofTrace, foldl_warnings]
        exact { warned with malformedLines := malformed }
      nodeCount := by
        show (a.tracker.nodes.map _).values.length ≤ (b.tracker.nodes.map _).values.length
        rw [Table.values_map, Table.values_map, List.length_map, List.length_map]
        simpa [Table.values, Table.size] using known
      totalSent := total (fun _ _ more => more.packetsSent) valid
      totalReceived := total (fun _ _ more => more.packetsReceived) valid
      linkTx := total (fun _ _ more => more.linkTx) valid
      linkAck := total (fun _ _ more => more.linkAck) valid
      linkQueueDropped := total (fun _ _ more => more.linkQueueDropped) valid
      parentSwitchTotal := total (fun _ _ more => more.parentSwitches) records
      node := fun r member => exists_of_sublistForall₂ records member }

/-- If joining is not required, everything that is counted for the first lines of a trace is counted for the
whole trace. -/
theorem grows_ofLines {front lines : List (List Char)} (start : front <+: lines) (framing : Framing)
    {s : Settings α} (unrestricted : s.requireJoin = false) :
    (ofLines front framing s).Grows (ofLines lines framing s) := by
  obtain ⟨rest, rfl⟩ := start
  have reach : Tracker.Reach _ (front.foldl Analysis.readLine (.start framing s.mapping) : Analysis α).tracker :=
    Analysis.reach_start framing s.mapping front
  have more := Analysis.grows_foldl reach rest
  rw [← List.foldl_append] at more
  exact grows_ofTrace more unrestricted

/-- A packet that arrives after a line with an unreadable number, and then again. -/
def lateDelivery : List (List Char) :=
  ["1000 2 app generate packet seqnum=7".toList, "2000 3 app generate packet seqnum=99999999999".toList,
    "3000 1 app receive packet seqnum=7 from=fe80::2".toList, "4000 1 app receive packet seqnum=7 from=fe80::2".toList]

/-- A packet that is sent in the first lines arrives in the later ones. -/
theorem grows_ofLines_lateDelivery :
    lateDelivery.take 2 <+: lateDelivery ∧ Settings.standard.requireJoin = false ∧
      (ofLines (lateDelivery.take 2) .simulator Settings.standard).Grows
        (ofLines lateDelivery .simulator Settings.standard) ∧
      (ofLines (lateDelivery.take 2) .simulator Settings.standard).totalReceived = 0 ∧
      (ofLines lateDelivery .simulator Settings.standard).totalReceived = 1 ∧
      (ofLines lateDelivery .simulator Settings.standard).diagnostics.duplicateReceived = 1 := by
  have start : lateDelivery.take 2 <+: lateDelivery := List.take_prefix 2 lateDelivery
  exact ⟨start, rfl, grows_ofLines start .simulator rfl, by decide +kernel, by decide +kernel,
    by decide +kernel⟩

end RunSummary

end MeshTrace
