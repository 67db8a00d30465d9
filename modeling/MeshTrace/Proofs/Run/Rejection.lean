import MeshTrace.Proofs.Run.Packets
import MeshTrace.Proofs.Tracker.Isolation

namespace MeshTrace

variable {α : Type}

/-- Counting an event leaves alone whether the end was reported. -/
theorem Diagnostics.count_missingEndMarker (d : Diagnostics) (rejection : Option Rejection) (missing : Bool) :
    { d.count rejection with missingEndMarker := missing } = { d with missingEndMarker := missing }.count rejection := by
  rcases rejection with _ | _ | _ | _ <;> rfl

theorem Tracker.finish_warn_count (t : Tracker α) (rejection : Option Rejection) (lastTime : Option Millis) :
    (t.warn (·.count rejection)).finish lastTime =
      { t.finish lastTime with diagnostics := (t.finish lastTime).diagnostics.count rejection } := by
  simp only [finish, warn, Diagnostics.count_missingEndMarker]

variable [Scalar α]

namespace Node

/-- A rejected packet leaves its node as it is. -/
theorem account_of_rejection {n : Node α} {e : Event} {r : Rejection} (rejected : e.rejection? n.ledger = some r) :
    n.account e = n := by
  obtain ⟨time, node, kind, raw⟩ := e
  cases kind with
  | packetSent seqnum =>
    have duplicate : (n.ledger.recordSent seqnum time).2 = .duplicate := by
      cases outcome : (n.ledger.recordSent seqnum time).2 with
      | recorded => simp [Event.rejection?, outcome] at rejected
      | duplicate => rfl
    simp only [account, n.ledger.recordSent_of_duplicate seqnum time duplicate]
  | packetReceived seqnum sender =>
    have undelivered (delay : Int) : (n.ledger.recordReceived seqnum time).2 ≠ .delivered delay := by
      intro outcome
      simp [Event.rejection?, outcome] at rejected
    simp only [account, n.ledger.recordReceived_of_not_delivered seqnum time undelivered]
  | _ => cases rejected

end Node

namespace Tracker

variable {t : Tracker α} {e : Event} {r : Rejection}

theorem owner_of_rejection (rejected : e.rejection? (t.ledgerOf e.owner) = some r) : ∃ id, e.owner = .node id := by
  obtain ⟨time, node, kind, raw⟩ := e
  cases kind with
  | packetSent seqnum => exact ⟨node, rfl⟩
  | packetReceived seqnum sender => exact ⟨sender, rfl⟩
  | _ => cases rejected

/-- A rejected event makes its nodes known and is counted, and that is all. -/
theorem apply_of_rejection (rejected : e.rejection? (t.ledgerOf e.owner) = some r) :
    t.apply e = (e.nodes.foldl observe t).warn (·.count (some r)) := by
  obtain ⟨id, own⟩ := owner_of_rejection rejected
  obtain ⟨endTime, diagnostics⟩ := t.frame_foldl_observe e.nodes
  have inside : e.owner ≠ .trace := fun same => Owner.noConfusion (same.symm.trans own)
  refine ext_node? (fun other => ?_) ?_ ?_
  · rw [node?_apply, node?_warn, node?_foldl_observe]
    split
    · rename_i here
      have kept : (t.state other).account e = t.state other :=
        Node.account_of_rejection (by rwa [here, ledgerOf_node] at rejected)
      rw [kept, if_pos ((e.mem_nodes_iff here).mpr (Or.inr rfl))]
    · rfl
  · rw [endTime_apply, Event.endTime?_of_owner inside, Option.none_or]
    exact endTime.symm
  · rw [diagnostics_apply, rejected]
    exact congrArg (Diagnostics.count · (some r)) diagnostics.symm

/-- No event depends on what was counted before. -/
theorem apply_warn_count (t : Tracker α) (e : Event) (rejection : Option Rejection) :
    (t.warn (·.count rejection)).apply e = (t.apply e).warn (·.count rejection) := by
  have ledgers : (t.warn (·.count rejection)).ledgerOf e.owner = t.ledgerOf e.owner := by
    cases e.owner <;> rfl
  refine ext_node? (fun id => ?_) ?_ ?_
  · rw [node?_apply, node?_warn, node?_warn, node?_apply, state_warn]
  · rw [endTime_apply]
    exact (t.endTime_apply e).symm
  · rw [diagnostics_apply, ledgers]
    exact (Diagnostics.count_comm ..).trans (congrArg (Diagnostics.count · rejection) (t.diagnostics_apply e).symm)

theorem hear_warn_count (t : Tracker α) (x : Notice) (rejection : Option Rejection) :
    (t.warn (·.count rejection)).hear x = (t.hear x).warn (·.count rejection) := by
  cases x with
  | event e => exact t.apply_warn_count e rejection
  | known id => rfl

/-- A rejection is counted before or after all that is heard. -/
theorem foldl_hear_warn_count (t : Tracker α) (notices : List Notice) (rejection : Option Rejection) :
    notices.foldl hear (t.warn (·.count rejection)) = (notices.foldl hear t).warn (·.count rejection) := by
  induction notices generalizing t with
  | nil => rfl
  | cons x notices ih => rw [List.foldl_cons, hear_warn_count, ih, List.foldl_cons]

end Tracker

/-- A summary hands the warnings of its trace on. -/
theorem RunSummary.ofTrace_count (trace : TrackedTrace α) (rejection : Option Rejection) (s : Settings α) :
    ofTrace { trace with diagnostics := trace.diagnostics.count rejection } s =
      { ofTrace trace s with diagnostics := (ofTrace trace s).diagnostics.count rejection } := by
  simp only [ofTrace, foldl_warnings]
  rcases rejection with _ | _ | _ | _ <;> rfl

namespace Tracker

/-- A packet that is not recorded when it is reported, because it was sent or has arrived before, or was never sent, can
be left out of a trace: as long as its nodes remain known, all nodes end with the same state, and the summary differs in
nothing but the count of events and the count of such packets, which are less by one. -/
theorem finish_of_rejection (before later : List Notice) (e : Event) {r : Rejection}
    (rejected : e.rejection? ((before.foldl hear .start : Tracker α).ledgerOf e.owner) = some r)
    (lastTime : Option Millis) :
    let whole := ((before ++ .event e :: later).foldl hear .start : Tracker α).finish lastTime
    let less := ((before ++ e.nodes.map Notice.known ++ later).foldl hear .start : Tracker α).finish lastTime
    whole.nodes = less.nodes ∧ whole.endTime = less.endTime ∧
      whole.diagnostics = less.diagnostics.count (some r) ∧
      ∀ s, RunSummary.ofTrace whole s =
        { RunSummary.ofTrace less s with
          diagnostics := (RunSummary.ofTrace less s).diagnostics.count (some r) } := by
  intro whole less
  have counted : whole = { less with diagnostics := less.diagnostics.count (some r) } := by
    simp only [whole, less, List.foldl_append, List.foldl_cons, foldl_hear_known]
    rw [hear, apply_of_rejection rejected, foldl_hear_warn_count, finish_warn_count]
  exact ⟨by rw [counted], by rw [counted], by rw [counted], fun s => by rw [counted, RunSummary.ofTrace_count]⟩

/-- The packet of node two arrives before it is sent. -/
def hastyArrival : Event := ⟨10, 1, .packetReceived 7 2, ""⟩

/-- It is sent after that, arrives again, and then once more. -/
def orderlyArrival : List Notice :=
  [.event ⟨20, 2, .packetSent 7, ""⟩, .event ⟨50, 1, .packetReceived 7 2, ""⟩, .event ⟨60, 1, .packetReceived 7 2, ""⟩]

/-- A packet arrives before it is sent. -/
theorem finish_of_rejection_hastyArrival :
    hastyArrival.rejection? ((start : Tracker Float).ledgerOf hastyArrival.owner) = some .unmatchedReceived ∧
      let whole := ((.event hastyArrival :: orderlyArrival).foldl hear .start : Tracker Float).finish none
      let less := (([Notice.known 1, .known 2] ++ orderlyArrival).foldl hear .start : Tracker Float).finish none
      whole.nodes = less.nodes ∧ whole.diagnostics = less.diagnostics.count (some .unmatchedReceived) ∧
        (less.nodes.get? 2).map (·.ledger.delays) = some #[30] ∧
        whole.diagnostics.unmatchedReceived = 1 ∧ whole.diagnostics.duplicateReceived = 1 := by
  have rejected : hastyArrival.rejection? ((start : Tracker Float).ledgerOf hastyArrival.owner) =
      some .unmatchedReceived := by decide
  obtain ⟨nodes, -, diagnostics, -⟩ := finish_of_rejection [] orderlyArrival hastyArrival rejected none
  exact ⟨rejected, nodes, diagnostics, by decide, by decide, by decide⟩

end Tracker

end MeshTrace
