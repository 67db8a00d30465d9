import MeshTrace.Proofs.Classifier.Events
import MeshTrace.Proofs.Tracker.JoinedTime

namespace MeshTrace

variable {α : Type}

/-- A node is valid if it has sent a packet, and was joined where that is required. -/
theorem Node.isValid_iff {n : Node α} {s : Settings α} :
    n.isValid s = true ↔ n.ledger.sentCount ≠ 0 ∧ (s.requireJoin = true → 0 < n.timeJoined) := by
  unfold isValid hasJoined
  cases s.requireJoin <;> simp [and_comm]

variable [Scalar α]

namespace Tracker

open Change

/-- A node has sent a packet if one of its events is a first sending. -/
theorem Reach.sentCount_ne_zero_iff {events : List Event} {t : Tracker α} (reach : Reach events t) (id : NodeId) :
    (t.state id).ledger.sentCount ≠ 0 ↔ ∃ seqnum, (id, seqnum) ∈ sentPackets events := by
  rw [Ledger.sentCount, Table.size_ne_zero_iff]
  simp only [reach.contains_sent]

/-- A node was joined if one of its episodes lasts. -/
theorem Reach.timeJoined_pos_iff {events : List Event} {t : Tracker α} (reach : Reach events t) (id : NodeId)
    (finish : Millis) :
    0 < ((t.state id).closeEpisode finish).timeJoined ↔
      ∃ e ∈ episodes finish false (ofEvents id events), e.start < e.finish := by
  rw [reach.timeJoined_closeEpisode, ← joinedTime_pos_iff, lt_min_iff]
  exact and_iff_right (by decide)

/-- At the end of a trace a node is there and valid if the last of what is known of it is valid. -/
theorem exists_isValid_finish_iff (t : Tracker α) (lastTime : Option Millis) (s : Settings α) (id : NodeId) :
    (∃ n, (t.finish lastTime).nodes.get? id = some n ∧ n.isValid s = true) ↔
      ((t.state id).closeEpisode (t.finish lastTime).endTime).isValid s = true := by
  rw [get?_finish]
  cases known : t.node? id with
  | none =>
    have silent : (t.state id).ledger.sentCount = 0 := by
      rw [state, known]
      rfl
    simp [Node.isValid_iff, silent]
  | some n => simp [state_of_node? known]

/-- A node counts as valid if it sent a packet and, where joining is required, one of its joined episodes ended later
than it started, in whole milliseconds of the trace. Such a node has joined; but not every node that sent a packet and
has joined is valid. -/
theorem Reach.isValid_finish {events : List Event} {t : Tracker α} (reach : Reach events t) (lastTime : Option Millis)
    (s : Settings α) (id : NodeId) :
    let finish := (t.finish lastTime).endTime
    let valid := ∃ n, (t.finish lastTime).nodes.get? id = some n ∧ n.isValid s = true
    (valid ↔ (∃ seqnum, ∃ e ∈ events, e.sent? = some (id, seqnum)) ∧
        (s.requireJoin = true → ∃ e ∈ episodes finish false (ofEvents id events), e.start < e.finish)) ∧
      (valid → s.requireJoin = true → ∃ e ∈ events, e.node = id ∧ e.joins? = some true) := by
  intro finish valid
  have exact : valid ↔ (∃ seqnum, ∃ e ∈ events, e.sent? = some (id, seqnum)) ∧
      (s.requireJoin = true → ∃ e ∈ episodes finish false (ofEvents id events), e.start < e.finish) := by
    refine (t.exists_isValid_finish_iff lastTime s id).trans ?_
    rw [Node.isValid_iff, Node.ledger_closeEpisode, reach.sentCount_ne_zero_iff, reach.timeJoined_pos_iff]
    simp only [mem_sentPackets, finish]
  refine ⟨exact, fun accepted required => ?_⟩
  obtain ⟨episode, member, -⟩ := (exact.mp accepted).2 required
  obtain ⟨c, change, joins, -⟩ := exists_joins_of_mem_episodes member
  obtain ⟨e, inTrace, changed⟩ := List.mem_filterMap.mp change
  obtain ⟨own, joining⟩ := Event.joins?_of_change? changed
  exact ⟨e, inTrace, own, joining.trans (congrArg some joins)⟩

/-- The standard settings, but joining is required. -/
def strict : Settings Float := { Settings.standard with requireJoin := true }

/-- A node joins, sends a packet, and leaves a millisecond later. -/
def shortStay : List Event := [⟨10, 2, .associated, ""⟩, ⟨10, 2, .packetSent 1, ""⟩, ⟨11, 2, .left, ""⟩]

/-- A stay of no whole millisecond counts as none. -/
theorem isValid_finish_shortStay :
    let t : Tracker Float := shortStay.foldl apply .start
    Reach shortStay t ∧ episodes 11 false (ofEvents 2 shortStay) = [⟨10, 11⟩] ∧
      ∃ n, (t.finish (some 11)).nodes.get? 2 = some n ∧ n.isValid strict = true := by
  intro t
  have reach : Reach shortStay t := Reach.start.foldl shortStay
  have stay : episodes 11 false (ofEvents 2 shortStay) = [⟨10, 11⟩] := by decide
  have sent : ∃ seqnum, ∃ e ∈ shortStay, e.sent? = some (2, seqnum) := ⟨1, by decide⟩
  have long : ∃ e ∈ episodes 11 false (ofEvents 2 shortStay), e.start < e.finish := by decide
  exact ⟨reach, stay, (reach.isValid_finish (some 11) strict 2).1.mpr ⟨sent, fun _ => long⟩⟩

/-- Three lines within one millisecond: a node joins, sends a packet, and leaves. -/
def passingStay : List (List Char) :=
  ["1000100 2 association done".toList, "1000500 2 app generate packet seqnum=1 node_id=2".toList,
    "1000900 2 leaving the network".toList]

/-- Its episode has no length in whole milliseconds, so the node is not valid, though it sent a packet and was joined. -/
theorem not_isValid_passingStay :
    let events := (Classifier.start .simulator .lpmIsDeepSleep).events passingStay
    let t : Tracker Float := events.foldl apply .start
    (∃ e ∈ events, e.sent? = some (2, 1)) ∧ (∃ e ∈ events, e.node = 2 ∧ e.joins? = some true) ∧
      ((t.finish (some 1000)).nodes.get? 2).map (·.isValid strict) = some false := by
  decide +kernel

end Tracker

end MeshTrace
