import MeshTrace.Node.State

namespace MeshTrace.Node

variable {α : Type}

/-- Closing an episode changes the time joined only, and leaves no episode open. -/
theorem closeEpisode_eq (n : Node α) (time : Millis) :
    n.closeEpisode time =
      { n with joinedSince := none, timeJoined := (n.closeEpisode time).timeJoined } := by
  obtain ⟨_, _, _, since, _, _, _, _, _, _, _, _, _, _, _, _⟩ := n
  cases since <;> rfl

@[simp] theorem id_closeEpisode (n : Node α) (time : Millis) : (n.closeEpisode time).id = n.id := by
  rw [closeEpisode_eq]

@[simp] theorem ledger_closeEpisode (n : Node α) (time : Millis) :
    (n.closeEpisode time).ledger = n.ledger := by
  rw [closeEpisode_eq]

/-- Leaving changes nothing but the episode and the flags. -/
theorem leave_eq (n : Node α) (time : Millis) :
    n.leave time =
      { n with
        joined := false
        ticksJoined := false
        joinedSince := none
        timeJoined := (n.closeEpisode time).timeJoined } := by
  obtain ⟨_, _, _, since, _, _, _, _, _, _, _, _, _, _, _, _⟩ := n
  cases since <;> rfl

/-- Link counters change nothing but the sums of link counters. -/
theorem countLink_eq (n : Node α) (counters : LinkCounters) (neighbour : Address) :
    n.countLink counters neighbour =
      { n with
        linkTx := (n.countLink counters neighbour).linkTx
        linkAck := (n.countLink counters neighbour).linkAck
        linkQueueDropped := (n.countLink counters neighbour).linkQueueDropped } := by
  unfold countLink
  split <;> rfl

variable [Scalar α]

/-- The energy report changes nothing but the energy accounting. -/
theorem countEnergest_eq (n : Node α) (report : EnergestReport) :
    n.countEnergest report =
      { n with
        ticks := (n.countEnergest report).ticks
        ticksJoined := (n.countEnergest report).ticksJoined
        periodSeconds := (n.countEnergest report).periodSeconds
        ticksPerSecond := (n.countEnergest report).ticksPerSecond } := by
  unfold countEnergest
  split
  · split <;> rfl
  all_goals rfl

/-- No event gives a node another number, and the events that a node accounts by itself leave its
packets alone. -/
theorem frame_apply (n : Node α) (time : Millis) (kind : EventKind) :
    (n.apply time kind).id = n.id ∧ (n.apply time kind).ledger = n.ledger := by
  cases kind with
  | parentChanged old new => simp only [apply]; split <;> simp [join, leave]
  | linkStats counters neighbour => rw [apply, countLink_eq]; exact ⟨rfl, rfl⟩
  | energest report => rw [apply, countEnergest_eq]; exact ⟨rfl, rfl⟩
  | _ => simp [apply, join, leave]

end MeshTrace.Node
