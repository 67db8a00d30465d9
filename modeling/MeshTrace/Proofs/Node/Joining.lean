import MeshTrace.Proofs.Node.Frame
import MeshTrace.Proofs.Tracker.Account

namespace MeshTrace

/-- Whether an event makes its node join or leave; most events do neither. -/
def Event.joins? (e : Event) : Option Bool :=
  match e.kind with
  | .associated => some true
  | .parentChanged _ new => some new.isSome
  | .left => some false
  | .leftNetwork => some false
  | _ => none

theorem Event.owner_of_joins? {e : Event} {joins : Bool} (change : e.joins? = some joins) :
    e.owner = .node e.node := by
  obtain ⟨time, node, kind, raw⟩ := e
  cases kind with
  | simulationEnded endTime => cases change
  | packetReceived seqnum sender => cases change
  | _ => rfl

variable {α : Type}

namespace Node

/-- An open episode adds its time when it is closed. -/
theorem timeJoined_closeEpisode (n : Node α) (time : Millis) :
    (n.closeEpisode time).timeJoined =
      match n.joinedSince with
      | none => n.timeJoined
      | some since => clampTime (n.timeJoined + max (clampTime (time - since)) 0) := by
  unfold closeEpisode
  cases n.joinedSince with
  | none => rfl
  | some since => rfl

variable [Scalar α] {n : Node α} {e : Event}

/-- An event that joins a node opens an episode, unless one is open. -/
theorem account_of_joining (joining : e.joins? = some true) :
    (n.account e).joinedSince = some (n.joinedSince.getD e.time) ∧ (n.account e).timeJoined = n.timeJoined := by
  obtain ⟨time, node, kind, raw⟩ := e
  cases kind with
  | associated => exact ⟨rfl, rfl⟩
  | parentChanged old new =>
    have parent : new.isSome = true := Option.some.inj joining
    simp only [account, apply, parent, if_true]
    exact ⟨rfl, rfl⟩
  | _ => cases joining

/-- An event by which a node leaves closes its episode. -/
theorem account_of_leaving (leaving : e.joins? = some false) :
    (n.account e).joinedSince = none ∧ (n.account e).timeJoined = (n.closeEpisode e.time).timeJoined := by
  obtain ⟨time, node, kind, raw⟩ := e
  cases kind with
  | left | leftNetwork =>
    simp only [account, apply, leave_eq]
    exact ⟨trivial, trivial⟩
  | parentChanged old new =>
    have orphan : new.isSome = false := Option.some.inj leaving
    simp only [account, apply, orphan, Bool.false_eq_true, if_false, leave_eq, timeJoined_closeEpisode]
    exact ⟨trivial, trivial⟩
  | _ => cases leaving

/-- Two states of a node between which it neither joined nor left. -/
structure Stays (n m : Node α) : Prop where
  joinedSince : m.joinedSince = n.joinedSince
  timeJoined : m.timeJoined = n.timeJoined
  associatedAt : m.associatedAt = n.associatedAt
  parentSwitches : m.parentSwitches = n.parentSwitches
  parent : m.parent = n.parent

theorem account_of_staying (staying : e.joins? = none) : n.Stays (n.account e) := by
  obtain ⟨time, node, kind, raw⟩ := e
  cases kind with
  | associated | left | leftNetwork | parentChanged => cases staying
  | linkStats counters neighbour =>
    simp only [account, apply]
    rw [countLink_eq]
    exact ⟨rfl, rfl, rfl, rfl, rfl⟩
  | energest report =>
    simp only [account, apply]
    rw [countEnergest_eq]
    exact ⟨rfl, rfl, rfl, rfl, rfl⟩
  | _ => exact ⟨rfl, rfl, rfl, rfl, rfl⟩

end Node

end MeshTrace
