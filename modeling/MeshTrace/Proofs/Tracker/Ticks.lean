import MeshTrace.Proofs.Tracker.Energy

namespace MeshTrace

/-- What an event reports of the energy accounting of a node. -/
def Event.energest? (id : NodeId) (e : Event) : Option EnergestReport :=
  match e.kind with
  | .energest report => if e.node = id then some report else none
  | _ => none

/-- The ticks that are accounted whether or not the node is joined: all ticks, and those of one state. -/
inductive TickFigure
  | total
  | spent (component : Component)

namespace TickFigure

def reported? : TickFigure → EnergestReport → Option Nat
  | total, .total ticks => some ticks
  | spent component, .spent other ticks => if other = component then some ticks else none
  | _, _ => none

/-- The ticks that an event reports for a node. -/
def ticks? (figure : TickFigure) (id : NodeId) (e : Event) : Option Nat := (e.energest? id).bind figure.reported?

def accounted : TickFigure → Ticks → Nat
  | total, ticks => ticks.total
  | spent .cpuOn, ticks => ticks.cpuOn
  | spent .cpuSleep, ticks => ticks.cpuSleep
  | spent .cpuDeepSleep, ticks => ticks.cpuDeepSleep
  | spent .radioTx, ticks => ticks.radioTx
  | spent .radioRx, ticks => ticks.radioRx

/-- All ticks that a node reports, period by period. -/
def reports (figure : TickFigure) (id : NodeId) (events : List Event) : List Nat := events.filterMap (figure.ticks? id)

theorem reports_snoc (figure : TickFigure) (id : NodeId) (events : List Event) (e : Event) :
    figure.reports id (events ++ [e]) = figure.reports id events ++ (figure.ticks? id e).toList := by
  rw [reports, List.filterMap_append]
  cases reported : figure.ticks? id e <;> simp [reports, reported]

end TickFigure

theorem Event.energest?_of_owner_ne {e : Event} {id : NodeId} (other : e.owner ≠ .node id) :
    e.energest? id = none := by
  obtain ⟨time, node, kind, raw⟩ := e
  cases kind with
  | energest report => exact if_neg fun same => other (congrArg Owner.node same)
  | _ => rfl

theorem TickFigure.ticks?_of_owner_ne {e : Event} {id : NodeId} (figure : TickFigure) (other : e.owner ≠ .node id) :
    figure.ticks? id e = none := by
  rw [ticks?, Event.energest?_of_owner_ne other, Option.bind_none]

/-- The figure that counts the same ticks whether or not the node is joined. -/
def JoinedFigure.plain : JoinedFigure → TickFigure
  | radioRx => .spent .radioRx
  | total => .total

theorem JoinedFigure.ticks?_plain (figure : JoinedFigure) (id : NodeId) (e : Event) :
    figure.plain.ticks? id e = figure.ticks? id e := by
  have same (report : EnergestReport) : figure.plain.reported? report = figure.reported? report := by
    cases report with
    | spent component ticks => cases figure <;> cases component <;> rfl
    | _ => cases figure <;> rfl
  obtain ⟨time, node, kind, raw⟩ := e
  cases kind with
  | energest report => by_cases own : node = id <;> simp [ticks?, TickFigure.ticks?, Event.energest?, own, same]
  | _ => rfl

variable {α : Type} [Scalar α]

namespace Node

variable (n : Node α)

/-- The ticks of a report are added to their own figure, as far as counters go. -/
theorem accounted_countEnergest (report : EnergestReport) (figure : TickFigure) :
    figure.accounted (n.countEnergest report).ticks =
      (figure.reported? report).elim (figure.accounted n.ticks) (addCounter (figure.accounted n.ticks)) := by
  cases report with
  | period seconds =>
    rw [countEnergest]
    split <;> cases figure <;> rfl
  | total ticks => rcases figure with _ | _ | _ | _ | _ | _ <;> rfl
  | spent component ticks =>
    cases component <;> rcases figure with _ | _ | _ | _ | _ | _ <;> rfl

/-- The ticks that a node reports are added up, whether or not it is joined. -/
theorem reported_ticks_account {e : Event} {id : NodeId} (own : e.owner = .node id) (figure : TickFigure) :
    figure.accounted (n.account e).ticks =
      (figure.ticks? id e).elim (figure.accounted n.ticks) (addCounter (figure.accounted n.ticks)) := by
  obtain ⟨time, node, kind, raw⟩ := e
  cases kind with
  | energest report =>
    obtain rfl := Owner.node.inj own
    have reported : Event.energest? node ⟨time, node, .energest report, raw⟩ = some report := if_pos rfl
    rw [TickFigure.ticks?, reported]
    exact n.accounted_countEnergest report figure
  | _ => exact congrArg figure.accounted (n.joined_account_of_other own fun _ same => by cases same).2.2

end Node

/-- The ticks accounted are the sums over the reports of a node, as far as counters go. -/
theorem Tracker.Reach.reported_ticks_state {events : List Event} {t : Tracker α} (reach : Reach events t) (id : NodeId)
    (figure : TickFigure) :
    figure.accounted (t.state id).ticks = min (figure.reports id events).sum counterMax := by
  induction reach with
  | start => rcases figure with _ | _ | _ | _ | _ | _ <;> rfl
  | @event events t e previous ih =>
    rw [state_apply, figure.reports_snoc, List.sum_append]
    split
    · rename_i own
      rw [Node.reported_ticks_account _ own, ih, elim_addCounter_min]
    · rename_i other
      rw [figure.ticks?_of_owner_ne other, ih]
      simp
  | known other previous ih => rw [state_observe, ih]

end MeshTrace
