import MeshTrace.Proofs.Tracker.JoinedTime

namespace MeshTrace

/-- The ticks that are accounted once more for the time joined: those of reception, and all ticks. -/
inductive JoinedFigure
  | radioRx
  | total

namespace JoinedFigure

def reported? : JoinedFigure → EnergestReport → Option Nat
  | radioRx, .spent .radioRx ticks => some ticks
  | total, .total ticks => some ticks
  | _, _ => none

/-- The ticks that an event reports for a node. -/
def ticks? (figure : JoinedFigure) (id : NodeId) (e : Event) : Option Nat :=
  match e.kind with
  | .energest report => if e.node = id then figure.reported? report else none
  | _ => none

def accounted : JoinedFigure → Ticks → Nat
  | radioRx, ticks => ticks.radioRxJoined
  | total, ticks => ticks.totalJoined

end JoinedFigure

/-- Whether an event makes a node leave. -/
def Event.leaves (id : NodeId) (e : Event) : Bool := (e.change? id).any (!·.joins)

/-- Whether the latest that happened to a node was that it joined. -/
def joinedLast (id : NodeId) (events : List Event) : Bool := (Change.ofEvents id events).getLast?.any (·.joins)

/-- At this place reception is reported for the last time, the node is joined, and it does not leave afterwards. -/
def FoundJoinedAt (id : NodeId) (events : List Event) (place : Nat) : Prop :=
  (events[place]?.bind (JoinedFigure.radioRx.ticks? id)).isSome = true ∧
    joinedLast id (events.take place) = true ∧
    ∀ e ∈ events.drop (place + 1), JoinedFigure.radioRx.ticks? id e = none ∧ e.leaves id = false

instance (id : NodeId) (events : List Event) (place : Nat) : Decidable (FoundJoinedAt id events place) :=
  inferInstanceAs (Decidable (_ ∧ _ ∧ _))

/-- The latest report of reception found the node joined, and the node has not left since. -/
def FoundJoined (id : NodeId) (events : List Event) : Prop :=
  ∃ place < events.length, FoundJoinedAt id events place

instance (id : NodeId) (events : List Event) : Decidable (FoundJoined id events) :=
  inferInstanceAs (Decidable (∃ place < _, _))

/-- The ticks that a node reports after it was found joined and before it leaves. -/
def joinedReports (figure : JoinedFigure) (id : NodeId) : List Event → List Nat :=
  readAlong fun before e => if FoundJoined id before then figure.ticks? id e else none

section

variable {e : Event} {id : NodeId} (other : e.owner ≠ .node id)

include other

theorem JoinedFigure.ticks?_of_owner_ne (figure : JoinedFigure) : figure.ticks? id e = none := by
  obtain ⟨time, node, kind, raw⟩ := e
  cases kind with
  | energest report => exact if_neg fun same => other (congrArg Owner.node same)
  | _ => rfl

theorem Event.change?_of_owner_ne : e.change? id = none := by
  cases change : e.change? id with
  | none => rfl
  | some c => exact absurd (Event.owner_of_change? change) other

theorem Event.leaves_of_owner_ne : e.leaves id = false := by
  rw [leaves, change?_of_owner_ne other, Option.any_none]

end

theorem joinedLast_snoc (id : NodeId) (events : List Event) (e : Event) :
    joinedLast id (events ++ [e]) = ((e.change? id).map (·.joins)).getD (joinedLast id events) := by
  unfold joinedLast Change.ofEvents
  rw [List.filterMap_append, List.getLast?_append]
  cases change : e.change? id <;> simp [change]

/-- A report of reception finds out anew whether the node is joined; any other event leaves it at that, unless it makes the
node leave. -/
theorem foundJoined_snoc (id : NodeId) (events : List Event) (e : Event) :
    FoundJoined id (events ++ [e]) ↔
      if (JoinedFigure.radioRx.ticks? id e).isSome then joinedLast id events = true
      else e.leaves id = false ∧ FoundJoined id events := by
  have early (place : Nat) (inside : place < events.length) : FoundJoinedAt id (events ++ [e]) place ↔
      FoundJoinedAt id events place ∧ JoinedFigure.radioRx.ticks? id e = none ∧ e.leaves id = false := by
    unfold FoundJoinedAt
    rw [List.getElem?_append_left inside, List.take_append_of_le_length inside.le,
      List.drop_append_of_le_length inside, List.forall_mem_append, List.forall_mem_singleton]
    simp only [and_assoc]
  have last : FoundJoinedAt id (events ++ [e]) events.length ↔
      (JoinedFigure.radioRx.ticks? id e).isSome = true ∧ joinedLast id events = true := by
    simp [FoundJoinedAt]
  have split : FoundJoined id (events ++ [e]) ↔
      (FoundJoined id events ∧ JoinedFigure.radioRx.ticks? id e = none ∧ e.leaves id = false) ∨
        ((JoinedFigure.radioRx.ticks? id e).isSome = true ∧ joinedLast id events = true) := by
    rw [← last, FoundJoined, FoundJoined, List.length_append, List.length_singleton]
    constructor
    · rintro ⟨place, inside, found⟩
      rcases Nat.lt_succ_iff_lt_or_eq.mp inside with before | rfl
      · obtain ⟨found, still⟩ := (early place before).mp found
        exact Or.inl ⟨⟨place, before, found⟩, still⟩
      · exact Or.inr found
    · rintro (⟨⟨place, before, found⟩, still⟩ | found)
      · exact ⟨place, Nat.lt_succ_of_lt before, (early place before).mpr ⟨found, still⟩⟩
      · exact ⟨events.length, Nat.lt_succ_self _, found⟩
  rw [split]
  cases reported : JoinedFigure.radioRx.ticks? id e with
  | none => simp [and_comm]
  | some ticks => simp

/-- Before the first report of reception nothing was found. -/
theorem not_foundJoined {id : NodeId} {events : List Event}
    (silent : ∀ e ∈ events, JoinedFigure.radioRx.ticks? id e = none) : ¬FoundJoined id events := by
  rintro ⟨place, inside, reported, -⟩
  rw [List.getElem?_eq_getElem inside, Option.bind_some, silent _ (List.getElem_mem inside)] at reported
  cases reported

variable {α : Type} [Scalar α]

namespace Node

/-- What one line of the energy report does to what counts as joined. Reception is attributed by what the report before
found, and total ticks as well. -/
theorem joined_countEnergest (n : Node α) (report : EnergestReport) :
    (n.countEnergest report).joined = n.joined ∧
      ((n.countEnergest report).ticksJoined =
        if (JoinedFigure.radioRx.reported? report).isSome then n.joined else n.ticksJoined) ∧
      ∀ figure : JoinedFigure,
        figure.accounted (n.countEnergest report).ticks =
          (if n.ticksJoined then figure.reported? report else none).elim (figure.accounted n.ticks)
            fun ticks => addCounter (figure.accounted n.ticks) ticks := by
  cases report with
  | period seconds =>
    simp only [countEnergest]
    split <;> exact ⟨rfl, rfl, fun figure => by cases figure <;> simp [JoinedFigure.reported?]⟩
  | total ticks =>
    refine ⟨rfl, rfl, fun figure => ?_⟩
    cases figure <;> cases found : n.ticksJoined <;>
      simp [countEnergest, JoinedFigure.accounted, JoinedFigure.reported?, found]
  | spent component ticks =>
    cases component with
    | radioRx =>
      refine ⟨rfl, rfl, fun figure => ?_⟩
      cases figure <;> cases found : n.ticksJoined <;>
        simp [countEnergest, Ticks.spend, JoinedFigure.accounted, JoinedFigure.reported?, found]
    | _ =>
      refine ⟨rfl, rfl, fun figure => ?_⟩
      cases figure <;> simp [countEnergest, Ticks.spend, JoinedFigure.accounted, JoinedFigure.reported?]

variable (n : Node α) {e : Event} {id : NodeId} (own : e.owner = .node id)

include own

/-- Other events report no ticks; what the last report found is forgotten when the node leaves. -/
theorem joined_account_of_other (other : ∀ report, e.kind ≠ .energest report) :
    (n.account e).joined = ((e.change? id).map (·.joins)).getD n.joined ∧
      (n.account e).ticksJoined = (!e.leaves id && n.ticksJoined) ∧ (n.account e).ticks = n.ticks := by
  obtain ⟨time, node, kind, raw⟩ := e
  cases kind with
  | energest report => exact absurd rfl (other report)
  | associated =>
    obtain rfl := Owner.node.inj own
    simp [account, apply, join, Event.leaves, Event.change?, Event.joins?]
  | left | leftNetwork =>
    obtain rfl := Owner.node.inj own
    simp [account, apply, leave_eq, Event.leaves, Event.change?, Event.joins?]
  | parentChanged old new =>
    obtain rfl := Owner.node.inj own
    cases new <;> simp [account, apply, join, leave_eq, Event.leaves, Event.change?, Event.joins?]
  | linkStats counters neighbour =>
    simp only [account, apply]
    rw [countLink_eq]
    simp [Event.leaves, Event.change?, Event.joins?]
  | _ => simp [account, apply, Event.leaves, Event.change?, Event.joins?]

theorem joined_account : (n.account e).joined = ((e.change? id).map (·.joins)).getD n.joined := by
  obtain ⟨time, node, kind, raw⟩ := e
  cases kind with
  | energest report =>
    rw [Event.change?, Event.joins?, Option.map_none, ite_self]
    exact (n.joined_countEnergest report).1
  | _ => exact (n.joined_account_of_other own fun _ same => by cases same).1

/-- Whether ticks count as joined is decided anew at each report of reception. -/
theorem ticksJoined_account :
    (n.account e).ticksJoined =
      if (JoinedFigure.radioRx.ticks? id e).isSome then n.joined else !e.leaves id && n.ticksJoined := by
  obtain ⟨time, node, kind, raw⟩ := e
  cases kind with
  | energest report =>
    obtain rfl := Owner.node.inj own
    simp [account, apply, (n.joined_countEnergest report).2.1, JoinedFigure.ticks?, Event.leaves, Event.change?,
      Event.joins?]
  | _ => exact (n.joined_account_of_other own fun _ same => by cases same).2.1

/-- The ticks that a node reports are attributed if the last report of reception found it joined. -/
theorem accounted_ticks_account (figure : JoinedFigure) :
    figure.accounted (n.account e).ticks =
      (if n.ticksJoined then figure.ticks? id e else none).elim (figure.accounted n.ticks)
        fun ticks => addCounter (figure.accounted n.ticks) ticks := by
  obtain ⟨time, node, kind, raw⟩ := e
  cases kind with
  | energest report =>
    obtain rfl := Owner.node.inj own
    have reported : figure.ticks? node ⟨time, node, .energest report, raw⟩ = figure.reported? report := if_pos rfl
    rw [reported]
    exact (n.joined_countEnergest report).2.2 figure
  | _ =>
    rw [(n.joined_account_of_other own fun _ same => by cases same).2.2, JoinedFigure.ticks?, ite_self, Option.elim_none]

end Node

namespace Tracker

/-- A node is joined if its last change was to join. -/
theorem Reach.joined_state {events : List Event} {t : Tracker α} (reach : Reach events t) (id : NodeId) :
    (t.state id).joined = joinedLast id events := by
  induction reach with
  | start => rfl
  | event e previous ih =>
    rw [state_apply, joinedLast_snoc, ← ih]
    split
    · rename_i own
      exact Node.joined_account _ own
    · rename_i other
      rw [Event.change?_of_owner_ne other, Option.map_none, Option.getD_none]
  | known other previous ih => rw [state_observe, ih]

/-- Ticks count as joined where the node is found joined. -/
theorem Reach.ticksJoined_state {events : List Event} {t : Tracker α} (reach : Reach events t) (id : NodeId) :
    (t.state id).ticksJoined = decide (FoundJoined id events) := by
  induction reach with
  | start => rfl
  | @event events t e previous ih =>
    rw [state_apply]
    split
    · rename_i own
      rw [Node.ticksJoined_account _ own, ih, previous.joined_state]
      simp only [foundJoined_snoc]
      split <;> simp
    · rename_i other
      simp only [ih, foundJoined_snoc, JoinedFigure.ticks?_of_owner_ne other, Event.leaves_of_owner_ne other]
      simp
  | known other previous ih => rw [state_observe, ih]

/-- The ticks joined are the sums over the reports of a node that was found joined, as far as counters go. -/
theorem Reach.accounted_ticks_state {events : List Event} {t : Tracker α} (reach : Reach events t) (id : NodeId)
    (figure : JoinedFigure) :
    figure.accounted (t.state id).ticks = min (joinedReports figure id events).sum counterMax := by
  induction reach with
  | start => cases figure <;> rfl
  | @event events t e previous ih =>
    have found := previous.ticksJoined_state id
    rw [state_apply, joinedReports, readAlong_snoc, List.sum_append, ← joinedReports]
    split
    · rename_i own
      rw [Node.accounted_ticks_account _ own, found, ih]
      simp only [decide_eq_true_eq]
      exact elim_addCounter_min ..
    · rename_i other
      rw [figure.ticks?_of_owner_ne other, ite_self, ih]
      simp
  | known other previous ih => rw [state_observe, ih]

/-- Of the reception and of all ticks that a node reports, those count as joined that it reports when the latest report of
reception before found it joined, unless it left in between. Nothing counts before the first report of reception. The
end of the trace changes none of this. -/
theorem Reach.joinedTicks {events : List Event} {t : Tracker α} (reach : Reach events t) (id : NodeId) :
    (t.state id).joined = joinedLast id events ∧
      (t.state id).ticks.radioRxJoined = min (joinedReports .radioRx id events).sum counterMax ∧
      (t.state id).ticks.totalJoined = min (joinedReports .total id events).sum counterMax ∧
      (∀ place, (∀ e ∈ events.take place, JoinedFigure.radioRx.ticks? id e = none) →
        ¬FoundJoined id (events.take place)) ∧
      ∀ lastTime n, (t.finish lastTime).nodes.get? id = some n → n.ticks = (t.state id).ticks := by
  refine ⟨reach.joined_state id, reach.accounted_ticks_state id .radioRx, reach.accounted_ticks_state id .total,
    fun place => not_foundJoined, fun lastTime n kept => ?_⟩
  rw [get?_finish] at kept
  obtain ⟨m, known, rfl⟩ := Option.map_eq_some_iff.mp kept
  rw [state_of_node? known, Node.closeEpisode_eq]

/-- Node two is associated, reports before it was asked whether it is joined, leaves and comes back between two reports of
reception, and at last receives for longer than counters go. -/
def interruptedStay : List Event :=
  [⟨0, 2, .associated, ""⟩, ⟨60, 2, .energest (.total 5), ""⟩, ⟨60, 2, .energest (.spent .radioRx 10), ""⟩,
    ⟨120, 2, .energest (.total 100), ""⟩, ⟨130, 2, .left, ""⟩, ⟨140, 2, .associated, ""⟩,
    ⟨150, 2, .energest (.spent .radioRx 20), ""⟩, ⟨180, 2, .energest (.spent .radioRx counterMax), ""⟩,
    ⟨240, 2, .energest (.spent .radioRx 7), ""⟩, ⟨240, 2, .energest (.total 3), ""⟩]

/-- A node leaves and joins again between two reports. -/
theorem joinedTicks_interruptedStay :
    let t : Tracker Float := interruptedStay.foldl apply .start
    Reach interruptedStay t ∧ joinedReports .radioRx 2 interruptedStay = [counterMax, 7] ∧
      joinedReports .total 2 interruptedStay = [100, 3] ∧
      (t.state 2).ticks.radioRxJoined = counterMax ∧ (t.state 2).ticks.totalJoined = 103 := by
  intro t
  have reach : Reach interruptedStay t := Reach.start.foldl interruptedStay
  have reception : joinedReports .radioRx 2 interruptedStay = [counterMax, 7] := by decide +kernel
  have all : joinedReports .total 2 interruptedStay = [100, 3] := by decide +kernel
  obtain ⟨-, radioRx, total, -⟩ := reach.joinedTicks 2
  exact ⟨reach, reception, all, radioRx.trans (by rw [reception]; decide), total.trans (by rw [all]; decide)⟩

end Tracker

end MeshTrace
