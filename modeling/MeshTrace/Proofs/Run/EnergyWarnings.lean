import MeshTrace.Proofs.Number.Quotient
import MeshTrace.Proofs.Run.Packets
import MeshTrace.Proofs.Tracker.Ticks

namespace MeshTrace

def EnergestReport.amount : EnergestReport → Nat
  | .period seconds => seconds
  | .total ticks => ticks
  | .spent _ ticks => ticks

/-- No event reports more than a counter holds. -/
def CountersFit (events : List Event) : Prop :=
  ∀ e ∈ events, ∀ report, e.kind = .energest report → report.amount ≤ counterMax

/-- The length of a period that an event reports, if it has any length. -/
def Event.period? (e : Event) : Option Nat :=
  match e.kind with
  | .energest (.period seconds) => if seconds = 0 then none else some seconds
  | _ => none

theorem Event.period?_eq_some {e : Event} {seconds : Nat} (given : e.period? = some seconds) :
    e.kind = .energest (.period seconds) ∧ 0 < seconds := by
  unfold period? at given
  split at given
  · rename_i length reported
    split at given
    · cases given
    · obtain rfl := Option.some.inj given
      exact ⟨reported, by omega⟩
  · cases given

theorem CountersFit.total_le {events : List Event} (counters : CountersFit events) {id : NodeId} {ticks : Nat}
    (reported : ticks ∈ TickFigure.total.reports id events) : ticks ≤ counterMax := by
  obtain ⟨⟨time, node, kind, raw⟩, member, ofNode⟩ := List.mem_filterMap.mp reported
  cases kind with
  | energest report =>
    obtain ⟨other, own, total⟩ := Option.bind_eq_some_iff.mp ofNode
    obtain ⟨rfl, rfl⟩ : node = id ∧ report = other := by simpa [Event.energest?] using own
    cases report with
    | total all =>
      obtain rfl := Option.some.inj total
      exact counters _ member _ rfl
    | _ => cases total
  | _ => cases ofNode

/-- A node that reports no ticks at all. -/
def Tickless (events : List Event) (id : NodeId) : Prop := (TickFigure.total.reports id events).sum = 0

/-- A node that reports ticks, but none the last time. -/
def Stopped (events : List Event) (id : NodeId) : Prop :=
  0 < (TickFigure.total.reports id events).sum ∧ (TickFigure.total.reports id events).getLast? = some 0

instance (events : List Event) : DecidablePred (Tickless events) := fun _ => inferInstanceAs (Decidable (_ = _))

instance (events : List Event) : DecidablePred (Stopped events) := fun _ => inferInstanceAs (Decidable (_ ∧ _))

variable {α : Type}

/-- The nodes other than the coordinator of which something holds. -/
theorem TrackedTrace.countP_others {trace : TrackedTrace α}
    (named : ∀ id n, trace.nodes.get? id = some n → n.id = id)
    (coordinator : NodeId) {p : Node α → Bool} {P : NodeId → Prop} [DecidablePred P]
    (tells : ∀ id n, trace.nodes.get? id = some n → (p n = true ↔ P id)) :
    (trace.nodes.values.filter (·.id != coordinator)).countP p =
      trace.nodes.keys.countP fun id => id ≠ coordinator ∧ P id := by
  rw [← Table.map_values_eq_keys named, List.countP_map, List.countP_filter]
  refine List.countP_congr fun n member => ?_
  obtain ⟨id, kept⟩ := Table.mem_values_iff.mp member
  obtain rfl := named id n kept
  simp [tells _ _ kept, and_comm]

variable [Scalar α]

/-- The rate is that of the last total in the period that was in force then. -/
theorem Node.rate_account (n : Node α) {e : Event} {id : NodeId} (own : e.owner = .node id) :
    (n.account e).ticksPerSecond =
        (TickFigure.total.ticks? id e).elim n.ticksPerSecond
          (fun ticks => Arith.ofNat ticks / Arith.ofNat n.periodSeconds) ∧
      (n.account e).periodSeconds = e.period?.getD n.periodSeconds := by
  obtain ⟨time, node, kind, raw⟩ := e
  cases kind with
  | energest report =>
    obtain rfl := Owner.node.inj own
    cases report with
    | period seconds =>
      by_cases empty : seconds = 0 <;>
        simp [account, apply, countEnergest, TickFigure.ticks?, Event.energest?, TickFigure.reported?, Event.period?,
          empty]
    | total ticks =>
      simp [account, apply, countEnergest, TickFigure.ticks?, Event.energest?, TickFigure.reported?, Event.period?]
    | spent component ticks =>
      cases component <;>
        simp [account, apply, countEnergest, TickFigure.ticks?, Event.energest?, TickFigure.reported?, Event.period?]
  | associated => exact ⟨rfl, rfl⟩
  | left | leftNetwork => simp [account, apply, leave_eq, TickFigure.ticks?, Event.energest?, Event.period?]
  | parentChanged old new =>
    cases new <;> simp [account, apply, join, leave_eq, TickFigure.ticks?, Event.energest?, Event.period?]
  | linkStats counters neighbour =>
    simp only [account, apply]
    rw [countLink_eq]
    exact ⟨rfl, rfl⟩
  | _ => exact ⟨rfl, rfl⟩

namespace Tracker

section

variable {events : List Event} {t : Tracker α} (reach : Reach events t) (id : NodeId)
  (counters : CountersFit events)

include reach counters

/-- The length of a period is a counter and never zero. -/
theorem Reach.periodSeconds_state : 0 < (t.state id).periodSeconds ∧ (t.state id).periodSeconds ≤ counterMax := by
  induction reach with
  | start => exact ⟨Nat.succ_pos 59, show 60 ≤ counterMax by decide⟩
  | @event events t e previous ih =>
    have before := ih fun e member => counters e (List.mem_append_left _ member)
    rw [state_apply]
    split
    · rename_i own
      rw [(Node.rate_account _ own).2]
      cases given : e.period? with
      | none => exact before
      | some seconds =>
        obtain ⟨reported, positive⟩ := Event.period?_eq_some given
        exact ⟨positive, counters e (by simp) _ reported⟩
    · exact before
  | known other previous ih =>
    rw [state_observe]
    exact ih counters

/-- The rate of a node is that of its last total, in some period that has a length. -/
theorem Reach.rate_state :
    ∃ seconds, 0 < seconds ∧ seconds ≤ counterMax ∧
      (t.state id).ticksPerSecond =
        (TickFigure.total.reports id events).getLast?.elim (Arith.ofNat 1)
          fun ticks => Arith.ofNat ticks / Arith.ofNat seconds := by
  induction reach with
  | start => exact ⟨1, by decide, by decide, rfl⟩
  | @event events t e previous ih =>
    have early : CountersFit events := fun e member => counters e (List.mem_append_left _ member)
    rw [state_apply, TickFigure.reports_snoc, List.getLast?_append]
    split
    · rename_i own
      rw [(Node.rate_account _ own).1]
      cases TickFigure.total.ticks? id e with
      | none => exact ih early
      | some ticks =>
        obtain ⟨positive, counter⟩ := previous.periodSeconds_state id early
        exact ⟨_, positive, counter, rfl⟩
    · rename_i other
      rw [TickFigure.total.ticks?_of_owner_ne other]
      exact ih early
  | known other previous ih =>
    rw [state_observe]
    exact ih counters

end

/-- The ticks of a node are zero if it has reported none. -/
theorem Reach.total_eq_zero_iff {events : List Event} {t : Tracker α} (reach : Reach events t) (id : NodeId) :
    (t.state id).ticks.total = 0 ↔ Tickless events id := by
  have total : (t.state id).ticks.total = _ := reach.reported_ticks_state id .total
  rw [total, Tickless, counterMax]
  omega

/-- What the warnings say of the energy accounting of a node is what its totals say. -/
theorem Reach.lacksEnergest_state {events : List Event} {t : Tracker α} (reach : Reach events t) (id : NodeId) :
    (t.state id).lacksEnergest = true ↔ Tickless events id :=
  decide_eq_true_iff.trans (reach.total_eq_zero_iff id)

/-- A node lacks a tick rate if its last report was of no ticks. -/
theorem Reach.lacksTickRate_state {events : List Event} {t : Tracker Float} (reach : Reach events t) (id : NodeId)
    (counters : CountersFit events) :
    (t.state id).lacksTickRate = true ↔ Stopped events id := by
  obtain ⟨seconds, positive, counter, rate⟩ := reach.rate_state id counters
  have total : (t.state id).ticks.total ≠ 0 ↔ 0 < (TickFigure.total.reports id events).sum :=
    (not_congr (reach.total_eq_zero_iff id)).trans Nat.pos_iff_ne_zero.symm
  rw [Node.lacksTickRate, Bool.and_eq_true, decide_eq_true_iff, total, rate, Stopped]
  refine and_congr_right fun some => ?_
  cases last : (TickFigure.total.reports id events).getLast? with
  | none =>
    rw [List.getLast?_eq_none_iff.mp last] at some
    cases some
  | some ticks =>
    have bound := counters.total_le (List.mem_of_getLast? last)
    rw [Option.elim_some, Binary64.le_div_zero_iff bound positive counter, Option.some.injEq]

/-- No warning about energy is given before the end. -/
theorem Reach.unwarned {events : List Event} {t : Tracker α} (reach : Reach events t) :
    t.diagnostics.zeroEnergestNodes = 0 ∧ t.diagnostics.zeroTickRateNodes = 0 := by
  induction reach with
  | start => exact ⟨rfl, rfl⟩
  | event e previous ih =>
    rw [diagnostics_apply]
    rcases e.rejection? _ with _ | _ | _ | _ <;> exact ih
  | known other previous ih => exact ih

end Tracker

/-- A node that is warned about has no charge. -/
theorem Node.charge_record_of_lacks (n : Node α) (s : Settings α)
    (lacks : n.lacksEnergest = true ∨ n.lacksTickRate = true) : (n.record s).charge = Arith.ofNat 0 := by
  show (if n.ticks.total = 0 then Arith.ofNat 0 else n.ticks.charge n.ticksPerSecond s.currents) = Arith.ofNat 0
  rcases lacks with tickless | stopped
  · exact if_pos (of_decide_eq_true tickless)
  · rw [lacksTickRate, Bool.and_eq_true] at stopped
    rw [Ticks.charge, if_pos stopped.2, ite_self]

namespace Tracker

theorem Reach.lacks_finish {events : List Event} {t : Tracker Float} (reach : Reach events t) (lastTime : Option Millis)
    (counters : CountersFit events) {id : NodeId}
    {n : Node Float} (kept : (t.finish lastTime).nodes.get? id = some n) :
    (n.lacksEnergest = true ↔ Tickless events id) ∧ (n.lacksTickRate = true ↔ Stopped events id) := by
  rw [← closeEpisode_of_kept kept, Node.closeEpisode_eq]
  exact ⟨reach.lacksEnergest_state id, reach.lacksTickRate_state id counters⟩

/-- The energy warnings count the nodes by what they reported in the whole trace: those that reported no ticks at all,
and those that reported ticks, but none the last time, whatever periods were in force. No node is in both counts, the
counts do not depend on which nodes are listed, and a node that is counted has no charge. -/
theorem Reach.energyWarnings {events : List Event} {t : Tracker Float} (reach : Reach events t)
    (lastTime : Option Millis) (s : Settings Float) (counters : CountersFit events) :
    let trace := t.finish lastTime
    let run := RunSummary.ofTrace trace s
    run.diagnostics.zeroEnergestNodes = trace.nodes.keys.countP (fun id => id ≠ s.coordinator ∧ Tickless events id) ∧
      run.diagnostics.zeroTickRateNodes = trace.nodes.keys.countP (fun id => id ≠ s.coordinator ∧ Stopped events id) ∧
      (∀ n ∈ trace.nodes.values, ¬(n.lacksEnergest = true ∧ n.lacksTickRate = true)) ∧
      (∀ includeInvalid, (RunSummary.ofTrace trace { s with includeInvalid }).diagnostics = run.diagnostics) ∧
      ∀ r ∈ run.nodes, Tickless events r.id ∨ Stopped events r.id → r.charge = Arith.ofNat 0 := by
  intro trace run
  have named : ∀ id n, trace.nodes.get? id = some n → n.id = id := fun id n => reach.id_of_finish lastTime
  obtain ⟨tickless, stopped⟩ := reach.unwarned
  have warned := RunSummary.foldl_warnings (trace.nodes.values.filter (·.id != s.coordinator)) trace.diagnostics
  have silent : run.diagnostics.zeroEnergestNodes = t.diagnostics.zeroEnergestNodes + _ :=
    congrArg Diagnostics.zeroEnergestNodes warned
  have paused : run.diagnostics.zeroTickRateNodes = t.diagnostics.zeroTickRateNodes + _ :=
    congrArg Diagnostics.zeroTickRateNodes warned
  refine ⟨?_, ?_, fun n member both => ?_, fun includeInvalid => rfl, fun r listed counted => ?_⟩
  · rw [silent, tickless, Nat.zero_add]
    exact TrackedTrace.countP_others named _ fun id n kept => (reach.lacks_finish lastTime counters kept).1
  · rw [paused, stopped, Nat.zero_add]
    exact TrackedTrace.countP_others named _ fun id n kept => (reach.lacks_finish lastTime counters kept).2
  · obtain ⟨id, kept⟩ := Table.mem_values_iff.mp member
    obtain ⟨silent, paused⟩ := reach.lacks_finish lastTime counters kept
    exact (paused.mp both.2).1.ne' (silent.mp both.1)
  · obtain ⟨n, others, rfl⟩ := List.mem_map.mp (List.mem_of_mem_filter listed)
    obtain ⟨id, kept⟩ := Table.mem_values_iff.mp (List.mem_of_mem_filter others)
    obtain rfl := named id n kept
    obtain ⟨silent, paused⟩ := reach.lacks_finish lastTime counters kept
    exact n.charge_record_of_lacks s (counted.imp silent.mpr paused.mpr)

/-- Node two reports ticks in a period of no length, and none in the period after; node three reports none at all, and
node four is only heard of. The coordinator reports nothing either. -/
def fallingSilent : List Event :=
  [⟨10, 2, .energest (.period 0), ""⟩, ⟨20, 2, .energest (.total 500), ""⟩,
    ⟨30, 2, .energest (.spent .cpuOn 500), ""⟩, ⟨40, 2, .energest (.period 30), ""⟩,
    ⟨50, 2, .energest (.total 0), ""⟩, ⟨60, 3, .energest (.total 0), ""⟩, ⟨70, 1, .packetReceived 1 4, ""⟩,
    ⟨80, 5, .energest (.total 7), ""⟩]

/-- One node reports ticks and then none, another never reports any. -/
theorem energyWarnings_fallingSilent :
    let t : Tracker Float := fallingSilent.foldl apply .start
    let run := RunSummary.ofTrace (t.finish none) .standard
    Reach fallingSilent t ∧
      CountersFit fallingSilent ∧
      run.diagnostics.zeroEnergestNodes = 2 ∧ run.diagnostics.zeroTickRateNodes = 1 := by
  intro t run
  have reach : Reach fallingSilent t := Reach.start.foldl fallingSilent
  have counters : CountersFit fallingSilent := by
    simp [CountersFit, fallingSilent, EnergestReport.amount, counterMax]
  obtain ⟨tickless, stopped, -⟩ := reach.energyWarnings none .standard counters
  exact ⟨reach, counters, tickless.trans (by decide +kernel), stopped.trans (by decide +kernel)⟩

end Tracker

end MeshTrace
