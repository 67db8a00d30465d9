import MeshTrace.Proofs.Number.Exact
import MeshTrace.Proofs.Run.Roster
import MeshTrace.Proofs.Tracker.Ticks

namespace MeshTrace

/-- How far a node is with a block of reports: all ticks, then those of transmission, then those of reception. The
ticks left are those that the radio may still have spent. -/
inductive BlockStage
  | between
  | opened (left : Nat)
  | sent (left : Nat)
  deriving DecidableEq

namespace BlockStage

/-- Inside a block the node neither joins nor leaves, and reports of the radio and of all ticks come in their order. -/
def next? (id : NodeId) (stage : BlockStage) (e : Event) : Option BlockStage :=
  match stage, TickFigure.total.ticks? id e, (TickFigure.spent .radioTx).ticks? id e,
    (TickFigure.spent .radioRx).ticks? id e with
  | between, some all, none, none => some (opened all)
  | opened left, none, some ticks, none => if ticks ≤ left then some (sent (left - ticks)) else none
  | sent left, none, none, some ticks => if ticks ≤ left then some between else none
  | between, none, none, none => some between
  | stage, none, none, none => if (e.change? id).isSome then none else some stage
  | _, _, _, _ => none

def left : BlockStage → Nat
  | between => 0
  | opened left => left
  | sent left => left

@[simp] theorem left_between : between.left = 0 := rfl

end BlockStage

/-- Where the reports of a node stand after these events, if they come in blocks. -/
def blockStage? (id : NodeId) (events : List Event) : Option BlockStage := events.foldlM (BlockStage.next? id) .between

/-- The reports of a node come in whole blocks, and in none the radio is on for longer than the block is. -/
def InBlocks (id : NodeId) (events : List Event) : Prop := blockStage? id events = some .between

instance (id : NodeId) (events : List Event) : Decidable (InBlocks id events) := inferInstanceAs (Decidable (_ = _))

theorem blockStage?_snoc (id : NodeId) (events : List Event) (e : Event) :
    blockStage? id (events ++ [e]) = (blockStage? id events).bind (·.next? id e) := by
  simp [blockStage?, List.foldlM_append]

/-- The ticks that a node reports where the events before have a property. -/
def reportsWhile (P : List Event → Prop) [DecidablePred P] (figure : TickFigure) (id : NodeId) :
    List Event → List Nat :=
  readAlong fun before e => if P before then figure.ticks? id e else none

theorem joinedReports_eq (figure : JoinedFigure) (id : NodeId) :
    joinedReports figure id = reportsWhile (FoundJoined id) figure.plain id :=
  congrArg readAlong (funext fun before => funext fun e => by rw [figure.ticks?_plain])

section

variable (P : List Event → Prop) [DecidablePred P] (figure : TickFigure) (id : NodeId)

theorem sum_reportsWhile_snoc (events : List Event) (e : Event) :
    (reportsWhile P figure id (events ++ [e])).sum =
      (reportsWhile P figure id events).sum + if P events then (figure.ticks? id e).getD 0 else 0 := by
  rw [reportsWhile, readAlong_snoc, List.sum_append]
  split
  · cases figure.ticks? id e <;> simp
  · simp

/-- Every report is given while a property holds or while it does not. -/
theorem sum_reportsWhile_add_not (events : List Event) :
    (reportsWhile P figure id events).sum + (reportsWhile (fun before => ¬P before) figure id events).sum =
      (figure.reports id events).sum := by
  induction events using List.reverseRecOn with
  | nil => rfl
  | append_singleton events e ih =>
    rw [sum_reportsWhile_snoc, sum_reportsWhile_snoc, figure.reports_snoc, List.sum_append, ← ih]
    by_cases holds : P events <;> cases figure.ticks? id e <;> simp [holds] <;> omega

end

/-- No node leaves by a report. -/
theorem TickFigure.leaves_of_ticks? {figure : TickFigure} {id : NodeId} {e : Event} {ticks : Nat}
    (reported : figure.ticks? id e = some ticks) : e.leaves id = false := by
  obtain ⟨time, node, kind, raw⟩ := e
  cases kind with
  | energest report => simp [Event.leaves, Event.change?, Event.joins?]
  | _ => cases reported

/-- The radio spends no more than what was left, or than all ticks of a block that begins. What the node was found to be
at the start of a block, it is inside. -/
theorem BlockStage.next?_spends {id : NodeId} {stage after : BlockStage} {e : Event}
    (step : stage.next? id e = some after) :
    ((TickFigure.spent .radioTx).ticks? id e).getD 0 + ((TickFigure.spent .radioRx).ticks? id e).getD 0 + after.left ≤
        stage.left + (TickFigure.total.ticks? id e).getD 0 ∧
      (after = between ∨ (TickFigure.spent .radioRx).ticks? id e = none ∧ e.leaves id = false) := by
  unfold next? at step
  split at step
  -- A block begins, transmission is reported, reception is reported, nothing happens between blocks, or inside one.
  case h_1 total tx rx =>
    obtain rfl := Option.some.inj step
    rw [total, tx, rx]
    exact ⟨by simp [left], Or.inr ⟨rfl, TickFigure.leaves_of_ticks? total⟩⟩
  case h_2 total tx rx =>
    obtain ⟨fits, same⟩ := Option.ite_none_right_eq_some.mp step
    obtain rfl := Option.some.inj same
    rw [total, tx, rx]
    exact ⟨by simp [left]; omega, Or.inr ⟨rfl, TickFigure.leaves_of_ticks? tx⟩⟩
  case h_3 total tx rx =>
    obtain ⟨fits, same⟩ := Option.ite_none_right_eq_some.mp step
    obtain rfl := Option.some.inj same
    rw [total, tx, rx]
    exact ⟨by simpa [left] using fits, Or.inl rfl⟩
  case h_4 total tx rx =>
    obtain rfl := Option.some.inj step
    rw [total, tx, rx]
    exact ⟨le_refl _, Or.inl rfl⟩
  case h_5 total tx rx =>
    obtain ⟨stays, same⟩ := Option.ite_none_left_eq_some.mp step
    obtain rfl := Option.some.inj same
    rw [total, tx, rx, Event.leaves, Option.not_isSome_iff_eq_none.mp stays]
    exact ⟨by simp, Or.inr ⟨rfl, rfl⟩⟩
  case h_6 => cases step

/-- A property that changes only when a node reports reception or leaves. -/
def Kept (id : NodeId) (P : List Event → Prop) : Prop :=
  ∀ events e, (TickFigure.spent .radioRx).ticks? id e = none → e.leaves id = false →
    (P (events ++ [e]) ↔ P events)

/-- Being found joined changes only with a report of reception or a departure. -/
theorem kept_foundJoined (id : NodeId) : Kept id (FoundJoined id) := by
  intro events e silent stays
  rw [foundJoined_snoc, ← JoinedFigure.ticks?_plain, JoinedFigure.plain, silent, stays]
  simp

theorem Kept.not {id : NodeId} {P : List Event → Prop} (kept : Kept id P) : Kept id fun before => ¬P before :=
  fun events e silent stays => not_congr (kept events e silent stays)

/-- In the blocks that begin where a property holds, the radio is on for no longer than the blocks are. -/
theorem Kept.radio_add_left_le {P : List Event → Prop} [DecidablePred P] {id : NodeId} (kept : Kept id P)
    {events : List Event} {stage : BlockStage} (reading : blockStage? id events = some stage) :
    (reportsWhile P (.spent .radioTx) id events).sum + (reportsWhile P (.spent .radioRx) id events).sum +
        (if P events then stage.left else 0) ≤
      (reportsWhile P .total id events).sum := by
  induction events using List.reverseRecOn generalizing stage with
  | nil =>
    obtain rfl := Option.some.inj reading
    simp [reportsWhile, readAlong]
  | append_singleton events e ih =>
    rw [blockStage?_snoc] at reading
    obtain ⟨before, read, step⟩ := Option.bind_eq_some_iff.mp reading
    have bound := ih read
    obtain ⟨spends, inside⟩ := BlockStage.next?_spends step
    simp only [sum_reportsWhile_snoc]
    rcases inside with rfl | ⟨silent, stays⟩
    · -- The property may have changed, but nothing is left of the block.
      rw [BlockStage.left_between] at spends ⊢
      by_cases holds : P events <;> simp only [holds, ite_self, ↓reduceIte] at bound ⊢ <;> omega
    · by_cases holds : P events <;> simp only [kept events e silent stays, holds, ↓reduceIte] at bound ⊢ <;> omega

/-- In whole blocks that begin where a property holds, the radio is on for no longer than they are. -/
theorem Kept.radio_le {P : List Event → Prop} [DecidablePred P] {id : NodeId} (kept : Kept id P) {events : List Event}
    (blocks : InBlocks id events) :
    (reportsWhile P (.spent .radioTx) id events).sum + (reportsWhile P (.spent .radioRx) id events).sum ≤
      (reportsWhile P .total id events).sum :=
  (Nat.le_add_right ..).trans (kept.radio_add_left_le blocks)

/-- In whole blocks the radio is on for no longer than they are. -/
theorem InBlocks.radio_le_total {id : NodeId} {events : List Event} (blocks : InBlocks id events) :
    ((TickFigure.spent .radioTx).reports id events).sum + ((TickFigure.spent .radioRx).reports id events).sum ≤
      (TickFigure.total.reports id events).sum := by
  have joined := (kept_foundJoined id).radio_le blocks
  have others := (kept_foundJoined id).not.radio_le blocks
  simp only [← sum_reportsWhile_add_not (FoundJoined id)]
  omega

theorem InBlocks.radioJoined_le {id : NodeId} {events : List Event} (blocks : InBlocks id events) :
    (reportsWhile (FoundJoined id) (.spent .radioTx) id events).sum + (joinedReports .radioRx id events).sum ≤
      (joinedReports .total id events).sum := by
  rw [joinedReports_eq, joinedReports_eq]
  exact (kept_foundJoined id).radio_le blocks

/-- A part is at most a hundred percent of its whole, also where the whole is nothing and the quotient zero. -/
theorem percent_le_iff (part whole : ℕ) : (100 * part / whole : ℚ) ≤ 100 ↔ whole = 0 ∨ part ≤ whole := by
  rcases Nat.eq_zero_or_pos whole with rfl | positive
  · simp
  · have quotient : (100 * part / whole : ℚ) ≤ 100 ↔ (100 * part : ℚ) ≤ 100 * whole :=
      div_le_iff₀ (Nat.cast_pos.mpr positive)
    rw [quotient, mul_le_mul_iff_right₀ (by norm_num), Nat.cast_le, or_iff_right positive.ne']

/-- A part that fits into the whole is at most a hundred percent of it. -/
theorem percent_add_le {part whole : ℕ} (fits : part ≤ whole) (more : ℕ) :
    (100 * (part + more : ℕ) / whole : ℚ) ≤ 100 + 100 * more / whole := by
  have most : (100 * part / whole : ℚ) ≤ 100 := (percent_le_iff part whole).mpr (Or.inr fits)
  rw [Nat.cast_add, mul_add, add_div]
  exact add_le_add_left most _

/-- No operation on a duty cycle rounds: it is a quotient, which is zero where nothing counts as joined. -/
theorem Ticks.dutyCycleJoined_eq {ticks : Ticks} (fits : ticks.radioTx + ticks.radioRxJoined ≤ counterMax) :
    (ticks.dutyCycleJoined : Exact) =
      .number (100 * (ticks.radioTx + ticks.radioRxJoined : ℕ) / (ticks.totalJoined : ℕ)) := by
  rw [dutyCycleJoined, addWrapping_of_le fits]
  split
  · rename_i empty
    rw [empty, Nat.cast_zero, div_zero]
    rfl
  · rename_i some
    rw [Exact.ofNat_eq, Exact.ofNat_eq, Exact.ofNat_eq, Exact.number_mul,
      Exact.number_div (Nat.cast_ne_zero.mpr some)]
    rfl

namespace Tracker

section

variable {α : Type} [Scalar α] {events : List Event} {t : Tracker α} (reach : Reach events t)

include reach

theorem Reach.dutyCycleJoined_of_listed (lastTime : Option Millis) (s : Settings α) {r : NodeRecord α}
    (listed : r ∈ (RunSummary.ofTrace (t.finish lastTime) s).nodes) :
    r.dutyCycleJoined = (t.state r.id).ticks.dutyCycleJoined := by
  obtain ⟨n, kept, -, rfl⟩ := (RunSummary.mem_nodes_ofTrace (fun id n => reach.id_of_finish lastTime) s).mp listed
  have closed : (t.state n.id).ticks = n.ticks := by
    rw [← congrArg Node.ticks (closeEpisode_of_kept kept), Node.closeEpisode_eq]
  exact congrArg Ticks.dutyCycleJoined closed.symm

/-- While no counter is full, transmission counts wherever it is reported, and reception and all ticks where the node is
found joined. The sum of the radio does not wrap around. -/
theorem Reach.ticks_of_blocks {id : NodeId} (blocks : InBlocks id events)
    (counters : (TickFigure.total.reports id events).sum ≤ counterMax) :
    (t.state id).ticks.radioTx + (t.state id).ticks.radioRxJoined ≤ counterMax ∧
      (t.state id).ticks.radioTx = ((TickFigure.spent .radioTx).reports id events).sum ∧
      (t.state id).ticks.radioRxJoined = (joinedReports .radioRx id events).sum ∧
      (t.state id).ticks.totalJoined = (joinedReports .total id events).sum := by
  have radio := blocks.radio_le_total
  have transmission : (t.state id).ticks.radioTx = _ := reach.reported_ticks_state id (.spent .radioTx)
  have reception : (t.state id).ticks.radioRxJoined = _ := reach.accounted_ticks_state id .radioRx
  have all : (t.state id).ticks.totalJoined = _ := reach.accounted_ticks_state id .total
  have receptionSplit := sum_reportsWhile_add_not (FoundJoined id) (.spent .radioRx) id events
  have allSplit := sum_reportsWhile_add_not (FoundJoined id) .total id events
  rw [transmission, reception, all, joinedReports_eq, joinedReports_eq, JoinedFigure.plain, JoinedFigure.plain]
  exact ⟨by omega, min_eq_left (by omega), min_eq_left (by omega), min_eq_left (by omega)⟩

end

/-- In the periods that count as joined the radio is on for no longer than these periods are. The duty cycle joined adds
the transmission of all other periods by design: no transmission is told apart by the joining of the node. It is at
least zero and exceeds 100 percent by no more than this transmission in percent of the periods that count as joined, and
not at all exactly where both fit into these periods. -/
theorem Reach.dutyCycleJoined {events : List Event} {t : Tracker Exact} (reach : Reach events t) {id : NodeId}
    (blocks : InBlocks id events) (counters : (TickFigure.total.reports id events).sum ≤ counterMax) :
    let joined := (joinedReports .total id events).sum
    let radio :=
      (reportsWhile (FoundJoined id) (.spent .radioTx) id events).sum + (joinedReports .radioRx id events).sum
    let astray := (reportsWhile (fun before => ¬FoundJoined id before) (.spent .radioTx) id events).sum
    radio ≤ joined ∧
      ∃ d : ℚ, (t.state id).ticks.dutyCycleJoined = Exact.number d ∧
        (∀ lastTime s, ∀ r ∈ (RunSummary.ofTrace (t.finish lastTime) s).nodes,
          r.id = id → r.dutyCycleJoined = .number d) ∧
        0 ≤ d ∧ (joined = 0 → d = 0) ∧ (joined ≠ 0 → d * joined = 100 * (radio + astray)) ∧
        (d ≤ 100 ↔ joined = 0 ∨ radio + astray ≤ joined) ∧ d ≤ 100 + 100 * astray / joined := by
  intro joined radio astray
  obtain ⟨fits, transmission, reception, all⟩ := reach.ticks_of_blocks blocks counters
  have spent : (t.state id).ticks.radioTx + (t.state id).ticks.radioRxJoined = radio + astray := by
    have split := sum_reportsWhile_add_not (FoundJoined id) (.spent .radioTx) id events
    omega
  have within : radio ≤ joined := blocks.radioJoined_le
  have value : (t.state id).ticks.dutyCycleJoined = Exact.number (100 * (radio + astray : ℕ) / (joined : ℕ)) := by
    rw [Ticks.dutyCycleJoined_eq fits, spent, all]
  refine ⟨within, _, value, fun lastTime s r listed same => ?_, by positivity, fun empty => ?_, fun some => ?_,
    percent_le_iff .., percent_add_le within astray⟩
  · rw [reach.dutyCycleJoined_of_listed lastTime s listed, same, value]
  · rw [empty, Nat.cast_zero, div_zero]
  · rw [div_mul_cancel₀ _ (Nat.cast_ne_zero.mpr some), Nat.cast_add]

/-- Node two transmits for half of a long period before it joins. The period in which it joins began before, and does
not count as joined; the last one does. -/
def lateGuest : List Event :=
  [⟨10000, 2, .energest (.total 400), ""⟩, ⟨10000, 2, .energest (.spent .radioTx 200), ""⟩,
    ⟨10000, 2, .energest (.spent .radioRx 100), ""⟩, ⟨15000, 2, .associated, ""⟩,
    ⟨20000, 2, .energest (.total 100), ""⟩, ⟨20000, 2, .energest (.spent .cpuOn 70), ""⟩,
    ⟨20000, 2, .energest (.spent .radioTx 0), ""⟩, ⟨20000, 2, .energest (.spent .radioRx 10), ""⟩,
    ⟨30000, 2, .energest (.total 100), ""⟩, ⟨30000, 2, .energest (.spent .radioTx 10), ""⟩,
    ⟨30000, 2, .energest (.spent .radioRx 10), ""⟩]

/-- The late guest transmits 20 ticks of 100 in its joined periods, and 200 before. -/
theorem dutyCycleJoined_lateGuest :
    let t : Tracker Exact := lateGuest.foldl apply .start
    Reach lateGuest t ∧ InBlocks 2 lateGuest ∧ (TickFigure.total.reports 2 lateGuest).sum ≤ counterMax ∧
      (joinedReports .total 2 lateGuest).sum = 100 ∧
      ∃ d : ℚ, (t.state 2).ticks.dutyCycleJoined = Exact.number d ∧ d * 100 = 100 * (20 + 200) := by
  intro t
  have reach : Reach lateGuest t := Reach.start.foldl lateGuest
  have blocks : InBlocks 2 lateGuest := by decide +kernel
  have counters : (TickFigure.total.reports 2 lateGuest).sum ≤ counterMax := by decide +kernel
  have joined : (joinedReports .total 2 lateGuest).sum = 100 := by decide +kernel
  have transmission : (reportsWhile (FoundJoined 2) (.spent .radioTx) 2 lateGuest).sum = 10 := by decide +kernel
  have reception : (joinedReports .radioRx 2 lateGuest).sum = 10 := by decide +kernel
  have astray : (reportsWhile (fun before => ¬FoundJoined 2 before) (.spent .radioTx) 2 lateGuest).sum = 200 := by
    decide +kernel
  obtain ⟨-, d, value, -, -, -, quotient, -, -⟩ := reach.dutyCycleJoined blocks counters
  rw [joined, transmission, reception, astray] at quotient
  refine ⟨reach, blocks, counters, joined, d, value, ?_⟩
  have product := quotient (by decide)
  norm_num at product ⊢
  exact product

/-- The duty cycle joined is no part of the periods that count as joined: the reports come in whole blocks, the radio is
on for 20 of the 100 ticks of these periods, and with the 200 ticks of transmission before it is 220 percent. -/
theorem lt_dutyCycleJoined_lateGuest :
    let run := RunSummary.ofTrace ((lateGuest.foldl apply .start).finish none) Exact.settings
    InBlocks 2 lateGuest ∧ (TickFigure.total.reports 2 lateGuest).sum ≤ counterMax ∧
      (joinedReports .total 2 lateGuest).sum = 100 ∧ (joinedReports .radioRx 2 lateGuest).sum = 10 ∧
      (reportsWhile (FoundJoined 2) (.spent .radioTx) 2 lateGuest).sum = 10 ∧
      ∃ d, run.nodes.map (·.dutyCycleJoined) = [Exact.number d] ∧ 100 < d := by
  intro run
  exact ⟨by decide +kernel, by decide +kernel, by decide +kernel, by decide +kernel, by decide +kernel, 220,
    by decide +kernel, by decide +kernel⟩

end Tracker

end MeshTrace
